import PerformancePanel.Library.SharedCell
import PerformancePanel.Source.InstalledConsole

/-!
# Processes on one config.json

Source: datasource/linux/configurationreader.c in several processes that run at the same
time in one directory. `root_object` and the arrays are each process's own, and nothing
locks the file; calls of different processes come in any order, each of them whole. A
process that is stopped or faults makes no further call.
-/
set_option autoImplicit false

namespace PerformancePanel.Source.SharedConfig
open Common Collector JsonLibrary LinuxReader Library.SharedCell
open InstalledConsole (goesOn)

/-- The reader of one process, with what its calls have returned. -/
structure Process where
  rootObject : Option Json
  tables : Tables
  outcomes : List Outcome
  ended : Bool

/-- A call of the interface, with what becomes of its saves. -/
inductive Call where
  | getBoundDataSource (saves : SaveOutcome × SaveOutcome) (channel : Nat)
  | setChannelSourceBinding (save : SaveOutcome) (channel : Nat) (bindingName : Name)
  | clearBinding (channel : Nat)
  | setChannelCalibration (save : SaveOutcome) (channel : Nat) (calibration : UInt8)

def Call.perform (J : JsonC) : Call → Linux → Linux × Outcome
  | .getBoundDataSource saves channel => LinuxReader.getBoundDataSource J saves channel
  | .setChannelSourceBinding save channel bindingName =>
    LinuxReader.setChannelSourceBinding J save channel bindingName
  | .clearBinding channel => LinuxReader.clearBinding channel
  | .setChannelCalibration save channel calibration =>
    LinuxReader.setChannelCalibration J save channel calibration

/-- A call of a process on the file as it is. -/
def act (J : JsonC) (call : Call) (p : Process) (file : ConfigFile) : Process × ConfigFile :=
  if p.ended then (p, file)
  else
    let result := call.perform J ⟨p.rootObject, file, p.tables⟩
    (⟨result.1.rootObject, result.1.tables, p.outcomes ++ [result.2], !goesOn result.2⟩,
      result.1.file)

/-- The file and the processes on it, by number. -/
abbrev Processes := World Nat Process ConfigFile

/-- Processes that have allocated their arrays and not yet made a call. -/
def begun (file : ConfigFile) (channelCount : Nat → Nat) : Processes :=
  ⟨file, fun p => ⟨none, Tables.zeroed (channelCount p), [], false⟩⟩

/-! ## A call with the document cached -/

/-- The call does the same whatever the file holds, and leaves it alone or overwrites it. -/
def FileBlind (call : Linux → Linux × Outcome) (r : Json) (t : Tables) : Prop :=
  ∃ r' t' outcome written, ∀ file,
    call ⟨some r, file, t⟩ = (⟨some r', Option.getD written file, t'⟩, outcome)

section blind
variable {J : JsonC} {r : Json} {t : Tables}

theorem fileAfter_blind (J : JsonC) (d : Json) (written : Written) :
    ∃ content : Option ConfigFile, ∀ file, fileAfter J d file written = content.getD file := by
  cases written with
  | untouched => exact ⟨none, fun _ => rfl⟩
  | part characters => exact ⟨some (.text (J.readPartial d characters)), fun _ => rfl⟩
  | whole => exact ⟨some (.text (some d)), fun _ => rfl⟩

theorem saveThen_blind (save : SaveOutcome) (d : Json) (commit : Tables → Tables)
    (failure : Status) :
    FileBlind (saveThen J save d commit failure) r t := by
  obtain ⟨content, written⟩ := fileAfter_blind J d save.written
  have saved : ∀ file, saveRoot J save d ⟨some r, file, t⟩ =
    (⟨some d, content.getD file, t⟩, save.result) := by
    intro file
    rw [saveRoot, jsonObjectToFileExt, written]
  cases result : save.result with
  | written => exact ⟨d, commit t, .returned .success, content,
      fun file => by simp only [saveThen, saved, result]⟩
  | error => exact ⟨d, t, .returned failure, content,
      fun file => by simp only [saveThen, saved, result]⟩
  | stopped => exact ⟨d, t, .stopped, content, fun file => by simp only [saveThen, saved, result]⟩

/-- A call that touches no file. -/
theorem quiet_blind {call : Linux → Linux × Outcome} (t' : Tables) (outcome : Outcome)
    (quiet : ∀ file, call ⟨some r, file, t⟩ = (⟨some r, file, t'⟩, outcome)) : FileBlind call r t :=
  ⟨r, t', outcome, none, quiet⟩

theorem addDefault_blind (save : SaveOutcome) (key : String) (value : Json)
    (commit : Tables → Tables) :
    FileBlind (addDefault J save key value commit) r t := by
  cases added : r.put? key value with
  | none =>
    exact quiet_blind t (.fault .notAnObject) fun file => by
      simp only [addDefault, Linux.withMember?, Option.bind_some, added]
  | some d =>
    obtain ⟨r', t', outcome, written, same⟩ :=
      @saveThen_blind J r t save d commit .invalidConfiguration
    exact ⟨r', t', outcome, written, fun file => by
      simp only [addDefault, Linux.withMember?, Option.bind_some, added, same]⟩

theorem bindName_blind (save : SaveOutcome) (channel : Nat) :
    FileBlind (bindName J save channel) r t := by
  cases found : r.get? (channelKey channel) with
  | none =>
    obtain ⟨r', t', outcome, written, same⟩ :=
      @addDefault_blind J r t save (channelKey channel) (.string Names.unallocated.units) id
    exact ⟨r', t', outcome, written, fun file => by
      simp only [bindName, Linux.member?, Option.bind_some, found, same]⟩
  | some object =>
    cases read : J.getString object with
    | none =>
      exact quiet_blind t (.fault .nullString) fun file => by
        simp only [bindName, Linux.member?, Option.bind_some, found, read]
    | some name =>
      exact quiet_blind (t.setCallback channel (nameStringToCallback name)) (.returned .success)
        fun file => by
        simp only [bindName, Linux.member?, Option.bind_some, found, read]

theorem bindCalibration_blind (save : SaveOutcome) (channel : Nat) :
    FileBlind (bindCalibration J save channel) r t := by
  cases found : r.get? (calibrationKey channel) with
  | none =>
    obtain ⟨r', t', outcome, written, same⟩ :=
      @addDefault_blind J r t save (calibrationKey channel) (.int 0x80)
        (·.setCalibration channel 0x80)
    exact ⟨r', t', outcome, written, fun file => by
      simp only [bindCalibration, Linux.member?, Option.bind_some, found, same]⟩
  | some object =>
    exact quiet_blind (t.setCalibration channel (UInt8.ofInt (J.getInt object)))
      (.returned .success) fun file => by
      simp only [bindCalibration, Linux.member?, Option.bind_some, found]

theorem getBoundDataSource_blind (saves : SaveOutcome × SaveOutcome) (channel : Nat) :
    FileBlind (getBoundDataSource J saves channel) r t := by
  obtain ⟨r₁, t₁, outcome, written, named⟩ := @bindName_blind J r t saves.1 channel
  obtain ⟨r₂, t₂, outcome', written', calibrated⟩ := @bindCalibration_blind J r₁ t₁ saves.2 channel
  by_cases success : outcome = .returned .success
  · subst success
    refine ⟨r₂, t₂, outcome', written'.or written, fun file => ?_⟩
    simp only [getBoundDataSource, loadRoot, named, calibrated]
    cases written' <;> rfl
  · refine ⟨r₁, t₁, outcome, written, fun file => ?_⟩
    simp only [getBoundDataSource, loadRoot, named]

theorem setMember_blind (save : SaveOutcome) (key : String) (update : Json → Option Json)
    (commit : Tables → Tables) :
    FileBlind (setMember J save key update commit) r t := by
  have cached : ∀ file, (⟨some r, file, t⟩ : Linux).withMember? key = r.put? key := fun _ => rfl
  cases updated : ((r.get? key).bind update).bind (r.put? key) with
  | none =>
    exact quiet_blind t (.returned .deviceConfigurationFailed) fun file => by
      simp only [setMember, Linux.member?, cached, Option.bind_some, updated]
  | some d =>
    obtain ⟨r', t', outcome, written, same⟩ :=
      @saveThen_blind J r t save d commit .deviceConfigurationFailed
    exact ⟨r', t', outcome, written, fun file => by
      simp only [setMember, Linux.member?, cached, Option.bind_some, updated, same]⟩

/-- Once the document is cached, no call looks at the file. -/
theorem perform_blind (call : Call) : FileBlind (call.perform J) r t := by
  cases call with
  | getBoundDataSource saves channel => exact getBoundDataSource_blind saves channel
  | setChannelSourceBinding save channel bindingName => exact setMember_blind save _ _ _
  | clearBinding channel =>
      exact quiet_blind (t.setCallback channel none) (.returned .success) fun _ => rfl
  | setChannelCalibration save channel calibration => exact setMember_blind save _ _ _

end blind

end PerformancePanel.Source.SharedConfig

import PerformancePanel.Guarantees.LinuxRestart
import PerformancePanel.Source.LinuxProcesses

/-!
# Linux durability

Runs of any number of processes on one config.json, in which a save can fail or be cut
short with the process stopped in it, recorded beside what they do: `acceptable` is the
history a later start may show for a key, the value of the last set operation that returned
success, or of one in progress when its process stopped. A save is not atomic, since it
truncates the file first, and a value whose save failed stays in the cached document: the
file follows the history in the runs where no save is cut short, none that wrote the whole
text is reported failed, and none writes out such a left-over value.
-/
set_option autoImplicit false

namespace PerformancePanel.Guarantees.LinuxDurability
open Source.Common Source.Collector Source.JsonLibrary Source.LinuxReader Source.LinuxLoad
open Source.LinuxProcesses (Session Event after)
open Settings.LinuxStored LinuxRestart Library

/-- A session with its history. -/
structure Recorded extends Session where
  acceptable : Key → List Json

/-- The history after a set operation that ended so. -/
def record (acceptable : Key → List Json) (key : Key) (new : Json) : Outcome → Key → List Json
  | .returned .success => Function.update acceptable key [new]
  | .stopped => Function.update acceptable key (new :: acceptable key)
  | _ => acceptable

/-- The history after an event. -/
def recorded (J : JsonC) (s : Recorded) : Event → Key → List Json
  | .start _ _ => s.acceptable
  | .setChannelSourceBinding save channel bindingName =>
    if s.running ∧ channel < s.count then
      record s.acceptable (.binding channel) (.string bindingName.units)
        (setChannelSourceBinding J save channel bindingName s.linux).2
    else s.acceptable
  | .setChannelCalibration save channel calibration =>
    if s.running ∧ channel < s.count then
      record s.acceptable (.calibration channel) (.int calibration.toNat)
        (setChannelCalibration J save channel calibration s.linux).2
    else s.acceptable
  | .clearBinding _ => s.acceptable

def step (J : JsonC) (s : Recorded) (e : Event) : Recorded :=
  ⟨Source.LinuxProcesses.step J s.toSession e, recorded J s e⟩

/-- Before the first start every stored value is acceptable. -/
def before (file : ConfigFile) : Recorded :=
  ⟨Source.LinuxProcesses.before file, fun key => [storedValue (fresh file (Tables.zeroed 0)) key]⟩

/-- The next start, on a panel with at most `limit` channels, loads config.json and gives every
channel acceptable values. -/
def NextStart (J : JsonC) (limit : Nat) (s : Recorded) : Prop :=
  ∀ count ≤ limit,
    ∃ linux, start J allDone count s.linux.file = .bound linux (.returned .success) ∧
      ∀ channel < count,
        (∃ value ∈ s.acceptable (.binding channel),
          linux.tables.callback channel = decodeBinding J value) ∧
        (∃ value ∈ s.acceptable (.calibration channel),
          linux.tables.calibration channel = decodeCalibration J value)

/-- A set operation's save, made on the cached document `r`, writes nothing or the whole
text; a whole text reported failed held the value already; and a text that is written
has an acceptable value for every other key. -/
def SetDurable (s : Recorded) (key : Key) (update : Json → Option Json) (save : SaveOutcome) :
    Prop :=
  ∀ r new, s.linux.rootObject = some r → (r.get? key.name).bind update = some new →
    Uncut save ∧ (save = .failed .whole → new ∈ s.acceptable key) ∧
      (save.written = .whole → ∀ other, other ≠ key → valueAt r other ∈ s.acceptable other)

/-- The condition on one event, in the state before it. -/
def Durable (s : Recorded) : Event → Prop
  | .start count saves =>
    ∀ d, Holds s.linux.file d → ∀ channel < count, UncutWhereMade d saves channel
  | .setChannelSourceBinding save channel bindingName =>
    s.running ∧ channel < s.count → SetDurable s (.binding channel) (·.setString? bindingName) save
  | .setChannelCalibration save channel calibration =>
    s.running ∧ channel < s.count →
      SetDurable s (.calibration channel) (·.setInt? calibration.toNat) save
  | .clearBinding _ => True

/-- The file holds a document of acceptable values, all readable; the cached document is
an object. -/
structure Good (J : JsonC) (limit : Nat) (s : Recorded) : Prop where
  file : ∃ d, IsObject d ∧ Holds s.linux.file d ∧ ∀ key, valueAt d key ∈ s.acceptable key
  root : ∀ r, s.linux.rootObject = some r → IsObject r
  readable : ∀ channel < limit, ∀ value ∈ s.acceptable (.binding channel), J.getString value ≠ none

section steps
variable {J : JsonC} {limit : Nat} {s : Recorded}

theorem nextStart_of_good (good : Good J limit s) : NextStart J limit s := by
  intro count inside
  obtain ⟨d, object, holds, values⟩ := good.file
  have readable : ∀ c < count, J.getString (valueAt d (.binding c)) ≠ none := fun c below =>
    good.readable c (by omega) _ (values (.binding c))
  obtain ⟨linux, started, loaded⟩ := start_loads object holds (allDone_needed d count) readable
  refine ⟨linux, started, fun channel below => ?_⟩
  have bound := loaded.bound channel below
  exact ⟨⟨_, values _, bound.1⟩, ⟨_, values _, bound.2⟩⟩

theorem start_good (good : Good J limit s) {count : Nat} {saves : Nat → SaveOutcome × SaveOutcome}
    (durable : Durable s (.start count saves)) : Good J limit (step J s (.start count saves)) := by
  obtain ⟨d, object, holds, values⟩ := good.file
  obtain ⟨linux, outcome, started, carried⟩ :=
    start_carries (J := J) object holds saves (durable d holds)
  obtain ⟨f, object', holds', same⟩ := carried.file
  have left : (step J s (.start count saves)).linux = linux :=
    (Source.LinuxProcesses.step_start started).1
  refine ⟨⟨f, object', left ▸ holds', fun key => ?_⟩, fun r root => ?_, good.readable⟩
  · rw [same]
    exact values key
  · rw [left] at root
    exact (carried.root r (loadRoot_cached root)).object

theorem record_other {acceptable : Key → List Json} {key other : Key} (different : other ≠ key)
    (new : Json) (outcome : Outcome) : record acceptable key new outcome other =
      acceptable other := by
  unfold record
  split
  · exact Function.update_of_ne different _ _
  · exact Function.update_of_ne different _ _
  · rfl

theorem mem_record {acceptable : Key → List Json} {key : Key} {new value : Json} {outcome : Outcome}
    (h : value ∈ record acceptable key new outcome key) : value = new ∨ value ∈ acceptable key := by
  unfold record at h
  split at h
  · rw [Function.update_self] at h
    exact Or.inl (List.mem_singleton.mp h)
  · rw [Function.update_self] at h
    exact List.mem_cons.mp h
  · exact Or.inr h

/-- A save that wrote nothing leaves the old document, and a history that only grew. -/
theorem untouched_values {save : SaveOutcome} (written : save.written = .untouched) {d : Json}
    (values : ∀ k, valueAt d k ∈ s.acceptable k) (key : Key) (new root : Json)
    (commit : Tables → Tables) (k : Key) :
    valueAt d k ∈ record s.acceptable key new
      (saveThen J save root commit .deviceConfigurationFailed s.linux).2 k := by
  cases save with
  | done => cases written
  | failed w => exact values k
  | stopped w =>
    show valueAt d k ∈ record s.acceptable key new .stopped k
    by_cases same : k = key
    · rw [same, record, Function.update_self]
      exact List.mem_cons_of_mem _ (values key)
    · rw [record_other same]
      exact values k

/-- A save that wrote the whole text leaves the new value and what the cached document
held for the other keys. -/
theorem whole_values {save : SaveOutcome} (written : save.written = .whole) {r r' new : Json}
    {key : Key}
    (put : r.put? key.name new = some r')
    (alreadyHeld : save = .failed .whole → new ∈ s.acceptable key)
    (others : ∀ other, other ≠ key → valueAt r other ∈ s.acceptable other)
    (commit : Tables → Tables) (k : Key) :
    valueAt r' k ∈ record s.acceptable key new
      (saveThen J save r' commit .deviceConfigurationFailed s.linux).2 k := by
  by_cases same : k = key
  · rw [same, valueAt_put_self put]
    cases save with
    | done =>
      show new ∈ record s.acceptable key new (.returned .success) key
      simp [record]
    | failed w =>
      have whole : w = .whole := written
      exact alreadyHeld (by rw [whole])
    | stopped w =>
      show new ∈ record s.acceptable key new .stopped key
      simp [record]
  · rw [valueAt_put_ne put same, record_other same]
    exact others k same

/-- Every value a history still accepts for a binding has a text. -/
theorem record_readable (good : Good J limit s) {key : Key} {new : Json}
    (text : ∀ c, key = .binding c → J.getString new ≠ none) (outcome : Outcome) :
    ∀ channel < limit, ∀ value ∈ record s.acceptable key new outcome (.binding channel),
      J.getString value ≠ none := by
  intro channel below value member
  by_cases same : key = .binding channel
  · rw [← same] at member
    rcases mem_record member with rfl | old
    · exact text channel same
    · rw [same] at old
      exact good.readable channel below value old
  · rw [record_other (Ne.symm same)] at member
    exact good.readable channel below value member

/-- A set operation under its condition keeps the file and the history together. -/
theorem set_good (good : Good J limit s) {key : Key} {update : Json → Option Json} {new : Json}
    {save : SaveOutcome} {commit : Tables → Tables} (durable : SetDurable s key update save)
    (result : ∀ value updated, update value = some updated → updated = new)
    (text : ∀ c, key = .binding c → J.getString new ≠ none) :
    Good J limit
      ⟨after s.toSession (setMember J save key.name update commit s.linux),
        record s.acceptable key new (setMember J save key.name update commit s.linux).2⟩ := by
  unfold setMember
  cases updated : ((s.linux.member? key.name).bind update).bind (s.linux.withMember? key.name) with
  | none => exact ⟨good.file, good.root, good.readable⟩
  | some r' =>
    rw [Option.bind_eq_some_iff] at updated
    obtain ⟨value, accepted, put⟩ := updated
    obtain ⟨r, root, put⟩ := Option.bind_eq_some_iff.mp put
    have found : (r.get? key.name).bind update = some value := by
      simpa [Linux.member?, root] using accepted
    have isNew : value = new := by
      obtain ⟨old, _, called⟩ := Option.bind_eq_some_iff.mp found
      exact result old value called
    subst isNew
    obtain ⟨uncut, alreadyHeld, others⟩ := durable r value root found
    have state := saveThen_state J save r' commit .deviceConfigurationFailed s.linux
    refine ⟨?_, fun r'' cached => ?_, record_readable good text _⟩
    · show ∃ d, IsObject d ∧
        Holds (saveThen J save r' commit .deviceConfigurationFailed s.linux).1.file d ∧
        ∀ k, valueAt d k ∈ record s.acceptable key value
          (saveThen J save r' commit .deviceConfigurationFailed s.linux).2 k
      rw [state.2]
      cases written : save.written with
      | part characters => exact absurd written (uncut characters)
      | untouched =>
        obtain ⟨d, object, holds, values⟩ := good.file
        exact ⟨d, object, holds, untouched_values written values key value r' commit⟩
      | whole =>
        exact ⟨r', isObject_of_put? put, Or.inl rfl,
          whole_values written put alreadyHeld (others written) commit⟩
    · have replaced : (saveThen J save r' commit .deviceConfigurationFailed s.linux).1.rootObject =
          some r'' := cached
      rw [state.1, Option.some.injEq] at replaced
      rw [← replaced]
      exact isObject_of_put? put

/-- One step under its condition. -/
theorem step_good (e : Event) (good : Good J limit s) (durable : Durable s e) :
    Good J limit (step J s e) := by
  cases e with
  | start count saves => exact start_good good durable
  | setChannelSourceBinding save channel bindingName =>
    simp only [step, Source.LinuxProcesses.step, recorded]
    split
    next allowed =>
      exact set_good good (durable allowed) (fun _ _ updated => (setString?_isSome updated).1)
        (fun _ _ => by simp)
    next => exact good
  | setChannelCalibration save channel calibration =>
    simp only [step, Source.LinuxProcesses.step, recorded]
    split
    next allowed =>
      exact set_good good (durable allowed) (fun _ _ updated => setInt?_isSome updated)
        (fun _ different => by cases different)
    next => exact good
  | clearBinding channel =>
    simp only [step, Source.LinuxProcesses.step, recorded]
    split
    next => exact ⟨good.file, good.root, good.readable⟩
    next => exact good

end steps

/-- Without a channel every start succeeds. -/
theorem nextStart_zero (J : JsonC) (s : Recorded) : NextStart J 0 s := by
  intro count inside
  obtain rfl : count = 0 := by omega
  exact ⟨_, rfl, fun _ negative => absurd negative (Nat.not_lt_zero _)⟩

/-- Before the first start the file and the history agree. -/
theorem before_good {J : JsonC} {limit : Nat} {file : ConfigFile} {d : Json} (object : IsObject d)
    (holds : Holds file d) (readable : ∀ c < limit, J.getString (valueAt d (.binding c)) ≠ none) :
    Good J limit (before file) := by
  have stored : ∀ key, storedValue (fresh file (Tables.zeroed 0)) key = valueAt d key := by
    intro key
    obtain ⟨members, rfl⟩ := object
    rcases holds with rfl | ⟨rfl, empty⟩
    · rfl
    · rw [empty]
      rfl
  have uncached : (before file).linux.rootObject = none := rfl
  refine ⟨⟨d, object, holds, fun key => ?_⟩, fun r cached => ?_, ?_⟩
  · exact List.mem_singleton.mpr (stored key).symm
  · rw [uncached] at cached
    cases cached
  · intro channel below value member
    rw [List.mem_singleton.mp member, stored]
    exact readable channel below

/-- From a configuration that a start loads on a panel with `limit` channels, every run whose
events all meet the condition, whatever panels its starts are on, can be continued at any
point: the next start on a panel with no more than `limit` channels shows the history. -/
theorem durable_run_restores (J : JsonC) {limit : Nat} {file : ConfigFile} {first : Linux}
    (loads : start J allDone limit file = .bound first (.returned .success)) (events : List Event)
    (durable : Runs.EachStep (step J) Durable (before file) events) :
    Runs.AllReached (step J) (NextStart J limit) (before file) events := by
  by_cases positive : 0 < limit
  · obtain ⟨d, object, holds⟩ := holds_of_start positive loads
    have readable := (start_success object holds (allDone_needed d limit) loads).2
    have keeps : ∀ s e, Good J limit s → Durable s e → Good J limit (step J s e) :=
      fun _ e good condition => step_good e good condition
    have reached := Runs.allReached_of_steps keeps (before_good object holds readable) durable
    exact reached.mono fun _ => nextStart_of_good
  · obtain rfl : limit = 0 := by omega
    exact Runs.allReached_of_invariant (fun _ _ _ => nextStart_zero J _) (nextStart_zero J _) events

/-- A first start, then a process stopped inside a save that had written everything, then
another start. -/
def stoppedAfterSave : List Event :=
  [.start 1 allDone, .setChannelCalibration (.stopped .whole) 0 5, .start 1 allDone]

theorem durable_run_restores_stoppedAfterSave :
    Runs.AllReached (step plain) (NextStart plain 1) (before .absent) stoppedAfterSave := by
  have loads : start plain allDone 1 .absent = .bound firstStart (.returned .success) := rfl
  have uncutDone : Uncut .done := fun _ written => by cases written
  have allUncut (d : Json) (channel : Nat) : UncutWhereMade d allDone channel :=
    fun _ => ⟨fun _ => uncutDone, fun _ _ => uncutDone⟩
  have empty : Holds .absent (.object []) := Or.inr ⟨rfl, rfl⟩
  obtain ⟨linux, outcome, started, carried⟩ := start_carries (J := plain) ⟨[], rfl⟩ empty allDone
    (fun channel (_ : channel < 1) => allUncut (.object []) channel)
  have same : linux = firstStart := by
    rw [loads, Initialized.bound.injEq] at started
    exact started.1.symm
  subst same
  refine durable_run_restores plain loads stoppedAfterSave ⟨?_, ?_, ?_, trivial⟩
  · exact fun d _ channel _ => allUncut d channel
  · intro _ r new cached _
    refine ⟨fun _ written => (by cases written), fun different => (by cases different), ?_⟩
    intro _ other _
    have values := (carried.root r (loadRoot_cached cached)).values other
    rw [values]
    exact List.mem_singleton.mpr rfl
  · exact fun d _ channel _ => allUncut d channel

/-- A save that is cut short leaves no configuration to load; and a value whose save
failed without touching the file is written out by another channel's save. -/
theorem failed_save_loses_configuration :
    ¬ Runs.AllReached (step plain) (NextStart plain 1) (before .absent)
        [.start 1 allDone, .setChannelCalibration (.failed (.part 0)) 0 5] ∧
      ¬ Runs.AllReached (step plain) (NextStart plain 1) (before .absent)
        [.start 1 allDone, .setChannelCalibration (.failed .untouched) 0 5,
          .setChannelSourceBinding .done 0 Source.Names.calibration] := by
  constructor
  · intro reached
    obtain ⟨linux, loads, _⟩ := reached.last 1 le_rfl
    have fails : ∃ linux', start plain allDone 1 (.text none) =
        .bound linux' (.returned .invalidConfiguration) := ⟨_, rfl⟩
    obtain ⟨linux', fails⟩ := fails
    have same := loads.symm.trans fails
    rw [Initialized.bound.injEq] at same
    cases same.2
  · intro reached
    obtain ⟨linux, loads, values⟩ := reached.last 1 le_rfl
    obtain ⟨_, value, member, shown⟩ := values 0 (by decide)
    have started : ∃ linux', start plain allDone 1 (.text (some (.object
        [("channel0", .string Source.Names.calibration.units), ("calibration0", .int 5)]))) =
          .bound linux' (.returned .success) ∧ linux'.tables.calibration 0 = 5 := ⟨_, rfl, rfl⟩
    obtain ⟨linux', started, five⟩ := started
    have same := loads.symm.trans started
    rw [Initialized.bound.injEq] at same
    have accepted : value = .int 0x80 := List.mem_singleton.mp member
    rw [same.1, five, accepted] at shown
    exact absurd shown (by decide)

end PerformancePanel.Guarantees.LinuxDurability

import PerformancePanel.Guarantees.LinuxRestart
import PerformancePanel.Guarantees.WindowsRestart

/-!
# Error atomicity of the setters

The Linux setters change the cached document before the save and the arrays after it; the
Windows setters change the array before `RegSetValueEx`. Neither undoes the first change when
the storage refuses the second, so over every run a call that does not return success leaves
everything as it was exactly when the change it had made already was none.
-/
set_option autoImplicit false

namespace PerformancePanel.Guarantees.SetterAtomicity
open Source Source.Common Source.DataSources Source.Collector Source.DataSourceInterface
open Source.JsonLibrary Source.LinuxLoad Library.Runs
open Source.LinuxReader (Linux)
open Source.WindowsReader (Windows RegistryEnv)
open Settings.LinuxStored (linuxApi)
open Settings.WindowsStored (windowsApi)
open LinuxRestart (allDone firstStart)
open WindowsRestart (emptyKey quietEnv quietEnv_succeeds)

/-- The Linux interface when its save goes so. -/
def linuxApiWith (J : JsonC) (save : SaveOutcome) : DataSourceApi Linux :=
  { linuxApi J with
    setChannelSourceBinding := LinuxReader.setChannelSourceBinding J save
    setChannelCalibration := LinuxReader.setChannelCalibration J save }

/-- The Windows interface when `RegSetValueEx` does or does not succeed. -/
def windowsApiWith (nvidiaGpuFound succeeds : Bool) : DataSourceApi Windows :=
  { windowsApi nvidiaGpuFound with
    setChannelSourceBinding := WindowsReader.setChannelSourceBinding nvidiaGpuFound succeeds
    setChannelCalibration := WindowsReader.setChannelCalibration succeeds }

section steps
variable {σ ω V : Type} (api : ω → DataSourceApi σ)

/-- One call, and how the storage takes it. -/
def step (s : σ) (event : ω × Call) : σ := (api event.1).after s event.2

/-- A call that returns another status than success leaves what is observed as it was. -/
def Atomic (observed : σ → V) (s : σ) (event : ω × Call) : Prop :=
  ∀ status, ((api event.1).perform s event.2).2 = .returned status → status ≠ .success →
    observed (step api s event) = observed s

variable {api}

/-- Nothing is asked of a call that succeeds. -/
theorem atomic_of_success {observed : σ → V} {s : σ} {event : ω × Call}
    (succeeded : ((api event.1).perform s event.2).2 = .returned .success) :
    Atomic api observed s event := by
  intro status returned failed
  rw [succeeded, Outcome.returned.injEq] at returned
  exact absurd returned.symm failed

end steps

/-- The arrays and the cached document. -/
def linuxMemory (s : Linux) : Tables × Option Json := (s.tables, s.rootObject)

/-- An update that the stored member takes leaves it the value it is. -/
def AlreadyStored (s : Linux) (key : String) (update : Json → Option Json) : Prop :=
  ∀ value new, s.member? key = some value → update value = some new → value = new

/-- A save fails only for a value the cached document holds already, or is not reached. -/
def LinuxHarmless (s : Linux) : SaveOutcome × Call → Prop
  | (save, .setChannelSourceBinding channel name) =>
    (∃ written, save = .failed written) →
      AlreadyStored s (LinuxReader.channelKey channel) (·.setString? name)
  | (save, .setChannelCalibration channel value) =>
    (∃ written, save = .failed written) →
      AlreadyStored s (LinuxReader.calibrationKey channel) (·.setInt? value.toNat)
  | (_, .clearBinding _) => True

/-- `RegSetValueEx` fails only for a value the array holds already. -/
def WindowsHarmless (nvidiaGpuFound : Bool) (s : Windows) : Bool × Call → Prop
  | (succeeds, .setChannelSourceBinding channel name) =>
    (s.opened && succeeds) = false →
      s.tables.callback channel = WindowsReader.nameStringToCallback nvidiaGpuFound name
  | (succeeds, .setChannelCalibration channel value) =>
    (s.opened && succeeds) = false → s.tables.calibration channel = value
  | (_, .clearBinding _) => True

/-! ## Linux -/

section linux
variable {J : JsonC} {s : Linux}

/-- A document that has the member can be given a new value for it. -/
theorem withMember?_of_member? {key : String} {value : Json} (found : s.member? key = some value)
    (new : Json) :
    ∃ r r', s.rootObject = some r ∧ r.get? key = some value ∧ r.put? key new = some r' ∧
      s.withMember? key new = some r' := by
  obtain ⟨r, root, member⟩ := Option.bind_eq_some_iff.mp found
  cases r with
  | object members =>
    refine ⟨_, _, root, member, rfl, ?_⟩
    rw [Linux.withMember?, root]
    rfl
  | _ => cases member

/-- The document a setter saves is the cached one exactly if the value is stored already. -/
theorem replaced_iff {key : String} {update : Json → Option Json} {r' : Json}
    (replaced : ((s.member? key).bind update).bind (s.withMember? key) = some r') :
    s.rootObject = some r' ↔ AlreadyStored s key update := by
  obtain ⟨new, updated, changed⟩ := Option.bind_eq_some_iff.mp replaced
  obtain ⟨value, found, accepted⟩ := Option.bind_eq_some_iff.mp updated
  obtain ⟨r, r'', root, member, put, changed'⟩ := withMember?_of_member? found new
  have same : r'' = r' := Option.some.inj (changed'.symm.trans changed)
  subst same
  constructor
  · intro cached
    have unchanged : r = r'' := Option.some.inj (root.symm.trans cached)
    subst unchanged
    have stored : r.get? key = some new := put?_eq_self_iff.mp put
    intro value' new' found' accepted'
    have sameValue : value = value' := Option.some.inj (found.symm.trans found')
    subst sameValue
    have sameNew : new = new' := Option.some.inj (accepted.symm.trans accepted')
    subst sameNew
    exact Option.some.inj (member.symm.trans stored)
  · intro already
    have equal : value = new := already value new found accepted
    rw [equal] at member
    have unchanged : r.put? key new = some r := put?_eq_self_iff.mpr member
    rw [root, ← put, unchanged]

/-- The common shape of the two setters. -/
theorem setMember_atomic_iff (save : SaveOutcome) (key : String) (update : Json → Option Json)
    (commit : Tables → Tables) :
    (∀ status, (LinuxReader.setMember J save key update commit s).2 = .returned status →
        status ≠ .success →
        linuxMemory (LinuxReader.setMember J save key update commit s).1 = linuxMemory s) ↔
      ((∃ written, save = .failed written) → AlreadyStored s key update) := by
  unfold LinuxReader.setMember
  cases replaced : ((s.member? key).bind update).bind (s.withMember? key) with
  | none =>
    refine ⟨fun _ _ value new found accepted => ?_, fun _ _ _ _ => rfl⟩
    obtain ⟨_, r', _, _, _, changed⟩ := withMember?_of_member? found new
    rw [found, Option.bind_some, accepted, Option.bind_some, changed] at replaced
    cases replaced
  | some r' =>
    cases save with
    | done =>
      refine ⟨fun _ ⟨_, failed⟩ => (by cases failed), fun _ status returned failed => ?_⟩
      cases returned
      exact absurd rfl failed
    | stopped written =>
      refine ⟨fun _ ⟨_, failed⟩ => (by cases failed), fun _ status returned => ?_⟩
      cases returned
    | failed written =>
      have memory : linuxMemory (LinuxReader.saveThen J (.failed written) r' commit
          .deviceConfigurationFailed s).1 = (s.tables, some r') := rfl
      dsimp only
      rw [memory, linuxMemory, Prod.mk.injEq, eq_comm (a := some r'), replaced_iff replaced]
      constructor
      · intro atomic _
        exact (atomic .deviceConfigurationFailed rfl nofun).2
      · intro already _ _ _
        exact ⟨rfl, already ⟨written, rfl⟩⟩

theorem linux_atomic_iff (event : SaveOutcome × Call) :
    Atomic (linuxApiWith J) linuxMemory s event ↔ LinuxHarmless s event := by
  obtain ⟨save, call⟩ := event
  cases call with
  | setChannelSourceBinding channel name =>
    exact setMember_atomic_iff save (LinuxReader.channelKey channel) (·.setString? name)
      (·.setCallback channel (LinuxReader.nameStringToCallback name))
  | clearBinding channel => exact ⟨fun _ => trivial, fun _ => atomic_of_success rfl⟩
  | setChannelCalibration channel value =>
    exact setMember_atomic_iff save (LinuxReader.calibrationKey channel) (·.setInt? value.toNat)
      (·.setCalibration channel value)

end linux

/-! ## Windows -/

section windows
variable {nvidiaGpuFound : Bool} {count : Nat} {s : Windows} (sized : s.tables.Sized count)

/-- The common tail of the two setters, with the array already changed. -/
theorem setValue_atomic_iff (succeeds : Bool) (key : String) (data : List UInt8)
    (changed : Tables) :
    (∀ status, (WindowsReader.setValue succeeds key data { s with tables := changed }).2 =
        .returned status → status ≠ .success →
        (WindowsReader.setValue succeeds key data { s with tables := changed }).1.tables =
        s.tables) ↔
      ((s.opened && succeeds) = false → changed = s.tables) := by
  unfold WindowsReader.setValue
  cases accepted : s.opened && succeeds with
  | true =>
    refine ⟨fun _ refused => (by cases refused), fun _ status returned failed => ?_⟩
    cases returned
    exact absurd rfl failed
  | false =>
    constructor
    · intro atomic _
      exact atomic .invalidConfiguration rfl nofun
    · intro same _ _ _
      exact same rfl

include sized in
theorem windows_atomic_iff {event : Bool × Call} (below : event.2.channel < count) :
    Atomic (windowsApiWith nvidiaGpuFound) Windows.tables s event ↔
      WindowsHarmless nvidiaGpuFound s event := by
  obtain ⟨succeeds, call⟩ := event
  cases call with
  | setChannelSourceBinding channel name =>
    have entry := Tables.setCallback_eq_self_iff sized below
      (WindowsReader.nameStringToCallback nvidiaGpuFound name)
    exact (setValue_atomic_iff succeeds _ _ _).trans (imp_congr_right fun _ => entry)
  | clearBinding channel => exact ⟨fun _ => trivial, fun _ => atomic_of_success rfl⟩
  | setChannelCalibration channel value =>
    have entry := Tables.setCalibration_eq_self_iff sized below value
    exact (setValue_atomic_iff succeeds _ _ _).trans (imp_congr_right fun _ => entry)

theorem windows_step_sized (event : Bool × Call) (sized : s.tables.Sized count) :
    (step (windowsApiWith nvidiaGpuFound) s event).tables.Sized count := by
  obtain ⟨succeeds, call⟩ := event
  cases call with
  | setChannelSourceBinding channel name =>
    show (WindowsReader.setValue _ _ _ _).1.tables.Sized count
    rw [WindowsReader.setValue_tables, Tables.setCallback_sized]
    exact sized
  | clearBinding channel => exact (Tables.setCallback_sized _ _ _ _).mpr sized
  | setChannelCalibration channel value =>
    show (WindowsReader.setValue _ _ _ _).1.tables.Sized count
    rw [WindowsReader.setValue_tables, Tables.setCalibration_sized]
    exact sized

end windows

/-- From any Linux state, and from whatever state a Windows start left: every call of a run
is atomic exactly when in each step a refused change was none. -/
theorem setters_atomic_iff (J : JsonC) (linux : Linux) (linuxEvents : List (SaveOutcome × Call))
    {nvidiaGpuFound : Bool} {envs : Nat → RegistryEnv} {count : Nat}
    {registry : Registry.RegistryKey} {windows : Windows} {outcome : Outcome}
    (started : WindowsReader.start nvidiaGpuFound envs count registry = .bound windows outcome)
    (windowsEvents : List (Bool × Call))
    (below : ∀ event ∈ windowsEvents, event.2.channel < count) :
    (EachStep (step (linuxApiWith J)) (Atomic (linuxApiWith J) linuxMemory) linux linuxEvents ↔
      EachStep (step (linuxApiWith J)) LinuxHarmless linux linuxEvents) ∧
    (EachStep (step (windowsApiWith nvidiaGpuFound))
        (Atomic (windowsApiWith nvidiaGpuFound) Windows.tables) windows windowsEvents ↔
      EachStep (step (windowsApiWith nvidiaGpuFound)) (WindowsHarmless nvidiaGpuFound) windows
        windowsEvents) := by
  have sized : windows.tables.Sized count := WindowsLoad.start_sized started
  refine ⟨?_, ?_⟩
  · have same : ∀ s event, True → True → (Atomic (linuxApiWith J) linuxMemory s event ↔
        LinuxHarmless s event) := fun _ event _ _ => linux_atomic_iff event
    exact eachStep_congr (fun _ _ _ => trivial) same trivial fun _ _ => trivial
  · have same : ∀ s (event : Bool × Call), s.tables.Sized count → event.2.channel < count →
        (Atomic (windowsApiWith nvidiaGpuFound) Windows.tables s event ↔
          WindowsHarmless nvidiaGpuFound s event) :=
            fun _ _ sized inside => windows_atomic_iff sized inside
    have keeps : ∀ s event, s.tables.Sized count →
        (step (windowsApiWith nvidiaGpuFound) s event).tables.Sized count :=
      fun _ event sized => windows_step_sized event sized
    exact eachStep_congr keeps same sized below

/-- A save that fails on a value the document has, and one that fails on a new one. -/
def linuxRefusals : List (SaveOutcome × Call) :=
  [(.failed .untouched, .setChannelSourceBinding 0 Names.unallocated),
    (.failed .untouched, .setChannelCalibration 0 5)]

def windowsRefusals : List (Bool × Call) := [(false, .setChannelSourceBinding 0 Names.calibration)]

theorem setters_atomic_refusals :
    ∃ windows, WindowsReader.start true quietEnv 1 emptyKey = .bound windows (.returned .success) ∧
      (EachStep (step (linuxApiWith plain)) (Atomic (linuxApiWith plain) linuxMemory) firstStart
          linuxRefusals ↔
        EachStep (step (linuxApiWith plain)) LinuxHarmless firstStart linuxRefusals) ∧
      (EachStep (step (windowsApiWith true)) (Atomic (windowsApiWith true) Windows.tables) windows
          windowsRefusals ↔
        EachStep (step (windowsApiWith true)) (WindowsHarmless true) windows windowsRefusals) := by
  obtain ⟨windows, started, _⟩ := WindowsLoad.start_takes true emptyKey (quietEnv_succeeds 1)
  have below : ∀ event ∈ windowsRefusals, event.2.channel < 1 := by
    intro event member
    rw [List.mem_singleton.mp member]
    exact Nat.zero_lt_one
  exact ⟨windows, started, setters_atomic_iff plain firstStart linuxRefusals started
    windowsRefusals below⟩

/-- After a first start of one channel: the failed save leaves the new calibration in the
cached document, the refused `RegSetValueEx` the new source in the array. -/
theorem refused_setters_change_memory :
    LinuxReader.start plain allDone 1 .absent = .bound firstStart (.returned .success) ∧
      ¬ Atomic (linuxApiWith plain) linuxMemory firstStart
        (.failed .untouched, .setChannelCalibration 0 5) ∧
      ∃ windows, WindowsReader.start true quietEnv 1 emptyKey =
        .bound windows (.returned .success) ∧
        ¬ Atomic (windowsApiWith true) Windows.tables windows
          (false, .setChannelSourceBinding 0 Names.calibration) := by
  obtain ⟨windows, started, taken⟩ := WindowsLoad.start_takes true emptyKey (quietEnv_succeeds 1)
  refine ⟨rfl, fun atomic => ?_, windows, started, fun atomic => ?_⟩
  · have kept := atomic .deviceConfigurationFailed rfl nofun
    cases congrArg Prod.snd kept
  · have below : (Call.setChannelSourceBinding 0 Names.calibration).channel < 1 := Nat.zero_lt_one
    have harmless : WindowsHarmless true windows
      (false, .setChannelSourceBinding 0 Names.calibration) :=
      (@windows_atomic_iff true 1 windows taken.sized (false, _) below).mp atomic
    have same := harmless (Bool.and_false _)
    rw [(taken.named 0 Nat.zero_lt_one).2] at same
    exact absurd same (by decide)

end PerformancePanel.Guarantees.SetterAtomicity

import PerformancePanel.Guarantees.LinuxRestart
import PerformancePanel.Settings.WindowsStored

/-!
# Independence of the channels

A call sets one entry, the binding or the calibration of its channel, in the arrays and
under that entry's key in the store. Every other entry stays, and calls that set different
entries can be made in either order: the arrays and the stored content come out the same,
down to the order of the members in config.json.
-/
set_option autoImplicit false

namespace PerformancePanel.Guarantees.ChannelIndependence
open Source Source.Common Source.DataSources Source.Collector Source.DataSourceInterface
open Source.JsonLibrary Source.LinuxLoad Settings Library
open Source.LinuxReader (Linux)
open Source.WindowsReader (Windows)
open Source.Registry (RegistryKey regSetValueEx regSetValueEx_comm dword)
open LinuxRestart (allDone start_inSync admissible_of_below)

/-- The entry that a call sets. -/
def entry : Call → Key
  | .setChannelSourceBinding channel _ => .binding channel
  | .clearBinding channel => .binding channel
  | .setChannelCalibration channel _ => .calibration channel

/-- The property, in one state and for channels below the count. -/
structure Independent {σ B C : Type} (R : Representation σ B C) (count : Nat) (s : σ) : Prop where
  bindings : ∀ call, call.channel < count → ∀ channel < count, entry call ≠ .binding channel →
    (R.api.tables (R.api.after s call)).callback channel = (R.api.tables s).callback channel ∧
      R.storedBinding (R.api.after s call) channel = R.storedBinding s channel
  calibrations : ∀ call, call.channel < count → ∀ channel < count,
    entry call ≠ .calibration channel →
    (R.api.tables (R.api.after s call)).calibration channel = (R.api.tables s).calibration channel ∧
      R.storedCalibration (R.api.after s call) channel = R.storedCalibration s channel
  orders : ∀ first second, first.channel < count → second.channel < count →
    entry first ≠ entry second →
    R.api.after (R.api.after s first) second = R.api.after (R.api.after s second) first

/-- Both keys of a `uint8_t` channel, with their NUL, fit the smallest buffer they are
printed to (16 characters for `Channel%d`, 32 for the others). -/
def KeysFit (channelKey calibrationKey : Nat → String) : Prop :=
  ∀ channel < 256, (channelKey channel).length + 1 ≤ 16 ∧ (calibrationKey channel).length + 1 ≤ 32

theorem numbered_keysFit {word word' : String} (short : word.length ≤ 12)
    (short' : word'.length ≤ 28) :
    KeysFit (Names.numbered word) (Names.numbered word') := by
  intro channel small
  have first := Names.numbered_length word small
  have second := Names.numbered_length word' small
  omega

/-! ## The arrays -/

/-- What a call that the storage accepts does to the arrays. -/
def commit (nameStringToCallback : Name → Callback) : Call → Tables → Tables
  | .setChannelSourceBinding channel name, t => t.setCallback channel (nameStringToCallback name)
  | .clearBinding channel, t => t.setCallback channel none
  | .setChannelCalibration channel value, t => t.setCalibration channel value

section arrays
variable {source : Name → Callback} {first second : Call}

theorem commit_callback {call : Call} {channel : Nat} (different : entry call ≠ .binding channel)
    (t : Tables) : (commit source call t).callback channel = t.callback channel := by
  cases call with
  | setChannelSourceBinding c name =>
    exact Tables.callback_setCallback_ne t
      (fun same => different (congrArg Key.binding same.symm)) _
  | clearBinding c =>
    exact Tables.callback_setCallback_ne t
      (fun same => different (congrArg Key.binding same.symm)) _
  | setChannelCalibration c value => rfl

theorem commit_calibration {call : Call} {channel : Nat}
    (different : entry call ≠ .calibration channel) (t : Tables) :
    (commit source call t).calibration channel = t.calibration channel := by
  cases call with
  | setChannelSourceBinding c name => rfl
  | clearBinding c => rfl
  | setChannelCalibration c value =>
    exact Tables.calibration_setCalibration_ne t
      (fun same => different (congrArg Key.calibration same.symm)) _

/-- Array entries of different calls are set in either order: two callbacks or two
calibrations of different channels, or one entry of each array. -/
theorem commit_comm (different : entry first ≠ entry second) (t : Tables) :
    commit source second (commit source first t) =
      commit source first (commit source second t) := by
  have bindings {c c' : Nat} (apart : Key.binding c ≠ Key.binding c') : c ≠ c' :=
    fun same => apart (congrArg Key.binding same)
  have calibrations {c c' : Nat} (apart : Key.calibration c ≠ Key.calibration c') : c ≠ c' :=
    fun same => apart (congrArg Key.calibration same)
  cases first with
  | setChannelSourceBinding c name =>
    cases second with
    | setChannelSourceBinding c' name' => exact Tables.setCallback_comm t (bindings different) _ _
    | clearBinding c' => exact Tables.setCallback_comm t (bindings different) _ _
    | setChannelCalibration c' value' => rfl
  | clearBinding c =>
    cases second with
    | setChannelSourceBinding c' name' => exact Tables.setCallback_comm t (bindings different) _ _
    | clearBinding c' => exact Tables.setCallback_comm t (bindings different) _ _
    | setChannelCalibration c' value' => rfl
  | setChannelCalibration c value =>
    cases second with
    | setChannelSourceBinding c' name' => rfl
    | clearBinding c' => rfl
    | setChannelCalibration c' value' =>
      exact Tables.setCalibration_comm t (calibrations different) _ _

end arrays

/-! ## Linux -/

section linux
variable {J : JsonC} {s : Linux} {d : Json} {key : String} {update : Json → Option Json}
  {change : Tables → Tables}

/-- What a setter asks of the document is not changed by a setter of another key. -/
theorem request_put {r new : Json} {other : String} (put : d.put? other new = some r)
    (different : key ≠ other) : (r.get? key).bind update = (d.get? key).bind update := by
  rw [get?_put?_ne put different]

/-- Setters of different keys commute, whether each is accepted or refused. -/
theorem setMember_comm (root : s.rootObject = some d) (object : IsObject d) {key' : String}
    (different : key ≠ key') {update' : Json → Option Json} {change' : Tables → Tables}
    (changes : ∀ t, change' (change t) = change (change' t)) :
    (LinuxReader.setMember J .done key' update' change'
        (LinuxReader.setMember J .done key update change s).1).1 =
      (LinuxReader.setMember J .done key update change
        (LinuxReader.setMember J .done key' update' change' s).1).1 := by
  have swapped : key' ≠ key := Ne.symm different
  cases first : (d.get? key).bind update with
  | none =>
    rw [setMember_refused root first]
    cases second : (d.get? key').bind update' with
    | none => rw [setMember_refused root second, setMember_refused root first]
    | some new' =>
      obtain ⟨r', put', _⟩ := isObject_put? object key' new'
      have still : (r'.get? key).bind update = none := (request_put put' different).trans first
      rw [setMember_replaced root second put', setMember_refused rfl still]
  | some new =>
    obtain ⟨r, put, object'⟩ := isObject_put? object key new
    rw [setMember_replaced root first put]
    cases second : (d.get? key').bind update' with
    | none =>
      have still : (r.get? key').bind update' = none := (request_put put swapped).trans second
      rw [setMember_refused rfl still, setMember_refused root second,
        setMember_replaced root first put]
    | some new' =>
      obtain ⟨r', put', _⟩ := isObject_put? object key' new'
      obtain ⟨both, putBoth, _⟩ := isObject_put? object' key' new'
      have present : d.get? key ≠ none := by
        intro missing
        rw [missing] at first
        cases first
      have putBoth' : r'.put? key new = some both :=
        (put?_comm different present put put').symm.trans putBoth
      have still : (r.get? key').bind update' = some new' := (request_put put swapped).trans second
      have still' : (r'.get? key).bind update = some new := (request_put put' different).trans first
      rw [setMember_replaced rfl still putBoth, setMember_replaced root second put',
        setMember_replaced rfl still' putBoth', changes]

/-- A setter asks nothing of the arrays. -/
theorem setMember_tables {f : Tables → Tables} (changes : ∀ t, f (change t) = change (f t)) :
    (LinuxReader.setMember J .done key update change { s with tables := f s.tables }).1 =
      { (LinuxReader.setMember J .done key update change s).1 with
        tables := f (LinuxReader.setMember J .done key update change s).1.tables } := by
  have asked : ({ s with tables := f s.tables } : Linux).member? key = s.member? key := rfl
  have replaced : ({ s with tables := f s.tables } : Linux).withMember? key =
    s.withMember? key := rfl
  unfold LinuxReader.setMember
  rw [asked, replaced]
  cases ((s.member? key).bind update).bind (s.withMember? key) with
  | none => rfl
  | some r =>
    show (⟨some r, .text (some r), change (f s.tables)⟩ : Linux) =
      ⟨some r, .text (some r), f (change s.tables)⟩
    rw [changes]

/-- What a call asks of the member of its entry; `clear_binding` asks nothing. -/
def request : Call → Option (Json → Option Json)
  | .setChannelSourceBinding _ name => some (·.setString? name)
  | .clearBinding _ => none
  | .setChannelCalibration _ value => some (·.setInt? value.toNat)

theorem linux_after (J : JsonC) (s : Linux) (call : Call) :
    (Settings.LinuxStored.linuxApi J).after s call =
      match request call with
      | some update => (LinuxReader.setMember J .done (entry call).name update
          (commit LinuxReader.nameStringToCallback call) s).1
      | none => { s with tables := commit LinuxReader.nameStringToCallback call s.tables } := by
  cases call <;> rfl

theorem linux_orders (root : s.rootObject = some d) (object : IsObject d) {first second : Call}
    (different : entry first ≠ entry second) :
    (Settings.LinuxStored.linuxApi J).after
        ((Settings.LinuxStored.linuxApi J).after s first) second =
      (Settings.LinuxStored.linuxApi J).after
        ((Settings.LinuxStored.linuxApi J).after s second) first := by
  have keys : (entry first).name ≠ (entry second).name :=
    fun same => different (key_name_injective same)
  have changes (t : Tables) :
      commit LinuxReader.nameStringToCallback second
          (commit LinuxReader.nameStringToCallback first t) =
        commit LinuxReader.nameStringToCallback first
          (commit LinuxReader.nameStringToCallback second t) :=
    commit_comm different t
  simp only [linux_after]
  cases request first with
  | some update =>
    cases request second with
    | some update' => exact setMember_comm root object keys changes
    | none => exact (setMember_tables changes).symm
  | none =>
    cases request second with
    | some update' => exact setMember_tables fun t => (changes t).symm
    | none => exact congrArg (fun tables => { s with tables := tables }) (changes s.tables)

/-- A reader loaded with success keeps every other entry, in memory and in its file. -/
theorem linux_independent {count : Nat} (loaded : LinuxStored.Loaded J count s) :
    Independent (LinuxStored.representation J) count s where
  bindings := fun call below channel _ different => by
    have admissible := admissible_of_below below
    have other : call.isBindingOf channel = false := by
      cases call with
      | setChannelSourceBinding c name => simpa [entry, Call.isBindingOf] using different
      | clearBinding c => simpa [entry, Call.isBindingOf] using different
      | setChannelCalibration c value => rfl
    exact (@StoredReader.after_other _ _ _ (LinuxStored.linuxStored J count) s loaded call
      admissible channel other).symm
  calibrations := fun call below channel _ different => by
    have admissible := admissible_of_below below
    have other : ∀ value, call ≠ .setChannelCalibration channel value := by
      rintro value rfl
      exact different rfl
    exact (@StoredReader.after_otherCalibration _ _ _ (LinuxStored.linuxStored J count) s
      loaded call admissible channel other).symm
  orders := fun first second below _ different => by
    obtain ⟨d, saved⟩ := loaded.2 (by omega)
    exact linux_orders saved.root saved.object different

end linux

/-! ## Windows -/

section windows
variable {nvidiaGpuFound : Bool} {s : Windows}

/-- The registry value of an entry. -/
def valueName : Key → String
  | .binding channel => WindowsReader.channelKey channel
  | .calibration channel => WindowsReader.calibrationKey channel

theorem valueName_injective {first second : Key} (h : valueName first = valueName second) :
    first = second := by
  cases first with
  | binding c =>
    cases second with
    | binding c' => exact congrArg Key.binding (WindowsLoad.channelKey_injective h)
    | calibration c' => exact absurd h (WindowsLoad.channelKey_ne_calibrationKey c c')
  | calibration c =>
    cases second with
    | binding c' => exact absurd h.symm (WindowsLoad.channelKey_ne_calibrationKey c' c)
    | calibration c' => exact congrArg Key.calibration (WindowsLoad.calibrationKey_injective h)

/-- The data a call sets for its entry; `clear_binding` sets none. -/
def data : Call → Option (List UInt8)
  | .setChannelSourceBinding _ name => some (WindowsReader.stored name)
  | .clearBinding _ => none
  | .setChannelCalibration _ value => some (dword value)

def record (call : Call) (registry : RegistryKey) : RegistryKey :=
  match data call with
  | some data => regSetValueEx registry (valueName (entry call)) data
  | none => registry

/-- What a call does to the whole state; a key that is not open takes no value. -/
theorem windows_after (nvidiaGpuFound : Bool) (s : Windows) (call : Call) :
    (Settings.WindowsStored.windowsApi nvidiaGpuFound).after s call =
      { s with
        registry := if s.opened then record call s.registry else s.registry
        tables := commit (WindowsReader.nameStringToCallback nvidiaGpuFound) call s.tables } := by
  obtain ⟨opened, registry, tables⟩ := s
  cases opened <;> cases call <;> rfl

/-- The values of other entries stay. -/
theorem windows_registry_other {call : Call} {key : Key} (different : entry call ≠ key) :
    ((Settings.WindowsStored.windowsApi nvidiaGpuFound).after s call).registry (valueName key) =
      s.registry (valueName key) := by
  rw [windows_after]
  dsimp only
  split
  · unfold record
    cases data call with
    | some data =>
      exact Registry.regSetValueEx_ne _ (fun same => different (valueName_injective same.symm)) _
    | none => rfl
  · rfl

theorem record_comm {first second : Call} (different : entry first ≠ entry second)
    (registry : RegistryKey) :
    record second (record first registry) = record first (record second registry) := by
  unfold record
  cases data first with
  | some value =>
    cases data second with
    | some value' =>
      exact regSetValueEx_comm _ (fun same => different (valueName_injective same)) _ _
    | none => rfl
  | none => rfl

/-- On Windows every state is such, whatever the key holds. -/
theorem windows_independent (nvidiaGpuFound : Bool) (count : Nat) (s : Windows) :
    Independent (WindowsStored.representation nvidiaGpuFound) count s where
  bindings := fun call _ channel _ different => by
    refine ⟨?_, windows_registry_other different⟩
    show ((WindowsStored.windowsApi nvidiaGpuFound).after s call).tables.callback channel = _
    rw [windows_after]
    exact commit_callback different s.tables
  calibrations := fun call _ channel _ different => by
    refine ⟨?_, windows_registry_other different⟩
    show ((WindowsStored.windowsApi nvidiaGpuFound).after s call).tables.calibration channel = _
    rw [windows_after]
    exact commit_calibration different s.tables
  orders := fun first second _ _ different => by
    show (WindowsStored.windowsApi nvidiaGpuFound).after
        ((WindowsStored.windowsApi nvidiaGpuFound).after s first) second =
      (WindowsStored.windowsApi nvidiaGpuFound).after
        ((WindowsStored.windowsApi nvidiaGpuFound).after s second) first
    simp only [windows_after, commit_comm different]
    cases s.opened with
    | true => simp only [if_true, record_comm different]
    | false => rfl

end windows

/-- On Linux in every state reached from a successful start on any config.json, on Windows
in every state at all, for any names and values: a call leaves every other entry as it was,
in the arrays and in the store, and two calls that set different entries leave the same
arrays and the same stored content in either order. The keys fit their buffers. -/
theorem channels_independent (J : JsonC) (nvidiaGpuFound : Bool) {count : Nat} {file : ConfigFile}
    {linux : Linux} (started : LinuxReader.start J allDone count file =
      .bound linux (.returned .success))
    (calls : List Call) (below : ∀ call ∈ calls, call.channel < count) :
    Independent (LinuxStored.representation J) count
        (Runs.run (LinuxStored.linuxApi J).after linux calls) ∧
      (∀ windows, Independent (WindowsStored.representation nvidiaGpuFound) count windows) ∧
      KeysFit LinuxReader.channelKey LinuxReader.calibrationKey ∧
      KeysFit WindowsReader.channelKey WindowsReader.calibrationKey := by
  have admissible : ∀ call ∈ calls, Call.Admissible (LinuxStored.linuxStored J count).count
      (LinuxStored.linuxStored J count).fits call :=
    fun call member => admissible_of_below (below call member)
  have loaded := (StoredReader.run_cells (start_inSync started).1 admissible).1
  exact ⟨linux_independent loaded, windows_independent nvidiaGpuFound count,
    numbered_keysFit (by decide) (by decide), numbered_keysFit (by decide) (by decide)⟩

/-- Two channels of a first start, one of them bound and the other recalibrated. -/
def bothChanged : List Call :=
  [.setChannelSourceBinding 1 Names.calibration, .setChannelCalibration 0 5]

theorem channels_independent_bothChanged :
    ∃ linux, LinuxReader.start plain allDone 2 .absent = .bound linux (.returned .success) ∧
      Independent (LinuxStored.representation plain) 2
        (Runs.run (LinuxStored.linuxApi plain).after linux bothChanged) ∧
      (∀ windows, Independent (WindowsStored.representation true) 2 windows) ∧
      KeysFit LinuxReader.channelKey LinuxReader.calibrationKey ∧
      KeysFit WindowsReader.channelKey WindowsReader.calibrationKey := by
  have below : ∀ call ∈ bothChanged, call.channel < 2 := by
    intro call member
    simp only [bothChanged, List.mem_cons, List.not_mem_nil, or_false] at member
    rcases member with rfl | rfl <;> decide
  exact ⟨_, rfl, channels_independent plain true rfl bothChanged below⟩

end PerformancePanel.Guarantees.ChannelIndependence

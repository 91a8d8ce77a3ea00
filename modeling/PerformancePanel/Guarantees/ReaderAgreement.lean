import PerformancePanel.Guarantees.LinuxRestart
import PerformancePanel.Guarantees.WindowsRestart

/-!
# Agreement of the two readers

config.json and a registry key that hold the same partial map of names and calibrations
give the same arrays, names and statuses through every sequence of calls, on the names
that both readers treat alike. The two differ in one default: a channel stored as
`Calibration` without a calibration value starts at 0xFF on Windows and at 0x80 on Linux.
Agreement holds exactly when no channel is stored so.
-/
set_option autoImplicit false

namespace PerformancePanel.Guarantees.ReaderAgreement
open Source Source.Common Source.DataSources Source.Collector Source.DataSourceInterface
open Source.JsonLibrary Source.Registry Source.LinuxLoad Settings Library
open Source.LinuxReader (Linux)
open Source.WindowsReader (Windows RegistryEnv)
open Source.WindowsLoad (EnvSucceeds)
open Settings.LinuxStored (linuxApi storedValue isString isInt)
open Settings.WindowsStored (windowsApi)
open LinuxRestart (allDone)
open WindowsRestart (quietEnv quietEnv_succeeds)

/-- A partial map from channels to binding names and calibration values. -/
structure Preset where
  binding : Nat → Option Name
  calibration : Nat → Option UInt8

/-- config.json represents the map; its other members are arbitrary. -/
def InFile (preset : Preset) (file : ConfigFile) : Prop :=
  ∃ d, IsObject d ∧ Holds file d ∧ ∀ channel,
    d.get? (LinuxReader.channelKey channel) =
      (preset.binding channel).map (fun name => .string name.units) ∧
    d.get? (LinuxReader.calibrationKey channel) =
      (preset.calibration channel).map (fun value => .int value.toNat)

/-- The registry key represents the map, names with their NUL. -/
def InKey (preset : Preset) (registry : RegistryKey) : Prop :=
  ∀ channel,
    registry (WindowsReader.channelKey channel) =
      (preset.binding channel).map (fun name => bytes (name.units ++ [0])) ∧
    registry (WindowsReader.calibrationKey channel) = (preset.calibration channel).map dword

/-- `Unallocated`, `Calibration`, or a name that neither reader knows. -/
def Shared (name : Name) : Prop :=
  name = Names.unallocated ∨ name = Names.calibration ∨
    (name ∉ LinuxReader.dataSourceNames ∧ name ∉ WindowsReader.dataSourceNames)

/-- Both processes and the outcomes of their last call. -/
structure Pair where
  linux : Linux
  windows : Windows
  outcomes : Outcome × Outcome

def step (J : JsonC) (nvidiaGpuFound : Bool) (p : Pair) (call : Call) : Pair where
  linux := (linuxApi J).after p.linux call
  windows := (windowsApi nvidiaGpuFound).after p.windows call
  outcomes := (((linuxApi J).perform p.linux call).2,
    ((windowsApi nvidiaGpuFound).perform p.windows call).2)

/-- The same entry in both callback arrays, NULL or the calibration source. -/
def SameCallback (p : Pair) (channel : Nat) : Prop :=
  p.linux.tables.callback channel = p.windows.tables.callback channel ∧
    (p.linux.tables.callback channel = none ∨
      p.linux.tables.callback channel = some .calibration)

/-- What an observer of both sees: status, arrays and reported names. -/
def Agree (J : JsonC) (nvidiaGpuFound : Bool) (count : Nat) (p : Pair) : Prop :=
  p.outcomes.1 = p.outcomes.2 ∧ ∀ channel < count,
    SameCallback p channel ∧
    p.linux.tables.calibration channel = p.windows.tables.calibration channel ∧
    (linuxApi J).getSourceBindingName p.linux channel =
      (windowsApi nvidiaGpuFound).getSourceBindingName p.windows channel

/-- Every default agrees: no calibration channel is stored without its calibration. -/
def Calibrated (count : Nat) (preset : Preset) : Prop :=
  ∀ channel < count, preset.binding channel = some Names.calibration →
    preset.calibration channel ≠ none

/-! ## Names both readers treat alike -/

theorem linux_callback_cases (name : Name) :
    LinuxReader.nameStringToCallback name = none ∨
      LinuxReader.nameStringToCallback name = some .calibration := by
  unfold LinuxReader.nameStringToCallback
  by_cases same : name = Names.calibration
  · exact Or.inr (if_pos same)
  · exact Or.inl (if_neg same)

/-- A shared name has the same source on both sides. -/
theorem shared_callback (nvidiaGpuFound : Bool) {name : Name} (shared : Shared name) :
    WindowsReader.nameStringToCallback nvidiaGpuFound name =
      LinuxReader.nameStringToCallback name := by
  rcases shared with rfl | rfl | ⟨_, unknown⟩
  · rw [WindowsLoad.nameStringToCallback_unallocated]
    rfl
  · rfl
  · have differs (known : Name) (listed : known ∈ WindowsReader.dataSourceNames) :
        name ≠ known := by
      intro same
      rw [same] at unknown
      exact unknown listed
    unfold WindowsReader.nameStringToCallback LinuxReader.nameStringToCallback
    rw [if_neg (differs Names.calibration (by decide)),
      if_neg (differs Names.cpuUtility (by decide)),
      if_neg (differs Names.gpuUtility (by decide)),
      if_neg (differs Names.gpuTemperature (by decide)),
      if_neg (differs Names.ramUtility (by decide)), if_neg (differs Names.calibration (by decide))]

/-- Equal entries are reported by equal names. -/
theorem sameCallback_names (J : JsonC) (nvidiaGpuFound : Bool) {p : Pair} {channel : Nat}
    (same : SameCallback p channel) :
    (linuxApi J).getSourceBindingName p.linux channel =
      (windowsApi nvidiaGpuFound).getSourceBindingName p.windows channel := by
  show LinuxReader.callbackToNameString (p.linux.tables.callback channel) =
    WindowsReader.callbackToNameString (p.windows.tables.callback channel)
  rw [← same.1]
  rcases same.2 with null | calibration
  · rw [null]
    rfl
  · rw [calibration]
    rfl

/-! ## One call -/

/-- The simulation relation: two loaded readers with equal entries, the Linux one holding
a string and an int for every channel, so that nothing is refused. -/
structure Aligned (J : JsonC) (count : Nat) (p : Pair) : Prop where
  linux : LinuxStored.Loaded J count p.linux
  windows : WindowsStored.Loaded count p.windows
  strings : ∀ channel < count, isString (storedValue p.linux (.binding channel)) = true
  ints : ∀ channel < count, isInt (storedValue p.linux (.calibration channel)) = true
  outcomes : p.outcomes.1 = p.outcomes.2
  callbacks : ∀ channel < count, SameCallback p channel
  calibrations : ∀ channel < count,
    p.linux.tables.calibration channel = p.windows.tables.calibration channel

section call
variable {J : JsonC} {nvidiaGpuFound : Bool} {count : Nat} {p : Pair}

theorem agree_of_aligned (aligned : Aligned J count p) : Agree J nvidiaGpuFound count p :=
  ⟨aligned.outcomes, fun channel below => ⟨aligned.callbacks channel below,
    aligned.calibrations channel below,
    sameCallback_names J nvidiaGpuFound (aligned.callbacks channel below)⟩⟩

/-- Both arrays receive the same source. -/
theorem sameCallback_set (aligned : Aligned J count p) {channel : Nat} (below : channel < count)
    {bound : Callback} (kind : bound = none ∨ bound = some .calibration) {p' : Pair}
    (linux : p'.linux.tables = p.linux.tables.setCallback channel bound)
    (windows : p'.windows.tables = p.windows.tables.setCallback channel bound) :
    ∀ other < count, SameCallback p' other := by
  intro other inside
  unfold SameCallback
  rw [linux, windows]
  by_cases same : other = channel
  · subst same
    rw [Tables.callback_setCallback_self aligned.linux.1 below,
      Tables.callback_setCallback_self aligned.windows.1 below]
    exact ⟨rfl, kind⟩
  · rw [Tables.callback_setCallback_ne _ same, Tables.callback_setCallback_ne _ same]
    exact aligned.callbacks other inside

/-- Storing a value of the right JSON type keeps the types of a family of keys. -/
theorem kind_update {kind : Json → Bool} {family : Nat → Key} {stored : Key → Json} {key : Key}
    {new : Json} (before : ∀ channel < count, kind (stored (family channel)) = true)
    (right : ∀ channel, key = family channel → kind new = true) :
    ∀ channel < count, kind (Function.update stored key new (family channel)) = true := by
  intro channel below
  by_cases same : family channel = key
  · rw [← same, Function.update_self]
    exact right channel same.symm
  · rw [Function.update_of_ne same]
    exact before channel below

theorem set_aligned (aligned : Aligned J count p) {channel : Nat} (below : channel < count)
    {name : Name} (shared : Shared name) :
    Aligned J count (step J nvidiaGpuFound p (.setChannelSourceBinding channel name)) := by
  have opened : p.windows.opened = true := aligned.windows.2 (by omega)
  obtain ⟨linux', called, tables, loaded, values⟩ :=
    LinuxStored.setChannelSourceBinding_stores aligned.linux below
      (aligned.strings channel below) name
  have linux : (step J nvidiaGpuFound p (.setChannelSourceBinding channel name)).linux = linux' :=
    congrArg Prod.fst called
  have windows : (WindowsReader.setChannelSourceBinding nvidiaGpuFound true channel name
    p.windows) =
      ({ p.windows with
        registry := regSetValueEx p.windows.registry (WindowsReader.channelKey channel)
          (WindowsReader.stored name)
        tables := p.windows.tables.setCallback channel (LinuxReader.nameStringToCallback name) },
        .returned .success) := by
    rw [WindowsReader.setChannelSourceBinding_opened opened, shared_callback nvidiaGpuFound shared]
  have windowsTables :
      (step J nvidiaGpuFound p (.setChannelSourceBinding channel name)).windows.tables =
        p.windows.tables.setCallback channel (LinuxReader.nameStringToCallback name) :=
    congrArg (fun result => result.1.tables) windows
  refine
    { linux := by rw [linux]; exact loaded
      windows := WindowsStored.setChannelSourceBinding_loaded aligned.windows nvidiaGpuFound true
        channel name
      strings := ?_
      ints := ?_
      outcomes := ?_
      callbacks := sameCallback_set aligned below (linux_callback_cases name)
        (by rw [linux, tables]) windowsTables
      calibrations := ?_ }
  · rw [linux, values]
    exact kind_update aligned.strings fun _ _ => rfl
  · rw [linux, values]
    exact kind_update aligned.ints fun _ different => by cases different
  · exact (congrArg Prod.snd called).trans (congrArg Prod.snd windows).symm
  · intro other inside
    rw [linux, tables, windowsTables]
    exact aligned.calibrations other inside

theorem clear_aligned (aligned : Aligned J count p) {channel : Nat} (admissible : channel < count) :
    Aligned J count (step J nvidiaGpuFound p (.clearBinding channel)) := by
  have linux : LinuxStored.Loaded J count (LinuxReader.clearBinding channel p.linux).1 :=
    (LinuxStored.clearBinding_refines aligned.linux admissible).1
  exact
    { linux := linux
      windows := ⟨(Tables.setCallback_sized _ _ _ _).mpr aligned.windows.1, aligned.windows.2⟩
      strings := aligned.strings
      ints := aligned.ints
      outcomes := rfl
      callbacks := sameCallback_set aligned admissible (Or.inl rfl) rfl rfl
      calibrations := aligned.calibrations }

theorem calibrate_aligned (aligned : Aligned J count p) {channel : Nat} (below : channel < count)
    (value : UInt8) :
    Aligned J count (step J nvidiaGpuFound p (.setChannelCalibration channel value)) := by
  have opened : p.windows.opened = true := aligned.windows.2 (by omega)
  obtain ⟨linux', called, tables, loaded, values⟩ :=
    LinuxStored.setChannelCalibration_stores aligned.linux below (aligned.ints channel below) value
  have linux : (step J nvidiaGpuFound p (.setChannelCalibration channel value)).linux = linux' :=
    congrArg Prod.fst called
  have windows : WindowsReader.setChannelCalibration true channel value p.windows =
      ({ p.windows with
        registry := regSetValueEx p.windows.registry (WindowsReader.calibrationKey channel)
          (dword value)
        tables := p.windows.tables.setCalibration channel value }, .returned .success) :=
    WindowsReader.setChannelCalibration_opened opened channel value
  have windowsTables :
      (step J nvidiaGpuFound p (.setChannelCalibration channel value)).windows.tables =
        p.windows.tables.setCalibration channel value :=
    congrArg (fun result => result.1.tables) windows
  refine
    { linux := by rw [linux]; exact loaded
      windows := WindowsStored.setChannelCalibration_loaded aligned.windows true channel value
      strings := ?_
      ints := ?_
      outcomes := ?_
      callbacks := ?_
      calibrations := ?_ }
  · rw [linux, values]
    exact kind_update aligned.strings fun _ different => by cases different
  · rw [linux, values]
    exact kind_update aligned.ints fun _ _ => rfl
  · exact (congrArg Prod.snd called).trans (congrArg Prod.snd windows).symm
  · intro other inside
    unfold SameCallback
    rw [linux, tables, windowsTables]
    exact aligned.callbacks other inside
  · intro other inside
    rw [linux, tables, windowsTables]
    by_cases same : other = channel
    · rw [same, Tables.calibration_setCalibration_self aligned.linux.1 below,
        Tables.calibration_setCalibration_self aligned.windows.1 below]
    · rw [Tables.calibration_setCalibration_ne _ same, Tables.calibration_setCalibration_ne _ same]
      exact aligned.calibrations other inside

/-- One call keeps the two readers aligned. -/
theorem step_aligned (aligned : Aligned J count p) {call : Call}
    (admissible : Call.Admissible count Shared call) :
    Aligned J count (step J nvidiaGpuFound p call) := by
  cases call with
  | setChannelSourceBinding channel name => exact set_aligned aligned admissible.1 admissible.2
  | clearBinding channel => exact clear_aligned aligned admissible
  | setChannelCalibration channel value => exact calibrate_aligned aligned admissible value

end call

/-! ## Both starts -/

section start
variable {count : Nat} {preset : Preset}

/-- The value config.json has for a binding, defaults included. -/
theorem binding_value {d : Json} {channel : Nat}
    (member : d.get? (LinuxReader.channelKey channel) =
      (preset.binding channel).map (fun name => .string name.units)) :
    valueAt d (.binding channel) =
      .string ((preset.binding channel).getD Names.unallocated).units := by
  unfold valueAt Key.name
  rw [member]
  cases preset.binding channel <;> rfl

theorem calibration_value {d : Json} {channel : Nat}
    (member : d.get? (LinuxReader.calibrationKey channel) =
      (preset.calibration channel).map (fun value => .int value.toNat)) :
    valueAt d (.calibration channel) = .int ((preset.calibration channel).getD 0x80).toNat := by
  unfold valueAt Key.name
  rw [member]
  cases preset.calibration channel <;> rfl

/-- The Linux start on a representing file: its entries are those of the map, 0x80 where
it has no calibration. -/
theorem linux_starts (J : JsonC) (count : Nat) {file : ConfigFile} (inFile : InFile preset file) :
    ∃ linux, LinuxReader.start J allDone count file = .bound linux (.returned .success) ∧
      LinuxStored.Loaded J count linux ∧ ∀ channel < count,
        isString (storedValue linux (.binding channel)) = true ∧
        isInt (storedValue linux (.calibration channel)) = true ∧
        linux.tables.callback channel = LinuxReader.nameStringToCallback
          ((preset.binding channel).getD Names.unallocated) ∧
        linux.tables.calibration channel = (preset.calibration channel).getD 0x80 := by
  obtain ⟨d, object, holds, members⟩ := inFile
  have bindings (channel : Nat) := binding_value (members channel).1
  have calibrations (channel : Nat) := calibration_value (members channel).2
  have readable : ∀ c < count, J.getString (valueAt d (.binding c)) ≠ none := by
    intro c _
    rw [bindings, getString_string]
    exact Option.some_ne_none _
  obtain ⟨linux, started, loaded⟩ :=
    LinuxLoad.start_loads object holds (LinuxRestart.allDone_needed d count) readable
  refine ⟨linux, started, (LinuxStored.loaded_of_start loaded readable).1, fun channel below => ?_⟩
  have values := LinuxStored.storedValue_of_start loaded readable (by omega)
  obtain ⟨callback, calibration⟩ := loaded.bound channel below
  rw [values, values, callback, calibration, bindings, calibrations, decodeBinding_name,
    decodeCalibration_value]
  exact ⟨rfl, rfl, rfl, rfl⟩

/-- A start takes a stored name as `Calibration` only if it is that. -/
theorem stored_calibration_iff (name : Name) :
    WindowsLoad.nameOfValue (some (bytes (name.units ++ [0]))) = Names.calibration ↔
      name = Names.calibration := by
  rw [WindowsLoad.nameOfValue_bytes]
  split
  next => exact Iff.rfl
  next long =>
    refine ⟨fun equal => absurd equal (by decide), fun equal => ?_⟩
    rw [equal] at long
    exact absurd (by decide) long

/-- The Windows start on a representing key: a calibration channel without a value starts
at full scale. -/
theorem windows_starts (nvidiaGpuFound : Bool) {registry : RegistryKey} {envs : Nat → RegistryEnv}
    (inKey : InKey preset registry) (succeeds : ∀ c < count, EnvSucceeds (envs c)) :
    ∃ windows, WindowsReader.start nvidiaGpuFound envs count registry =
        .bound windows (.returned .success) ∧
      WindowsStored.Loaded count windows ∧ ∀ channel < count,
        windows.tables.callback channel = WindowsReader.nameStringToCallback nvidiaGpuFound
          ((preset.binding channel).getD Names.unallocated) ∧
        windows.tables.calibration channel = (preset.calibration channel).getD
          (if preset.binding channel = some Names.calibration then 0xFF else 0x80) := by
  have terminated : ∀ c < count,
      WindowsLoad.Terminated (registry (WindowsReader.channelKey c)) := by
    intro c _
    rw [(inKey c).1]
    cases preset.binding c with
    | none => exact fun _ absent => by cases absent
    | some name => exact WindowsLoad.terminated_bytes name
  obtain ⟨windows, started, loaded⟩ := WindowsLoad.start_loads nvidiaGpuFound succeeds terminated
  refine ⟨windows, started, (WindowsStored.loaded_of_start loaded).1, fun channel below => ⟨?_, ?_⟩⟩
  · rw [(loaded.named channel below).2.2, (inKey channel).1]
    cases preset.binding channel with
    | none => rfl
    | some name => exact WindowsLoad.callback_of_bytes nvidiaGpuFound name
  · obtain ⟨present, missing⟩ := loaded.calibrated channel below
    rw [(inKey channel).2] at present missing
    cases value : preset.calibration channel with
    | some w =>
      rw [value] at present
      exact (present w rfl).1
    | none =>
      rw [value] at missing
      rw [(missing rfl).1, (inKey channel).1, Option.getD_none]
      cases preset.binding channel with
      | none => rfl
      | some name =>
        simp only [Option.map_some, WindowsReader.defaultCalibration, stored_calibration_iff,
          Option.some.injEq]

end start

/-- Both starts succeed, and the readers agree after every step of every sequence of
calls exactly when no calibration channel is stored without its calibration. -/
theorem readers_agree_iff (J : JsonC) (nvidiaGpuFound : Bool) {count : Nat} {preset : Preset}
    {file : ConfigFile} {registry : RegistryKey} {envs : Nat → RegistryEnv}
    (inFile : InFile preset file) (inKey : InKey preset registry)
    (shared : ∀ channel < count, ∀ name, preset.binding channel = some name → Shared name)
    (succeeds : ∀ c < count, EnvSucceeds (envs c))
    (calls : List Call) (admissible : ∀ call ∈ calls, Call.Admissible count Shared call) :
    ∃ linux windows,
      LinuxReader.start J allDone count file = .bound linux (.returned .success) ∧
      WindowsReader.start nvidiaGpuFound envs count registry = .bound windows (.returned .success) ∧
      (Runs.AllReached (step J nvidiaGpuFound) (Agree J nvidiaGpuFound count)
          ⟨linux, windows, (.returned .success, .returned .success)⟩ calls ↔
        Calibrated count preset) := by
  obtain ⟨linux, linuxStarted, linuxLoaded, linuxEntries⟩ := linux_starts J count inFile
  obtain ⟨windows, windowsStarted, windowsLoaded, windowsEntries⟩ :=
    windows_starts nvidiaGpuFound inKey succeeds
  refine ⟨linux, windows, linuxStarted, windowsStarted, fun reached => ?_, fun calibrated => ?_⟩
  · intro channel below isCalibration missing
    have agree := (reached.first.2 channel below).2.1
    dsimp only at agree
    rw [(linuxEntries channel below).2.2.2, (windowsEntries channel below).2, missing,
      isCalibration, if_pos rfl] at agree
    exact absurd agree (by decide)
  · have sharedEntry : ∀ channel < count,
        Shared ((preset.binding channel).getD Names.unallocated) := by
      intro channel below
      cases bound : preset.binding channel with
      | none => exact Or.inl rfl
      | some name => exact shared channel below name bound
    have aligned : Aligned J count
        ⟨linux, windows, (.returned .success, .returned .success)⟩ := by
      refine
        { linux := linuxLoaded
          windows := windowsLoaded
          strings := fun channel below => (linuxEntries channel below).1
          ints := fun channel below => (linuxEntries channel below).2.1
          outcomes := rfl
          callbacks := fun channel below => ?_
          calibrations := fun channel below => ?_ }
      · unfold SameCallback
        dsimp only
        rw [(linuxEntries channel below).2.2.1, (windowsEntries channel below).1,
          shared_callback nvidiaGpuFound (sharedEntry channel below)]
        exact ⟨rfl, linux_callback_cases _⟩
      · dsimp only
        rw [(linuxEntries channel below).2.2.2, (windowsEntries channel below).2]
        cases value : preset.calibration channel with
        | some w => rfl
        | none =>
          have notCalibration : ¬ preset.binding channel = some Names.calibration :=
            fun bound => calibrated channel below bound value
          rw [if_neg notCalibration]
    have keeps : ∀ p call, Aligned J count p → Call.Admissible count Shared call →
        Aligned J count (step J nvidiaGpuFound p call) := fun _ _ before rule =>
      step_aligned before rule
    exact (Runs.allReached_of_rule keeps aligned admissible).mono fun p => agree_of_aligned

/-- Calls on two channels with no stored map at all. -/
def firstUse : List Call :=
  [.setChannelSourceBinding 0 Names.calibration, .setChannelCalibration 0 255, .clearBinding 0,
    .setChannelSourceBinding 1 ⟨text "Fan", by decide⟩]

def emptyPreset : Preset := ⟨fun _ => none, fun _ => none⟩

theorem readers_agree_firstUse :
    ∃ linux windows,
      LinuxReader.start plain allDone 2 .absent = .bound linux (.returned .success) ∧
      WindowsReader.start true quietEnv 2 (fun _ => none) = .bound windows (.returned .success) ∧
      (Runs.AllReached (step plain true) (Agree plain true 2)
          ⟨linux, windows, (.returned .success, .returned .success)⟩ firstUse ↔
        Calibrated 2 emptyPreset) := by
  have inFile : InFile emptyPreset .absent :=
    ⟨.object [], ⟨[], rfl⟩, Or.inr ⟨rfl, rfl⟩, fun _ => ⟨rfl, rfl⟩⟩
  have inKey : InKey emptyPreset fun _ => none := fun _ => ⟨rfl, rfl⟩
  have admissible : ∀ call ∈ firstUse, Call.Admissible 2 Shared call := by
    intro call member
    simp only [firstUse, List.mem_cons, List.not_mem_nil, or_false] at member
    rcases member with rfl | rfl | rfl | rfl
    · exact ⟨by decide, Or.inr (Or.inl rfl)⟩
    · exact (by decide : 0 < 2)
    · exact (by decide : 0 < 2)
    · exact ⟨by decide, Or.inr (Or.inr ⟨by decide, by decide⟩)⟩
  exact readers_agree_iff plain true inFile inKey (fun _ _ _ unbound => by cases unbound)
    (quietEnv_succeeds 2) firstUse admissible

/-- One channel stored as a calibration channel, without a calibration. -/
def uncalibrated : Preset where
  binding := fun channel => if channel = 0 then some Names.calibration else none
  calibration := fun _ => none

def uncalibratedFile : ConfigFile :=
  .text (some (.object [(LinuxReader.channelKey 0, .string Names.calibration.units)]))

def uncalibratedKey : RegistryKey :=
  regSetValueEx (fun _ => none) (WindowsReader.channelKey 0)
    (bytes (Names.calibration.units ++ [0]))

theorem uncalibrated_inFile : InFile uncalibrated uncalibratedFile := by
  refine ⟨_, ⟨_, rfl⟩, Or.inl rfl, fun channel => ⟨?_, ?_⟩⟩
  · by_cases first : channel = 0
    · rw [first]
      rfl
    · have differs : LinuxReader.channelKey channel ≠ LinuxReader.channelKey 0 := fun same =>
        first (Names.numbered_injective "channel" same)
      have other : (LinuxReader.channelKey channel == LinuxReader.channelKey 0) = false := by
        simpa using differs
      simp [Json.get?, List.lookup_cons, other, uncalibrated, first]
  · have differs : LinuxReader.calibrationKey channel ≠ LinuxReader.channelKey 0 :=
      Names.numbered_ne (by decide) (by decide)
    have other : (LinuxReader.calibrationKey channel == LinuxReader.channelKey 0) = false := by
      simpa using differs
    simp [Json.get?, List.lookup_cons, other, uncalibrated]

theorem uncalibrated_inKey : InKey uncalibrated uncalibratedKey := by
  intro channel
  refine ⟨?_, regSetValueEx_ne _ (Ne.symm (WindowsLoad.channelKey_ne_calibrationKey 0 channel)) _⟩
  by_cases first : channel = 0
  · rw [first]
    exact regSetValueEx_self _ _ _
  · have differs : WindowsReader.channelKey channel ≠ WindowsReader.channelKey 0 := fun same =>
      first (WindowsLoad.channelKey_injective same)
    rw [uncalibratedKey, regSetValueEx_ne _ differs]
    simp [uncalibrated, first]

/-- Both starts succeed on it, and the calibrations differ. -/
theorem uncalibrated_channel_differs :
    InFile uncalibrated uncalibratedFile ∧ InKey uncalibrated uncalibratedKey ∧
      ∃ linux windows,
        LinuxReader.start plain allDone 1 uncalibratedFile = .bound linux (.returned .success) ∧
        WindowsReader.start true quietEnv 1 uncalibratedKey = .bound windows (.returned .success) ∧
        ¬ Agree plain true 1 ⟨linux, windows, (.returned .success, .returned .success)⟩ := by
  obtain ⟨linux, linuxStarted, _, linuxEntries⟩ :=
    linux_starts plain 1 uncalibrated_inFile
  obtain ⟨windows, windowsStarted, _, windowsEntries⟩ :=
    windows_starts true uncalibrated_inKey (quietEnv_succeeds 1)
  refine ⟨uncalibrated_inFile, uncalibrated_inKey, linux, windows, linuxStarted, windowsStarted, ?_⟩
  intro agree
  have same := (agree.2 0 (by decide)).2.1
  dsimp only at same
  rw [(linuxEntries 0 (by decide)).2.2.2, (windowsEntries 0 (by decide)).2] at same
  exact absurd same (by decide)

end PerformancePanel.Guarantees.ReaderAgreement

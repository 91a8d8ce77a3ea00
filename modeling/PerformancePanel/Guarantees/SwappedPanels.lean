import PerformancePanel.Guarantees.DocumentSafety
import PerformancePanel.Guarantees.ReaderAgreement
import PerformancePanel.Settings.ChannelSlots

/-!
# Settings across panels

One process after another on the same stored settings, each with the panel it finds: the
channel count may differ from start to start. Every channel keeps the settings of its own
slot. Processes whose panel does not have the channel, and whatever is done to the other
channels, take no part in them.
-/
set_option autoImplicit false

namespace PerformancePanel.Guarantees.SwappedPanels
open Source Source.Common Source.DataSources Source.Collector Source.DataSourceInterface
open Source.JsonLibrary Source.Registry Source.LinuxLoad Settings Settings.ChannelSlots Library
open Source.LinuxReader (Linux)
open Source.WindowsReader (Windows RegistryEnv)
open Source.WindowsLoad (EnvSucceeds)
open Settings.LinuxStored (linuxApi)
open Settings.WindowsStored (windowsApi Fits)
open DocumentSafety (Untouched untouched_next)
open LinuxRestart (allDone allDone_needed)
open ReaderAgreement (Preset InFile InKey)

/-- A channel that has never been loaded. -/
def initialSlot (preset : Preset) (channel : Nat) : Slot where
  name := preset.binding channel
  calibration := preset.calibration channel
  bound := Names.unallocated

/-- The settings of one channel after some processes, from its own part of each. -/
def settled (rule : LoadRule) (preset : Preset) (processes : List Process) (channel : Nat) : Slot :=
  Runs.run (slotStep rule) (initialSlot preset channel) (processes.flatMap (processEvents channel))

/-- What is stored of some slots. -/
def stored (slots : Slots) : Preset where
  binding := fun channel => (slots channel).name
  calibration := fun channel => (slots channel).calibration

/-- The calls of a process are on channels it has loaded. -/
def Admissible (fits : Name → Prop) (process : Process) : Prop :=
  ∀ call ∈ process.calls, Call.Admissible process.count fits call

theorem below_of_admissible {count : Nat} {fits : Name → Prop} {call : Call}
    (admissible : Call.Admissible count fits call) : call.channel < count := by
  cases call with
  | setChannelSourceBinding channel name => exact admissible.1
  | clearBinding channel => exact admissible
  | setChannelCalibration channel value => exact admissible

theorem settled_eq (rule : LoadRule) (preset : Preset) (processes : List Process) :
    Runs.run (Slots.process rule) (initialSlot preset) processes = settled rule preset processes :=
  funext fun channel => Runs.run_familyStep (slotStep rule) processEvents (initialSlot preset)
    processes channel

/-! ## The arrays -/

/-- The arrays are as long as the count and have the entries of the slots. -/
structure Entries (toCallback : Name → Callback) (count : Nat) (slots : Slots) (t : Tables) :
    Prop where
  sized : t.Sized count
  bound : ∀ channel < count, t.callback channel = toCallback (slots channel).bound
  calibrated : ∀ channel < count, some (t.calibration channel) = (slots channel).calibration

/-- The arrays after a call that succeeds. -/
def tablesAfter (toCallback : Name → Callback) (t : Tables) : Call → Tables
  | .setChannelSourceBinding channel name => t.setCallback channel (toCallback name)
  | .clearBinding channel => t.setCallback channel none
  | .setChannelCalibration channel value => t.setCalibration channel value

section entries
variable {toCallback : Name → Callback} {count : Nat} {slots : Slots} {t : Tables}

/-- A channel given a source, the one of its new slot. -/
theorem entries_setCallback (entries : Entries toCallback count slots t) {c : Nat}
    (below : c < count) (slot : Slot) (same : slot.calibration = (slots c).calibration) :
    Entries toCallback count (Function.update slots c slot)
      (t.setCallback c (toCallback slot.bound)) := by
  refine ⟨(Tables.setCallback_sized _ _ _ _).mpr entries.sized, fun channel inside => ?_,
    fun channel inside => ?_⟩
  · by_cases here : channel = c
    · rw [here, Function.update_self, Tables.callback_setCallback_self entries.sized below]
    · rw [Function.update_of_ne here, Tables.callback_setCallback_ne _ here]
      exact entries.bound channel inside
  · rw [Tables.calibration_setCallback, entries.calibrated channel inside]
    by_cases here : channel = c
    · rw [here, Function.update_self, same]
    · rw [Function.update_of_ne here]

theorem entries_setCalibration (entries : Entries toCallback count slots t) {c : Nat}
    (below : c < count) (value : UInt8) :
    Entries toCallback count (Function.update slots c { slots c with calibration := some value })
      (t.setCalibration c value) := by
  refine ⟨(Tables.setCalibration_sized _ _ _ _).mpr entries.sized, fun channel inside => ?_,
    fun channel inside => ?_⟩
  · rw [Tables.callback_setCalibration, entries.bound channel inside]
    by_cases here : channel = c
    · rw [here, Function.update_self]
    · rw [Function.update_of_ne here]
  · by_cases here : channel = c
    · rw [here, Function.update_self, Tables.calibration_setCalibration_self entries.sized below]
    · rw [Function.update_of_ne here, Tables.calibration_setCalibration_ne _ here]
      exact entries.calibrated channel inside

/-- A call on a channel below the count keeps the arrays those of the slots. -/
theorem entries_call (rule : LoadRule) (unbound : toCallback Names.unallocated = none)
    (entries : Entries toCallback count slots t) {call : Call} (below : call.channel < count) :
    Entries toCallback count (slots.call rule call) (tablesAfter toCallback t call) := by
  rw [call_eq]
  cases call with
  | setChannelSourceBinding c name => exact entries_setCallback entries below _ rfl
  | clearBinding c =>
    have cleared := entries_setCallback entries below
      { slots c with bound := Names.unallocated } rfl
    rw [unbound] at cleared
    exact cleared
  | setChannelCalibration c value => exact entries_setCalibration entries below value

end entries

/-! ## Linux -/

/-- config.json keeps names of any length; every channel starts at 0x80. -/
def linuxRule : LoadRule where
  keeps := fun _ => true
  initialCalibration := fun _ => 0x80

/-- One process of the program; `none` is one that does not start. -/
def linuxProcess (J : JsonC) (s : Linux) (process : Process) : Option Linux :=
  match LinuxReader.start J allDone process.count s.file with
  | .bound s' (.returned .success) => some (Runs.run (linuxApi J).after s' process.calls)
  | _ => none

/-- The member that stands for a setting. -/
def member (slots : Slots) : Key → Option Json
  | .binding channel => (slots channel).name.map fun name => .string name.units
  | .calibration channel => (slots channel).calibration.map fun value => .int value.toNat

/-- The member that a call sets, with its value; clearing sets none. -/
def memberSet : Call → Option (Key × Json)
  | .setChannelSourceBinding channel name => some (.binding channel, .string name.units)
  | .clearBinding _ => none
  | .setChannelCalibration channel value => some (.calibration channel, .int value.toNat)

structure InDocument (slots : Slots) (d : Json) : Prop where
  object : IsObject d
  members : ∀ key : Key, d.get? key.name = member slots key

theorem inFile_iff {slots : Slots} {file : ConfigFile} :
    InFile (stored slots) file ↔ ∃ d, InDocument slots d ∧ Holds file d := by
  constructor
  · rintro ⟨d, object, holds, members⟩
    refine ⟨d, ⟨object, fun key => ?_⟩, holds⟩
    cases key with
    | binding channel => exact (members channel).1
    | calibration channel => exact (members channel).2
  · rintro ⟨d, document, holds⟩
    exact ⟨d, document.object, holds, fun channel =>
      ⟨document.members (.binding channel), document.members (.calibration channel)⟩⟩

/-- A running process: its document is the file, its entries are those of the slots. -/
structure LinuxRuns (count : Nat) (slots : Slots) (s : Linux) : Prop where
  document : ∃ d, InDocument slots d ∧ Holds s.file d ∧
    (0 < count → s.rootObject = some d ∧ s.file = .text (some d))
  loaded : slots.Loaded count
  entries : Entries LinuxReader.nameStringToCallback count slots s.tables

section linux
variable {J : JsonC} {count : Nat} {slots : Slots}

theorem taken_linux (name : Option Name) : linuxRule.taken name = name.getD Names.unallocated := by
  cases name <;> rfl

/-- The value of a loaded key, defaults included. -/
theorem valueAt_inDocument {d : Json} (document : InDocument slots d) {channel : Nat}
    (below : channel < count) :
    some (valueAt d (.binding channel)) = member (slots.load linuxRule count) (.binding channel) ∧
      some (valueAt d (.calibration channel)) = member (slots.load linuxRule count)
        (.calibration channel) := by
  unfold valueAt
  rw [document.members, document.members]
  simp only [member, load_below below, slotStep, taken_linux]
  constructor
  · cases (slots channel).name <;> rfl
  · cases (slots channel).calibration <;> rfl

/-- Loading stores the defaults of the channels below the count and nothing else. -/
theorem inDocument_load {d r : Json} (document : InDocument slots d) (extended : Extends d r)
    (present : ∀ c < count, r.get? (Key.binding c).name ≠ none ∧
      r.get? (Key.calibration c).name ≠ none)
    (untouched : ∀ c, count ≤ c → r.get? (Key.binding c).name = d.get? (Key.binding c).name ∧
      r.get? (Key.calibration c).name = d.get? (Key.calibration c).name) :
    InDocument (slots.load linuxRule count) r := by
  have stored {key : Key} (here : r.get? key.name ≠ none) : r.get? key.name =
    some (valueAt d key) := by
    obtain ⟨value, found⟩ := Option.ne_none_iff_exists'.mp here
    rw [← extended.values, valueAt, found, Option.getD_some]
  refine ⟨extended.object, fun key => ?_⟩
  cases key with
  | binding channel =>
    by_cases below : channel < count
    · rw [stored (present channel below).1, (valueAt_inDocument document below).1]
    · rw [(untouched channel (by omega)).1, document.members, member, member, load_above below]
  | calibration channel =>
    by_cases below : channel < count
    · rw [stored (present channel below).2, (valueAt_inDocument document below).2]
    · rw [(untouched channel (by omega)).2, document.members, member, member, load_above below]

/-- A start on represented settings succeeds and loads the slots. -/
theorem linux_start {file : ConfigFile} (inFile : InFile (stored slots) file) :
    ∃ s, LinuxReader.start J allDone count file = .bound s (.returned .success) ∧
      LinuxRuns count (slots.load linuxRule count) s := by
  obtain ⟨d, document, holds⟩ := inFile_iff.mp inFile
  have loadedCells (c : Nat) (below : c < count) := valueAt_inDocument document below
  have text : ∀ c < count, valueAt d (.binding c) =
    .string (slots.load linuxRule count c).bound.units := by
    intro c below
    have value := (loadedCells c below).1
    simp only [member, load_below below, slotStep, Option.map_some, Option.some.injEq] at value
    rw [value, load_below below]
    rfl
  have succeeds : ∀ i s, i < count → LoadedUpTo J d count i s ∧ Untouched d i s →
      ∃ s', LinuxReader.getBoundDataSource J (allDone i) i s = (s', .returned .success) ∧
        (LoadedUpTo J d count (i + 1) s' ∧ Untouched d (i + 1) s') := by
    intro i s below before
    have readable : J.getString (valueAt d (.binding i)) ≠ none := by
      rw [text i below, getString_string]
      exact Option.some_ne_none _
    obtain ⟨s', called, loaded⟩ := getBoundDataSource_loads below (allDone_needed d count i below).1
      (allDone_needed d count i below).2 readable before.1
    exact ⟨s', called, loaded, untouched_next before.1 before.2 called⟩
  have begun : LoadedUpTo J d count 0 (LinuxReader.fresh file (Tables.zeroed count)) ∧
      Untouched d 0 (LinuxReader.fresh file (Tables.zeroed count)) :=
    ⟨loadedUpTo_fresh document.object holds,
      d, loadRoot_of_holds document.object rfl holds, fun _ _ => ⟨rfl, rfl⟩⟩
  obtain ⟨s, looped, loaded, r, root, untouched⟩ :=
    bindLoop_total succeeds (Nat.zero_add count) begun
  refine ⟨s, start_bound.mpr looped, ?_⟩
  obtain ⟨r', root', extended, holds', cached, present⟩ := loaded.document
  have same : r' = r := Option.some.inj (root'.symm.trans root)
  subst same
  refine
    { document := ⟨r', inDocument_load document extended present untouched, holds', fun positive =>
        ⟨cached positive, ?_⟩⟩
      loaded := loaded_load linuxRule count slots
      entries := ⟨loaded.sized, fun c below => ?_, fun c below => ?_⟩ }
  · rcases holds' with written | ⟨_, empty⟩
    · exact written
    · have first := (present 0 positive).1
      rw [empty] at first
      exact absurd rfl first
  · rw [(loaded.bound c below).1, text c below, decodeBinding_name]
  · have value := (loadedCells c below).2
    simp only [member, load_below below, slotStep, Option.map_some, Option.some.injEq] at value
    rw [(loaded.bound c below).2, value, decodeCalibration_value, load_below below]
    rfl

/-- A replaced member is the setting of its slot. -/
theorem inDocument_put {slots' : Slots} {d r : Json} (document : InDocument slots d) {key : Key}
    {new : Json} (put : d.put? key.name new = some r)
    (changed : ∀ other, member slots' other = if other =
      key then some new else member slots other) :
    InDocument slots' r := by
  refine ⟨isObject_of_put? put, fun other => ?_⟩
  rw [changed]
  by_cases same : other = key
  · rw [if_pos same, same, get?_put?_self put]
  · rw [if_neg same, get?_put?_ne put fun names => same (key_name_injective names),
      document.members]

/-- The members after a slot is replaced. -/
theorem member_update (channel : Nat) (slot : Slot) (key : Key) :
    member (Function.update slots channel slot) key =
      if key = .binding channel ∨ key = .calibration channel then member (fun _ => slot) key
      else member slots key := by
  cases key with
  | binding c => by_cases same : c = channel <;> simp [member, same]
  | calibration c => by_cases same : c = channel <;> simp [member, same]

/-- The members after a call: the one it sets has the new value, the others theirs. -/
theorem member_call (call : Call) (key : Key) :
    member (slots.call linuxRule call) key =
      match memberSet call with
      | some (set, value) => if key = set then some value else member slots key
      | none => member slots key := by
  rw [call_eq, member_update]
  rcases call with ⟨channel, name⟩ | channel | ⟨channel, value⟩ <;> rcases key with c | c <;>
    by_cases same : c = channel <;> simp [member, memberSet, Slot.after, Call.channel, same]

/-- A running process takes the calls on its channels as its slots do. -/
theorem linux_call {s : Linux} (runs : LinuxRuns count slots s) {call : Call}
    (below : call.channel < count) :
    LinuxRuns count (slots.call linuxRule call) ((linuxApi J).after s call) := by
  obtain ⟨d, document, holds, cached⟩ := runs.document
  have positive : 0 < count := by omega
  obtain ⟨root, file⟩ := cached positive
  have entries := entries_call linuxRule rfl runs.entries below
  obtain ⟨named, calibrated⟩ := runs.loaded call.channel below
  cases call with
  | setChannelSourceBinding c name =>
    obtain ⟨old, isNamed⟩ : ∃ old, (slots c).name = some old := Option.ne_none_iff_exists'.mp named
    have found : d.get? (Key.binding c).name = some (.string old.units) := by
      rw [document.members, member, isNamed, Option.map_some]
    have accepted : (d.get? (Key.binding c).name).bind (·.setString? name) =
      some (.string name.units) := by
      rw [found]
      rfl
    obtain ⟨r, put, _⟩ := isObject_put? document.object (Key.binding c).name (.string name.units)
    have after : (linuxApi J).after s (.setChannelSourceBinding c name) = ⟨some r, .text (some r),
        s.tables.setCallback c (LinuxReader.nameStringToCallback name)⟩ :=
      @setMember_replaced J s d root _ _ (·.setCallback c (LinuxReader.nameStringToCallback name)) _
        r accepted put
    rw [after]
    exact ⟨⟨r, inDocument_put document put (member_call (.setChannelSourceBinding c name)),
      Or.inl rfl, fun _ => ⟨rfl, rfl⟩⟩, loaded_call runs.loaded _, entries⟩
  | clearBinding c =>
    refine ⟨⟨d, ⟨document.object, fun key => ?_⟩, holds, cached⟩, loaded_call runs.loaded _,
      entries⟩
    rw [member_call (.clearBinding c), document.members]
    rfl
  | setChannelCalibration c value =>
    obtain ⟨old, isCalibrated⟩ : ∃ old, (slots c).calibration = some old :=
      Option.ne_none_iff_exists'.mp calibrated
    have found : d.get? (Key.calibration c).name = some (.int old.toNat) := by
      rw [document.members, member, isCalibrated, Option.map_some]
    have accepted : (d.get? (Key.calibration c).name).bind (·.setInt? value.toNat) =
      some (.int value.toNat) := by
      rw [found]
      rfl
    obtain ⟨r, put, _⟩ := isObject_put? document.object (Key.calibration c).name (.int value.toNat)
    have after : (linuxApi J).after s (.setChannelCalibration c value) = ⟨some r, .text (some r),
        s.tables.setCalibration c value⟩ :=
      @setMember_replaced J s d root _ _ (·.setCalibration c value) _ r accepted put
    rw [after]
    exact ⟨⟨r, inDocument_put document put (member_call (.setChannelCalibration c value)),
      Or.inl rfl, fun _ => ⟨rfl, rfl⟩⟩, loaded_call runs.loaded _, entries⟩

/-- A process keeps the file that of the slots. -/
theorem linux_process {s : Linux} (inFile : InFile (stored slots) s.file) {process : Process}
    (admissible : Admissible (fun _ => True) process) :
    ∃ s', linuxProcess J s process = some s' ∧
      LinuxRuns process.count (slots.process linuxRule process) s' := by
  obtain ⟨begun, started, runs⟩ := @linux_start J process.count slots s.file inFile
  refine ⟨Runs.run (linuxApi J).after begun process.calls, ?_, ?_⟩
  · simp only [linuxProcess, started]
  · rw [process_eq _ _ fun call member => below_of_admissible (admissible call member)]
    have keeps : ∀ s slots call, LinuxRuns process.count slots s →
        Call.Admissible process.count (fun _ => True) call →
        LinuxRuns process.count (slots.call linuxRule call) ((linuxApi J).after s call) := by
      intro s slots call before rule
      exact linux_call before (below_of_admissible rule)
    exact @Runs.run_related _ _ _ _ _ (fun s slots => LinuxRuns process.count slots s) _ keeps _ _
      runs _ admissible

end linux

/-- Every process of any history on a config.json starts, the file then holds what its own
part of the history left of each channel, and the last process has the entries to it. -/
theorem linux_settings_settle (J : JsonC) {preset : Preset} {file : ConfigFile}
    (inFile : InFile preset file) (earlier : List Process) (last : Process)
    (admissible : ∀ process ∈ earlier ++ [last], Admissible (fun _ => True) process) :
    ∃ s, (earlier ++ [last]).foldlM (linuxProcess J) (LinuxReader.fresh file (Tables.zeroed 0)) =
      some s ∧
      InFile (stored (settled linuxRule preset (earlier ++ [last]))) s.file ∧
      Entries LinuxReader.nameStringToCallback last.count
        (settled linuxRule preset (earlier ++ [last])) s.tables := by
  have keeps : ∀ s slots process, InFile (stored slots) s.file →
    Admissible (fun _ => True) process →
      ∃ s', linuxProcess J s process = some s' ∧
        InFile (stored (slots.process linuxRule process)) s'.file := by
    intro s slots process before rule
    obtain ⟨s', ran, runs⟩ := linux_process before rule
    obtain ⟨d, document, holds, _⟩ := runs.document
    exact ⟨s', ran, inFile_iff.mpr ⟨d, document, holds⟩⟩
  obtain ⟨before, ran, represents⟩ :=
    @Runs.foldlM_simulates _ _ _ _ (linuxProcess J) (Slots.process linuxRule) id
    (fun s slots => InFile (stored slots) s.file) _ keeps (LinuxReader.fresh file (Tables.zeroed 0))
    (initialSlot preset) inFile earlier fun process member =>
      admissible process (List.mem_append_left _ member)
  obtain ⟨s, lastRan, runs⟩ := linux_process (J := J) represents (admissible last (by simp))
  obtain ⟨d, document, holds, _⟩ := runs.document
  rw [List.map_id] at document runs
  rw [← settled_eq, Runs.run_append]
  refine ⟨s, ?_, inFile_iff.mpr ⟨d, document, holds⟩, runs.entries⟩
  rw [List.foldlM_append, ran]
  simp [lastRan]

/-- A panel with two channels, then one with a single channel. -/
def swapped : List Process :=
  [⟨2, [.setChannelSourceBinding 1 Names.calibration, .setChannelCalibration 1 200]⟩,
    ⟨1, [.setChannelSourceBinding 0 Names.calibration, .clearBinding 0]⟩]

/-- The first panel again. -/
def swappedBack : Process := ⟨2, []⟩

theorem swapped_admissible {fits : Name → Prop} (fitting : fits Names.calibration) :
    ∀ process ∈ swapped ++ [swappedBack], Admissible fits process := by
  intro process member call called
  simp only [swapped, swappedBack, List.cons_append, List.nil_append, List.mem_cons,
    List.not_mem_nil, or_false] at member
  rcases member with rfl | rfl | rfl
  · simp only [List.mem_cons, List.not_mem_nil, or_false] at called
    rcases called with rfl | rfl
    · exact ⟨(by decide : 1 < 2), fitting⟩
    · exact (by decide : 1 < 2)
  · simp only [List.mem_cons, List.not_mem_nil, or_false] at called
    rcases called with rfl | rfl
    · exact ⟨(by decide : 0 < 1), fitting⟩
    · exact (by decide : 0 < 1)
  · cases called

/-- The channel that was missing in between is as it was left. -/
theorem linux_settings_settle_swapped :
    ∃ s, (swapped ++ [swappedBack]).foldlM (linuxProcess plain)
        (LinuxReader.fresh .absent (Tables.zeroed 0)) = some s ∧
      InFile (stored (settled linuxRule ReaderAgreement.emptyPreset (swapped ++ [swappedBack])))
        s.file ∧
      s.tables.callback 1 = some .calibration ∧ some (s.tables.calibration 1) = some 200 := by
  have inFile : InFile ReaderAgreement.emptyPreset .absent :=
    ⟨.object [], ⟨[], rfl⟩, Or.inr ⟨rfl, rfl⟩, fun _ => ⟨rfl, rfl⟩⟩
  obtain ⟨s, ran, file, entries⟩ :=
    linux_settings_settle plain inFile swapped swappedBack (swapped_admissible trivial)
  exact ⟨s, ran, file, entries.bound 1 (by decide), entries.calibrated 1 (by decide)⟩

/-! ## Windows -/

/-- A start takes names of at most 15 characters; a calibration channel starts at full scale. -/
def windowsRule : LoadRule where
  keeps := fun name => name.units.length ≤ 15
  initialCalibration := WindowsReader.defaultCalibration

/-- A process, or another initialisation in the same one, with what it meets. -/
structure WindowsProcess extends Process where
  sameProcess : Bool
  nvidiaGpuFound : Bool
  envs : Nat → RegistryEnv

def windowsProcess (s : Windows) (process : WindowsProcess) : Option Windows :=
  match WindowsReader.restart process.nvidiaGpuFound process.sameProcess process.envs
    process.count s with
  | .bound s' (.returned .success) =>
      some (Runs.run (windowsApi process.nvidiaGpuFound).after s' process.calls)
  | _ => none

/-- A running process: its key has the settings of the slots, its arrays their entries. -/
structure WindowsRuns (nvidiaGpuFound : Bool) (count : Nat) (slots : Slots) (s : Windows) :
    Prop where
  inKey : InKey (stored slots) s.registry
  opened : 0 < count → s.opened = true
  entries : Entries (WindowsReader.nameStringToCallback nvidiaGpuFound) count slots s.tables

section windows
variable {nvidiaGpuFound : Bool} {count : Nat} {slots : Slots}

/-- A start takes the same name whatever the local buffer held. -/
theorem taken_windows (keyValueBuffer : List UInt8) (name : Option Name) :
    WindowsLoad.takenName keyValueBuffer (name.map fun name => bytes (name.units ++ [0])) =
      windowsRule.taken name := by
  cases name with
  | none => rfl
  | some name =>
    rw [Option.map_some, WindowsLoad.takenName_terminated (WindowsLoad.terminated_bytes name),
      WindowsLoad.nameOfValue_bytes]
    simp [windowsRule, LoadRule.taken]

/-- What is stored after the name is read is the name taken. -/
theorem nameKept_taken {name : Option Name} {after : Option (List UInt8)}
    (kept : WindowsLoad.NameKept (name.map fun name => bytes (name.units ++ [0])) after) :
    after = some (bytes ((windowsRule.taken name).units ++ [0])) := by
  generalize before : (name.map fun name => bytes (name.units ++ [0])) = value at kept
  cases kept with
  | queried data short =>
    cases name with
    | none => cases before
    | some name =>
      rw [Option.map_some, Option.some.injEq] at before
      have fits : name.units.length ≤ 15 := by
        rw [← before, bytes_length, List.length_append, List.length_singleton] at short
        unfold WindowsReader.keyValueBufferSize at short
        omega
      simp [windowsRule, LoadRule.taken, fits, before]
  | replaced value unusable =>
    have taken : windowsRule.taken name = Names.unallocated := by
      rw [← taken_windows [], before]
      cases value with
      | none => rfl
      | some data =>
        cases name with
        | none => cases before
        | some name =>
          rw [← before, Option.map_some] at unusable ⊢
          rw [WindowsLoad.takenName_terminated (WindowsLoad.terminated_bytes name), unusable]
    rw [taken, WindowsLoad.stored_whole (by decide) (by decide)]

/-- What the loop leaves of a channel it has passed. -/
theorem channel_loaded {registry : RegistryKey} {envs : Nat → RegistryEnv} {s : Windows}
    (inKey : InKey (stored slots) registry)
    (taken : WindowsLoad.TakenUpTo nvidiaGpuFound envs registry count count s) {c : Nat}
    (below : c < count) :
    let loaded := slotStep windowsRule (slots c) .load
    s.registry (WindowsReader.channelKey c) =
      some (bytes ((windowsRule.taken (slots c).name).units ++ [0])) ∧
      s.registry (WindowsReader.calibrationKey c) = loaded.calibration.map dword ∧
      s.tables.callback c = WindowsReader.nameStringToCallback nvidiaGpuFound loaded.bound ∧
      some (s.tables.calibration c) = loaded.calibration := by
  obtain ⟨kept, callback⟩ := taken.named c below
  obtain ⟨present, missing⟩ := taken.calibrated c below
  have name : registry (WindowsReader.channelKey c) =
      (slots c).name.map fun name => bytes (name.units ++ [0]) := (inKey c).1
  have value : registry (WindowsReader.calibrationKey c) = (slots c).calibration.map dword :=
    (inKey c).2
  rw [name] at kept callback missing
  rw [taken_windows] at callback missing
  rw [value] at present missing
  dsimp only [slotStep]
  refine ⟨nameKept_taken kept, ?_, callback, ?_⟩
  · cases calibration : (slots c).calibration with
    | some w =>
      rw [calibration] at present
      exact (present w rfl).2
    | none =>
      rw [calibration] at missing
      rw [(missing rfl).2, (missing rfl).1]
      rfl
  · cases calibration : (slots c).calibration with
    | some w =>
      rw [calibration] at present
      exact congrArg some (present w rfl).1
    | none =>
      rw [calibration] at missing
      exact congrArg some (missing rfl).1

/-- An initialisation on represented settings succeeds and loads the slots. -/
theorem windows_start {s : Windows} (inKey : InKey (stored slots) s.registry) (sameProcess : Bool)
    {envs : Nat → RegistryEnv} (succeeds : ∀ c < count, EnvSucceeds (envs c)) :
    ∃ s', WindowsReader.restart nvidiaGpuFound sameProcess envs count s =
      .bound s' (.returned .success) ∧
      WindowsRuns nvidiaGpuFound count (slots.load windowsRule count) s' := by
  obtain ⟨s', looped, taken⟩ :=
    WindowsLoad.loop_takes nvidiaGpuFound (sameProcess && s.opened) s.registry succeeds
  refine ⟨s', ?_, fun channel => ?_, taken.opened, taken.sized, fun c below => ?_,
    fun c below => ?_⟩
  · simp only [WindowsReader.restart, initializeDataSourceBinding, Bool.and_self, if_true, looped]
  · by_cases below : channel < count
    · have loaded := channel_loaded inKey taken below
      unfold stored
      dsimp only
      rw [load_below below]
      exact ⟨loaded.1, loaded.2.1⟩
    · have later := taken.later channel (by omega)
      unfold stored
      dsimp only
      rw [load_above below, later.1, later.2]
      exact inKey channel
  · rw [load_below below]
    exact (channel_loaded inKey taken below).2.2.1
  · rw [load_below below]
    exact (channel_loaded inKey taken below).2.2.2

/-- A name that is set, in the key. -/
theorem inKey_name {preset : Preset} {registry : RegistryKey} (inKey : InKey preset registry)
    (c : Nat) (name : Name) :
    InKey { preset with binding := Function.update preset.binding c (some name) }
      (regSetValueEx registry (WindowsReader.channelKey c) (bytes (name.units ++ [0]))) := by
  intro channel
  dsimp only
  rw [regSetValueEx_ne _ (Ne.symm (WindowsLoad.channelKey_ne_calibrationKey c channel))]
  by_cases same : channel = c
  · rw [same, Function.update_self, regSetValueEx_self]
    exact ⟨rfl, (inKey c).2⟩
  · rw [Function.update_of_ne same, regSetValueEx_ne _ fun keys =>
      same (WindowsLoad.channelKey_injective keys)]
    exact inKey channel

/-- A calibration that is set, in the key. -/
theorem inKey_calibration {preset : Preset} {registry : RegistryKey} (inKey : InKey preset registry)
    (c : Nat) (value : UInt8) :
    InKey { preset with calibration := Function.update preset.calibration c (some value) }
      (regSetValueEx registry (WindowsReader.calibrationKey c) (dword value)) := by
  intro channel
  dsimp only
  rw [regSetValueEx_ne _ (WindowsLoad.channelKey_ne_calibrationKey channel c)]
  by_cases same : channel = c
  · rw [same, Function.update_self, regSetValueEx_self]
    exact ⟨(inKey c).1, rfl⟩
  · rw [Function.update_of_ne same, regSetValueEx_ne _ fun keys =>
      same (WindowsLoad.calibrationKey_injective keys)]
    exact inKey channel

theorem stored_update (slots : Slots) (c : Nat) (slot : Slot) :
    stored (Function.update slots c slot) =
      ⟨Function.update (stored slots).binding c slot.name,
        Function.update (stored slots).calibration c slot.calibration⟩ := by
  unfold stored
  congr 1
  · funext channel
    by_cases same : channel = c <;> simp [same]
  · funext channel
    by_cases same : channel = c <;> simp [same]

theorem stored_clear (rule : LoadRule) (c : Nat) :
    stored (slots.call rule (.clearBinding c)) = stored slots := by
  rw [call_eq, stored_update]
  show (⟨Function.update _ c ((stored slots).binding c),
    Function.update _ c ((stored slots).calibration c)⟩ : Preset) = _
  rw [Function.update_eq_self, Function.update_eq_self]

/-- A running process takes the calls on its channels as its slots do. -/
theorem windows_call {s : Windows} (runs : WindowsRuns nvidiaGpuFound count slots s) {call : Call}
    (admissible : Call.Admissible count Fits call) :
    WindowsRuns nvidiaGpuFound count (slots.call windowsRule call)
      ((windowsApi nvidiaGpuFound).after s call) := by
  have below := below_of_admissible admissible
  have isOpen : s.opened = true := runs.opened (by omega)
  have entries := entries_call windowsRule
    (WindowsLoad.nameStringToCallback_unallocated nvidiaGpuFound) runs.entries below
  cases call with
  | setChannelSourceBinding c name =>
    have after := congrArg Prod.fst
      (WindowsReader.setChannelSourceBinding_opened isOpen nvidiaGpuFound c name)
    show WindowsRuns _ _ _ (WindowsReader.setChannelSourceBinding nvidiaGpuFound true c name s).1
    rw [after, WindowsLoad.stored_whole admissible.2.1 admissible.2.2]
    refine ⟨?_, runs.opened, entries⟩
    rw [call_eq, stored_update]
    have named := inKey_name runs.inKey c name
    rwa [← Function.update_eq_self c (stored slots).calibration] at named
  | clearBinding c =>
    refine ⟨?_, runs.opened, entries⟩
    rw [stored_clear]
    exact runs.inKey
  | setChannelCalibration c value =>
    have after := congrArg Prod.fst (WindowsReader.setChannelCalibration_opened isOpen c value)
    show WindowsRuns _ _ _ (WindowsReader.setChannelCalibration true c value s).1
    rw [after]
    refine ⟨?_, runs.opened, entries⟩
    rw [call_eq, stored_update]
    have calibrated := inKey_calibration runs.inKey c value
    rwa [← Function.update_eq_self c (stored slots).binding] at calibrated

/-- A process keeps the key that of the slots. -/
theorem windows_process {s : Windows} (inKey : InKey (stored slots) s.registry)
    {process : WindowsProcess}
    (admissible : Admissible Fits process.toProcess)
    (succeeds : ∀ c < process.count, EnvSucceeds (process.envs c)) :
    ∃ s', windowsProcess s process = some s' ∧ WindowsRuns process.nvidiaGpuFound process.count
      (slots.process windowsRule process.toProcess) s' := by
  obtain ⟨begun, started, runs⟩ :=
    @windows_start process.nvidiaGpuFound process.count slots s inKey process.sameProcess
      process.envs succeeds
  refine ⟨Runs.run (windowsApi process.nvidiaGpuFound).after begun process.calls, ?_, ?_⟩
  · simp only [windowsProcess, started]
  · rw [process_eq _ _ fun call member => below_of_admissible (admissible call member)]
    have keeps : ∀ s slots call, WindowsRuns process.nvidiaGpuFound process.count slots s →
        Call.Admissible process.count Fits call →
        WindowsRuns process.nvidiaGpuFound process.count (slots.call windowsRule call)
          ((windowsApi process.nvidiaGpuFound).after s call) := fun s slots call before rule =>
      windows_call before rule
    exact @Runs.run_related _ _ _ _ _
      (fun s slots => WindowsRuns process.nvidiaGpuFound process.count slots s) _ keeps _ _ runs _
        admissible

end windows

/-- The calls of a process fit the storage, and every registry call of its loading succeeds. -/
def Succeeds (process : WindowsProcess) : Prop :=
  Admissible Fits process.toProcess ∧ ∀ c < process.count, EnvSucceeds (process.envs c)

/-- Every process of any history on a registry key starts, the key then holds what its own
part of the history left of each channel, and the last process has the entries to it. -/
theorem windows_settings_settle {preset : Preset} {registry : RegistryKey}
    (inKey : InKey preset registry) (earlier : List WindowsProcess) (last : WindowsProcess)
    (succeeds : ∀ process ∈ earlier ++ [last], Succeeds process) :
    ∃ s, (earlier ++ [last]).foldlM windowsProcess
      (WindowsReader.fresh registry (Tables.zeroed 0)) = some s ∧
      InKey (stored (settled windowsRule preset ((earlier ++ [last]).map (·.toProcess))))
        s.registry ∧
      Entries (WindowsReader.nameStringToCallback last.nvidiaGpuFound) last.count
        (settled windowsRule preset ((earlier ++ [last]).map (·.toProcess))) s.tables := by
  have keeps : ∀ s slots process, InKey (stored slots) s.registry → Succeeds process →
      ∃ s', windowsProcess s process = some s' ∧
        InKey (stored (slots.process windowsRule process.toProcess)) s'.registry := by
    intro s slots process before rule
    obtain ⟨s', ran, runs⟩ := windows_process before rule.1 rule.2
    exact ⟨s', ran, runs.inKey⟩
  obtain ⟨before, ran, represents⟩ :=
    @Runs.foldlM_simulates _ _ _ _ windowsProcess (Slots.process windowsRule)
    WindowsProcess.toProcess (fun s slots => InKey (stored slots) s.registry) _ keeps
    (WindowsReader.fresh registry (Tables.zeroed 0)) (initialSlot preset) inKey earlier
    fun process member => succeeds process (List.mem_append_left _ member)
  have lastSucceeds := succeeds last (by simp)
  obtain ⟨s, lastRan, runs⟩ := windows_process represents lastSucceeds.1 lastSucceeds.2
  rw [← settled_eq, List.map_append, Runs.run_append]
  refine ⟨s, ?_, runs.inKey, runs.entries⟩
  rw [List.foldlM_append, ran]
  simp [lastRan]

/-- The same on Windows: every process its own, every registry call succeeding. -/
def quiet (nvidiaGpuFound : Bool) (process : Process) : WindowsProcess where
  toProcess := process
  sameProcess := false
  nvidiaGpuFound := nvidiaGpuFound
  envs := WindowsRestart.quietEnv

theorem windows_settings_settle_swapped :
    ∃ s, (swapped.map (quiet true) ++ [quiet false swappedBack]).foldlM windowsProcess
        (WindowsReader.fresh WindowsRestart.emptyKey (Tables.zeroed 0)) = some s ∧
      InKey (stored (settled windowsRule ReaderAgreement.emptyPreset
        ((swapped.map (quiet true) ++ [quiet false swappedBack]).map (·.toProcess)))) s.registry ∧
      s.tables.callback 1 = some .calibration ∧ some (s.tables.calibration 1) = some 200 := by
  have inKey : InKey ReaderAgreement.emptyPreset WindowsRestart.emptyKey := fun _ => ⟨rfl, rfl⟩
  have succeeds : ∀ process ∈ swapped.map (quiet true) ++ [quiet false swappedBack],
    Succeeds process := by
    intro process member
    have admissible := @swapped_admissible Fits ⟨by decide, by decide⟩
    rcases List.mem_append.mp member with inside | isLast
    · obtain ⟨plain, listed, rfl⟩ := List.mem_map.mp inside
      exact ⟨admissible plain (List.mem_append_left _ listed), WindowsRestart.quietEnv_succeeds _⟩
    · rw [List.mem_singleton.mp isLast]
      exact ⟨admissible swappedBack (by simp), WindowsRestart.quietEnv_succeeds _⟩
  obtain ⟨s, ran, key, entries⟩ :=
    windows_settings_settle inKey (swapped.map (quiet true)) (quiet false swappedBack) succeeds
  exact ⟨s, ran, key, entries.bound 1 (by decide), entries.calibrated 1 (by decide)⟩

end PerformancePanel.Guarantees.SwappedPanels

import PerformancePanel.Guarantees.SwappedPanels
import PerformancePanel.Settings.LoadedEntries
import PerformancePanel.Source.InstalledDriver

/-!
# From the stored settings to the panels

The driver only reads its settings: whatever fails, each of its loads gives a channel the
source of its stored name with its stored calibration, or less. So a tick shows the scaled
reading of the stored source or nothing, and with every registry call succeeding exactly
that.
-/
set_option autoImplicit false

namespace PerformancePanel.Guarantees.DriverSettings
open Source Source.Common Source.DataSources Source.Collector Source.PanelSetup Source.Registry
open Source.NvidiaGpu Source.InstalledDriver Library Settings.ChannelSlots Settings.LoadedEntries
open Source.WindowsReader (Windows RegistryEnv)
open Source.WindowsLoad (EnvSucceeds)
open ReaderAgreement (Preset InKey)
open SwappedPanels (windowsRule)

/-! ## The settings a start takes -/

/-- The name every start takes for a channel. -/
def nameTaken (preset : Preset) (channel : Nat) : Name := windowsRule.taken (preset.binding channel)

/-- The calibration every start takes for a channel. -/
def calibrationTaken (preset : Preset) (channel : Nat) : UInt8 :=
  (preset.calibration channel).getD (WindowsReader.defaultCalibration (nameTaken preset channel))

/-- What a start takes for each channel. -/
def presetTaken (preset : Preset) (nvidiaGpuFound : Bool) : Taken where
  source := fun channel => WindowsReader.nameStringToCallback nvidiaGpuFound
    (nameTaken preset channel)
  calibration := calibrationTaken preset

/-- The settings after some loads, each of which may have ended anywhere. -/
structure Loads (before after : Preset) : Prop where
  binding : ∀ channel, after.binding channel = before.binding channel ∨
    after.binding channel = some (nameTaken before channel)
  calibration : ∀ channel, after.calibration channel = before.calibration channel ∨
    after.calibration channel = some (calibrationTaken before channel)

theorem Loads.refl (preset : Preset) : Loads preset preset :=
  ⟨fun _ => Or.inl rfl, fun _ => Or.inl rfl⟩

theorem taken_again (name : Option Name) :
    windowsRule.taken (some (windowsRule.taken name)) = windowsRule.taken name := by
  have short : (windowsRule.taken name).units.length ≤ 15 := by
    cases name with
    | none => decide
    | some name =>
      show (if decide (name.units.length ≤ 15) = true then name
        else Names.unallocated).units.length ≤ 15
      split
      next fits => exact of_decide_eq_true fits
      next => decide
  exact if_pos (decide_eq_true short)

section loads
variable {preset now : Preset} (loads : Loads preset now)
include loads

/-- What a load has stored is what the next one takes. -/
theorem Loads.taken_same (channel : Nat) : nameTaken now channel = nameTaken preset channel := by
  rcases loads.binding channel with same | stored
  · rw [nameTaken, same, nameTaken]
  · rw [nameTaken, stored]
    exact taken_again _

theorem Loads.calibrationTaken_same (channel : Nat) :
    calibrationTaken now channel = calibrationTaken preset channel := by
  rcases loads.calibration channel with same | stored
  · rw [calibrationTaken, same, loads.taken_same, calibrationTaken]
  · rw [calibrationTaken, stored, Option.getD_some]

theorem Loads.name (channel : Nat) :
    Loads preset
      { now with
        binding := Function.update now.binding channel (some (nameTaken preset channel)) } := by
  refine ⟨fun other => ?_, loads.calibration⟩
  dsimp only
  by_cases same : other = channel
  · rw [same, Function.update_self]
    exact Or.inr rfl
  · rw [Function.update_of_ne same]
    exact loads.binding other

theorem Loads.calibrated (channel : Nat) :
    Loads preset
      { now with
        calibration :=
          Function.update now.calibration channel (some (calibrationTaken preset channel)) } := by
  refine ⟨loads.binding, fun other => ?_⟩
  dsimp only
  by_cases same : other = channel
  · rw [same, Function.update_self]
    exact Or.inr rfl
  · rw [Function.update_of_ne same]
    exact loads.calibration other

end loads

/-- The key after some loads of the settings. -/
def KeyLoads (preset : Preset) (registry : RegistryKey) : Prop :=
  ∃ now, Loads preset now ∧ InKey now registry

/-! ## One call of the reader, whatever fails -/

section reading
variable {preset : Preset} {env : RegistryEnv} {channel : Nat} {s : Windows}

theorem readName_kept (kept : KeyLoads preset s.registry) :
    ∃ registry result, WindowsReader.readName env channel s =
      ({ s with registry := registry }, result) ∧
      KeyLoads preset registry ∧ (result = none ∨ result = some (nameTaken preset channel)) := by
  have ⟨now, loads, inKey⟩ := kept
  have value : WindowsLoad.takenName env.keyValueBuffer
    (s.registry (WindowsReader.channelKey channel)) =
      nameTaken preset channel := by
    rw [(inKey channel).1, SwappedPanels.taken_windows]
    exact loads.taken_same channel
  have replaced (unusable : nameTaken preset channel = Names.unallocated) :
      KeyLoads preset (regSetValueEx s.registry (WindowsReader.channelKey channel)
        (WindowsReader.stored Names.unallocated)) := by
    rw [WindowsLoad.stored_whole (by decide) (by decide), ← unusable]
    exact ⟨_, loads.name channel, SwappedPanels.inKey_name inKey channel _⟩
  unfold WindowsReader.readName regQueryValueEx
  cases found : s.registry (WindowsReader.channelKey channel) with
  | none =>
    rw [found] at value
    cases env.setName with
    | true => exact ⟨_, _, rfl, replaced value.symm, Or.inr (congrArg some value)⟩
    | false => exact ⟨_, _, rfl, kept, Or.inl rfl⟩
  | some data =>
    rw [found, WindowsLoad.takenName] at value
    by_cases short : data.length ≤ WindowsReader.keyValueBufferSize
    · rw [if_pos short] at value
      simp only [if_pos short]
      exact ⟨_, _, rfl, kept, Or.inr (congrArg some value)⟩
    · rw [if_neg short] at value
      simp only [if_neg short]
      cases env.setName with
      | true => exact ⟨_, _, rfl, replaced value.symm, Or.inr (congrArg some value)⟩
      | false => exact ⟨_, _, rfl, kept, Or.inl rfl⟩

theorem readCalibration_kept (kept : KeyLoads preset s.registry) :
    ∃ registry result, WindowsReader.readCalibration env channel
        (WindowsReader.defaultCalibration (nameTaken preset channel)) s =
        ({ s with registry := registry }, result) ∧
      KeyLoads preset registry ∧
        (result = none ∨ result = some (calibrationTaken preset channel)) := by
  obtain ⟨now, loads, inKey⟩ := kept
  have stored : s.registry (WindowsReader.calibrationKey channel) =
    (now.calibration channel).map dword :=
    (inKey channel).2
  have value := loads.calibrationTaken_same channel
  unfold WindowsReader.readCalibration regQueryValueEx
  cases calibration : now.calibration channel with
  | none =>
    rw [calibrationTaken, calibration, Option.getD_none, loads.taken_same] at value
    rw [stored, calibration, Option.map_none]
    cases env.setCalibration with
    | true =>
      have set := SwappedPanels.inKey_calibration inKey channel (calibrationTaken preset channel)
      rw [← value] at set ⊢
      exact ⟨_, _, rfl, ⟨_, value ▸ loads.calibrated channel, set⟩, Or.inr rfl⟩
    | false => exact ⟨_, _, rfl, ⟨now, loads, inKey⟩, Or.inl rfl⟩
  | some w =>
    rw [calibrationTaken, calibration, Option.getD_some] at value
    rw [stored, calibration, Option.map_some]
    exact ⟨_, _, rfl, ⟨now, loads, inKey⟩, Or.inr (congrArg some value)⟩

/-- A reader whose key has loads of the settings and whose arrays have entries of them. -/
structure Reads (preset : Preset) (nvidiaGpuFound : Bool) (count : Nat) (s : Windows) : Prop where
  key : KeyLoads preset s.registry
  sized : s.tables.Sized count
  entries : ∀ c, Entry (presetTaken preset nvidiaGpuFound) s.tables c

/-- It stays one however a call ends. -/
theorem getBoundDataSource_kept {nvidiaGpuFound : Bool} {count : Nat}
    (reads : Reads preset nvidiaGpuFound count s) (below : channel < count) :
    Reads preset nvidiaGpuFound count
      (WindowsReader.getBoundDataSource nvidiaGpuFound env channel s).1 := by
  obtain ⟨key, sized, entries⟩ := reads
  unfold WindowsReader.getBoundDataSource
  split
  next =>
    obtain ⟨registry, result, named, keyNamed, name⟩ :=
      @readName_kept preset env channel { s with opened := true } key
    rw [named]
    rcases name with rfl | rfl
    · exact ⟨keyNamed, sized, entries⟩
    · have bound := entry_setCallback sized below entries
      have boundSized := (Tables.setCallback_sized s.tables channel count
        (WindowsReader.nameStringToCallback nvidiaGpuFound (nameTaken preset channel))).mpr sized
      obtain ⟨registry', result', calibrated, keyCalibrated, value⟩ :=
        @readCalibration_kept preset env channel ⟨true, registry, s.tables.setCallback channel
          (WindowsReader.nameStringToCallback nvidiaGpuFound (nameTaken preset channel))⟩ keyNamed
      dsimp only at calibrated ⊢
      rw [calibrated]
      rcases value with rfl | rfl
      · exact ⟨keyCalibrated, boundSized, bound⟩
      · exact ⟨keyCalibrated, (Tables.setCalibration_sized _ _ _ _).mpr boundSized,
          entry_setCalibration boundSized below bound⟩
  next => exact ⟨key, sized, entries⟩

end reading

/-! ## The driver, whatever fails -/

/-- A packet that the settings call for: the scaled reading of the source a channel's name
stands for. -/
def CalledFor (preset : Preset) (packet : ControlTransfer) : Prop :=
  ∃ (channel : UInt8) (source : DataSource) (last : SystemTimes) (os : OsReadings),
    WindowsReader.callbackToNameString (some source) = nameTaken preset channel.toNat ∧
    packet = sendUsage channel
      (calibrated (source.read last os).1 (calibrationTaken preset channel.toNat))

/-- What the driver sends: the query, a zero level, or a level that is called for. -/
def Allowed (preset : Preset) (packet : ControlTransfer) : Prop :=
  packet = queryTransfer ∨ (∃ channel, packet = sendUsage channel 0) ∨ CalledFor preset packet

/-- A tick on such arrays sends what is allowed. -/
theorem tick_allowed {preset : Preset} {nvidiaGpuFound : Bool} {channelCount : UInt8}
    {arrays : Arrays}
    (entries : ArraysOf (presetTaken preset nvidiaGpuFound) channelCount.toNat arrays)
    (env : TickEnv) (last : SystemTimes) {packet : ControlTransfer}
    (sent : packet ∈ (mainLoopCallback env channelCount arrays last).transfers) :
    Allowed preset packet := by
  obtain ⟨channel, source, bound, zero | ⟨last, os, same⟩⟩ := tick_calledFor entries env last sent
  · exact Or.inr (Or.inl ⟨channel, zero⟩)
  · exact Or.inr (Or.inr ⟨channel, source, last, os, WindowsLoad.name_of_source bound, same⟩)

/-- The settings are kept and have allowed everything that was sent. -/
structure Follows (preset : Preset) (s : Installed) : Prop where
  key : KeyLoads preset s.registry
  arrays : ArraysOf (presetTaken preset s.gpu.nvidiaGpuFound) s.driver.channelCount.toNat
    s.driver.arrays
  sent : ∀ transfer ∈ s.driver.sent, Allowed preset transfer.packet

section follows
variable {preset : Preset} {s : Installed}

theorem loaded_follows {registry : RegistryKey} (key : KeyLoads preset registry) :
    Follows preset (loaded registry) :=
  ⟨key, .nothingBound _ nofun, nofun⟩

/-- Allowed packets may be sent. -/
theorem transferControl_allowed {d : UmdfDriver.Driver}
    (sent : ∀ transfer ∈ d.sent, Allowed preset transfer.packet)
    (device : Option UmdfDriver.Handle) {packets : List ControlTransfer}
    (allowed : ∀ packet ∈ packets, Allowed preset packet) :
    ∀ transfer ∈ (UmdfDriver.transferControl device packets d).sent,
      Allowed preset transfer.packet := by
  intro transfer member
  rcases List.mem_append.mp member with before | new
  · exact sent transfer before
  · obtain ⟨packet, listed, rfl⟩ := List.mem_map.mp new
    exact allowed packet listed

/-- The initialisation keeps the settings, however it ends, and sends nothing. -/
theorem initializeBinding_follows (follows : Follows preset s) (env : Preparation)
    (channelCount : UInt8) :
    let after := initializeBinding env channelCount s
    KeyLoads preset after.registry ∧
      ArraysOf (presetTaken preset after.gpu.nvidiaGpuFound) channelCount.toNat
        after.driver.arrays ∧
      after.driver.sent = s.driver.sent := by
  cases both : (env.callbacksAllocated && env.calibrationsAllocated) with
  | true =>
    let found := (dataSourceNvidiaPrepare env.gpuEnv s.gpu).1.nvidiaGpuFound
    have reads : Reads preset found channelCount.toNat (bindLoop (fun channel w =>
        WindowsReader.getBoundDataSource found (env.envs channel) channel w) channelCount.toNat 0
        ⟨s.opened, s.registry, Tables.zeroed channelCount.toNat⟩).1 :=
      bindLoop_keeps (fun i w below reads => getBoundDataSource_kept reads below) (Nat.zero_add _)
        ⟨follows.key, Tables.zeroed_sized _, zeroed_entries _ _⟩
    simp only [initializeBinding, initializeDataSourceBinding, both, if_true]
    exact ⟨reads.key, .entries _ reads.sized reads.entries, trivial⟩
  | false =>
    simp only [initializeBinding, initializeDataSourceBinding, both, Bool.false_eq_true, if_false]
    exact ⟨follows.key, .nothingBound _ (unallocated_idle _ _), trivial⟩

theorem queried_follows (follows : Follows preset s) (device : UmdfDriver.Handle) :
    Follows preset (queried device s) := by
  refine ⟨follows.key, follows.arrays, ?_⟩
  refine @transferControl_allowed preset s.driver follows.sent (some device) _
    fun packet listed => ?_
  rw [List.mem_singleton.mp listed]
  exact Or.inl rfl

theorem counted_follows (follows : Follows preset s) (device : UmdfDriver.Handle)
    (env : Preparation) (channelCount : UInt8) :
    Follows preset (counted device env channelCount s) := by
  obtain ⟨key, arrays, sent⟩ := initializeBinding_follows follows env channelCount
  let d :=
    { (initializeBinding env channelCount s).driver with
      channelCount := channelCount, device := some device }
  obtain ⟨sameArrays, sameCount, sameSent⟩ := enterLoop_frame env.timerCreated d
  refine ⟨key, ?_, ?_⟩
  · show ArraysOf (presetTaken preset _)
      (UmdfDriver.enterLoop env.timerCreated d).channelCount.toNat
      (UmdfDriver.enterLoop env.timerCreated d).arrays
    rw [sameArrays, sameCount]
    exact arrays
  · show ∀ transfer ∈ (UmdfDriver.enterLoop env.timerCreated d).sent, Allowed preset transfer.packet
    rw [sameSent]
    show ∀ transfer ∈ (initializeBinding env channelCount s).driver.sent,
      Allowed preset transfer.packet
    rw [sent]
    exact follows.sent

theorem cleanup_follows (follows : Follows preset s) :
    Follows preset { s with driver := UmdfDriver.driverContextCleanup s.driver } := by
  have zeros (channelCount : UInt8) : ∀ packet ∈ zeroLevels channelCount,
    Allowed preset packet := by
    intro packet listed
    obtain ⟨channel, -, rfl⟩ := List.mem_map.mp listed
    exact Or.inr (Or.inl ⟨UInt8.ofNat channel, rfl⟩)
  unfold UmdfDriver.driverContextCleanup
  cases s.driver.timer with
  | none =>
    exact ⟨follows.key, follows.arrays, @transferControl_allowed preset s.driver follows.sent none _
      (zeros _)⟩
  | some handle =>
    exact ⟨follows.key, follows.arrays,
      @transferControl_allowed preset (UmdfDriver.stopTimer handle s.driver) follows.sent none _
        (zeros _)⟩

theorem prepareHardware_follows (follows : Follows preset s) (device : UmdfDriver.Handle)
    (env : Preparation) :
    Follows preset (prepareHardware device env s) := by
  rcases prepareHardware_cases device env s with same | ⟨usb, next, prepared⟩
  · rw [same]
    exact follows
  · have ensured : Follows preset
      { s with driver := { s.driver with usbDevice := some usb, nextHandle := next } } :=
      ⟨follows.key, follows.arrays, follows.sent⟩
    have afterQuery := queried_follows ensured device
    rcases prepared with same | same | ⟨channelCount, -, same⟩
    · rw [same]
      exact ensured
    · rw [same]
      exact afterQuery
    · rw [same]
      exact counted_follows afterQuery device env channelCount

theorem callback_follows (follows : Follows preset s) (e : Event) :
    Follows preset (callback s e) := by
  cases e with
  | imageLoaded => exact loaded_follows follows.key
  | deviceAdd created interfaceCreated =>
      cases created <;> exact ⟨follows.key, follows.arrays, follows.sent⟩
  | prepareHardware device env => exact prepareHardware_follows follows device env
  | timerFires timer env =>
    refine ⟨follows.key, follows.arrays, ?_⟩
    exact @transferControl_allowed preset s.driver follows.sent (some timer.parent) _
      fun packet sent =>
      tick_allowed follows.arrays env s.driver.lastTimes sent
  | deviceRemoved device => exact ⟨follows.key, follows.arrays, follows.sent⟩
  | driverContextCleanup => exact cleanup_follows follows

end follows

/-- Whatever fails, over any number of panels and lifetimes of the image, the driver keeps the
stored settings but for what a start stores of them, and every packet it sends is the query,
a zero level, or the scaled reading of the source that the channel's stored name stands for
with the calibration that is stored for it. -/
theorem driver_follows_settings {preset : Preset} {registry : RegistryKey}
    (inKey : InKey preset registry)
    (events : List Event) : Runs.AllReached step (Follows preset) (loaded registry) events := by
  refine Runs.allReached_of_invariant (fun s e follows => ?_)
    (loaded_follows ⟨preset, .refl preset, inKey⟩) events
  unfold step
  split
  · exact callback_follows follows e
  · exact follows

/-- A panel with one channel plugged in, whose calibration cannot be stored, and a tick. -/
def plugged : Preparation where
  usbCreated := true
  configSelected := true
  queryStatus := .success
  queryReply := 0x81
  fuel := 0
  callbacksAllocated := true
  calibrationsAllocated := true
  gpuEnv := ⟨true, some 0, true⟩
  envs := WindowsRestart.quietEnv
  timerCreated := true

def readOnly : Preparation :=
  { plugged with envs := fun channel =>
    { WindowsRestart.quietEnv channel with setCalibration := false } }

def firstTick (env : Preparation) : List Event :=
  [.deviceAdd true true, .prepareHardware 0 env,
    .timerFires ⟨2, 0, true⟩ ⟨fun _ => ⟨none, none, none, none, 0⟩, fun _ => .success⟩]

theorem driver_follows_readOnly :
    Runs.AllReached step (Follows ReaderAgreement.uncalibrated)
      (loaded ReaderAgreement.uncalibratedKey) (firstTick readOnly) :=
  driver_follows_settings ReaderAgreement.uncalibrated_inKey (firstTick readOnly)

/-! ## The driver with every call succeeding -/

/-- The settings once every channel below the count has been loaded. -/
def loadedBelow (preset : Preset) (count : Nat) : Preset where
  binding := fun channel => if channel < count then some (nameTaken preset channel)
    else preset.binding channel
  calibration := fun channel =>
    if channel < count then some (calibrationTaken preset channel) else preset.calibration channel

theorem loadedBelow_loads (preset : Preset) (count : Nat) :
    Loads preset (loadedBelow preset count) := by
  refine ⟨fun channel => ?_, fun channel => ?_⟩
  · by_cases below : channel < count
    · exact Or.inr (if_pos below)
    · exact Or.inl (if_neg below)
  · by_cases below : channel < count
    · exact Or.inr (if_pos below)
    · exact Or.inl (if_neg below)

/-- The slots of the channels after another load. -/
def reloaded (preset : Preset) (before count : Nat) : Slots :=
  Slots.load windowsRule count (SwappedPanels.initialSlot (loadedBelow preset before))

theorem reloaded_below {preset : Preset} {before count channel : Nat} (below : channel < count) :
    reloaded preset before count channel =
      ⟨some (nameTaken preset channel), some (calibrationTaken preset channel),
        nameTaken preset channel⟩ := by
  have loads := loadedBelow_loads preset before
  have slot : reloaded preset before count channel =
    ⟨some (nameTaken (loadedBelow preset before) channel),
      some (calibrationTaken (loadedBelow preset before) channel),
        nameTaken (loadedBelow preset before) channel⟩ :=
    load_below below
  rw [slot, loads.taken_same, loads.calibrationTaken_same]

/-- Another load stores the settings of the channels it adds. -/
theorem stored_reloaded (preset : Preset) (before count : Nat) :
    SwappedPanels.stored (reloaded preset before count) =
      loadedBelow preset (max before count) := by
  have above {channel : Nat} (here : ¬ channel < count) :
      reloaded preset before count channel = SwappedPanels.initialSlot (loadedBelow preset before)
        channel :=
    load_above here
  unfold SwappedPanels.stored loadedBelow
  congr 1
  · funext channel
    by_cases below : channel < count
    · rw [reloaded_below below, if_pos (by omega)]
    · have same : channel < max before count ↔ channel < before := by omega
      rw [above below]
      simp only [SwappedPanels.initialSlot, loadedBelow, same]
  · funext channel
    by_cases below : channel < count
    · rw [reloaded_below below, if_pos (by omega)]
    · have same : channel < max before count ↔ channel < before := by omega
      rw [above below]
      simp only [SwappedPanels.initialSlot, loadedBelow, same]

/-- The entries of a start on the settings are those it takes. -/
theorem entries_settings {preset : Preset} {nvidiaGpuFound : Bool} {before count : Nat} {t : Tables}
    (entries : SwappedPanels.Entries (WindowsReader.nameStringToCallback nvidiaGpuFound) count
      (reloaded preset before count) t) : t = (presetTaken preset nvidiaGpuFound).tables count := by
  refine tables_eq entries.sized fun channel below => ?_
  have bound := entries.bound channel below
  have calibrated := entries.calibrated channel below
  rw [reloaded_below below] at bound calibrated
  exact ⟨bound, Option.some.inj calibrated⟩

/-- What the driver shows in a tick. -/
def shownPackets (preset : Preset) (s : Installed) (env : TickEnv) : List ControlTransfer :=
  (presetTaken preset s.gpu.nvidiaGpuFound).packets s.driver.channelCount.toNat env
    s.driver.lastTimes

/-- The driver before its first initialisation, or with the arrays of the settings. -/
structure Shows (preset : Preset) (s : Installed) : Prop where
  key : ∃ count, InKey (loadedBelow preset count) s.registry
  arrays : (s.driver.arrays = ⟨none, none⟩ ∧ s.driver.channelCount = 0) ∨
    s.driver.arrays =
      ((presetTaken preset s.gpu.nvidiaGpuFound).tables s.driver.channelCount.toNat).arrays

/-- Both allocations and every registry call of a preparation succeed. -/
def Succeeds : Event → Prop
  | .prepareHardware _ env =>
    (env.callbacksAllocated && env.calibrationsAllocated) = true ∧
    ∀ channel, EnvSucceeds (env.envs channel)
  | _ => True

section shows
variable {preset : Preset} {s : Installed}

/-- A tick shows what the settings stand for. -/
theorem tick_shows (shows : Shows preset s) (env : TickEnv) :
    (mainLoopCallback env s.driver.channelCount s.driver.arrays s.driver.lastTimes).transfers =
      shownPackets preset s env := by
  rcases shows.arrays with ⟨arrays, count⟩ | arrays
  · rw [shownPackets, arrays, count]
    rfl
  · rw [arrays, shownPackets]
    exact tick_packets _ _ env _

/-- An initialisation that succeeds leaves the arrays of the settings. -/
theorem initializeBinding_shows {before : Nat}
    (inKey : InKey (loadedBelow preset before) s.registry)
    {env : Preparation} (allocated : (env.callbacksAllocated && env.calibrationsAllocated) = true)
    (succeeds : ∀ channel, EnvSucceeds (env.envs channel)) (channelCount : UInt8) :
    let after := initializeBinding env channelCount s
    InKey (loadedBelow preset (max before channelCount.toNat)) after.registry ∧
      after.driver.arrays =
        ((presetTaken preset after.gpu.nvidiaGpuFound).tables channelCount.toNat).arrays := by
  obtain ⟨w, started, runs⟩ := @SwappedPanels.windows_start
    (dataSourceNvidiaPrepare env.gpuEnv s.gpu).1.nvidiaGpuFound channelCount.toNat
    (SwappedPanels.initialSlot (loadedBelow preset before)) ⟨s.opened, s.registry, Tables.zeroed 0⟩
      inKey true env.envs
    fun channel _ => succeeds channel
  obtain ⟨callbacks, calibrations⟩ := Bool.and_eq_true _ _ ▸ allocated
  have initialized : initializeDataSourceBinding env.callbacksAllocated env.calibrationsAllocated
      channelCount.toNat (fun tables => (⟨s.opened, s.registry, tables⟩ : Windows))
        (fun channel w =>
        WindowsReader.getBoundDataSource (dataSourceNvidiaPrepare env.gpuEnv s.gpu).1.nvidiaGpuFound
          (env.envs channel) channel w) = .bound w (.returned .success) := by
    rw [callbacks, calibrations]
    exact started
  have stored := runs.inKey
  rw [show Slots.load windowsRule _ _ = reloaded preset before channelCount.toNat from rfl,
    stored_reloaded] at stored
  simp only [initializeBinding, initialized]
  refine ⟨stored, ?_⟩
  rw [entries_settings runs.entries]

theorem prepareHardware_shows (shows : Shows preset s) (device : UmdfDriver.Handle)
    {env : Preparation}
    (succeeds : Succeeds (.prepareHardware device env)) :
    Shows preset (prepareHardware device env s) := by
  obtain ⟨⟨before, inKey⟩, arrays⟩ := shows
  rcases prepareHardware_cases device env s with same
    | ⟨usb, next, same | same | ⟨channelCount, -, same⟩⟩
  · rw [same]
    exact ⟨⟨before, inKey⟩, arrays⟩
  · rw [same]
    exact ⟨⟨before, inKey⟩, arrays⟩
  · rw [same]
    exact ⟨⟨before, inKey⟩, arrays⟩
  · rw [same]
    let s' := queried device
      { s with driver := { s.driver with usbDevice := some usb, nextHandle := next } }
    obtain ⟨key, initialized⟩ :=
      @initializeBinding_shows preset s' before inKey env succeeds.1 succeeds.2 channelCount
    let d :=
      { (initializeBinding env channelCount s').driver with
        channelCount := channelCount, device := some device }
    obtain ⟨sameArrays, sameCount, -⟩ := enterLoop_frame env.timerCreated d
    refine ⟨⟨_, key⟩, Or.inr ?_⟩
    show (UmdfDriver.enterLoop env.timerCreated d).arrays =
      ((presetTaken preset _).tables
        (UmdfDriver.enterLoop env.timerCreated d).channelCount.toNat).arrays
    rw [sameArrays, sameCount]
    exact initialized

theorem callback_shows (shows : Shows preset s) {e : Event} (succeeds : Succeeds e) :
    Shows preset (callback s e) := by
  cases e with
  | imageLoaded => exact ⟨shows.key, Or.inl ⟨rfl, rfl⟩⟩
  | deviceAdd created interfaceCreated => cases created <;> exact ⟨shows.key, shows.arrays⟩
  | prepareHardware device env => exact prepareHardware_shows shows device succeeds
  | timerFires timer env => exact ⟨shows.key, shows.arrays⟩
  | deviceRemoved device => exact ⟨shows.key, shows.arrays⟩
  | driverContextCleanup =>
    show Shows preset { s with driver := UmdfDriver.driverContextCleanup s.driver }
    unfold UmdfDriver.driverContextCleanup
    cases s.driver.timer <;> exact ⟨shows.key, shows.arrays⟩

end shows

/-- With every allocation and registry call succeeding, in every reached state the key holds
the settings with those of some first channels loaded, and a tick that fires sends exactly
the packets of the settings. -/
theorem driver_shows_settings {preset : Preset} {registry : RegistryKey}
    (inKey : InKey preset registry) {events : List Event} (succeeds : ∀ e ∈ events, Succeeds e) :
    Runs.AllReached step (fun s => Shows preset s ∧ ∀ timer env,
      delivered s (.timerFires timer env) = true →
      (step s (.timerFires timer env)).driver.sent.map (·.packet) =
        s.driver.sent.map (·.packet) ++ shownPackets preset s env) (loaded registry) events := by
  have first : Shows preset (loaded registry) := by
    refine ⟨⟨0, ?_⟩, Or.inl ⟨rfl, rfl⟩⟩
    exact inKey
  have keeps : ∀ s e, Shows preset s → Succeeds e → Shows preset (step s e) := by
    intro s e shows rule
    unfold step
    split
    · exact callback_shows shows rule
    · exact shows
  refine (Runs.allReached_of_rule keeps first succeeds).mono fun s shows =>
    ⟨shows, fun timer env fires => ?_⟩
  have sent : (step s (.timerFires timer env)).driver.sent = s.driver.sent ++
      (mainLoopCallback env s.driver.channelCount s.driver.arrays s.driver.lastTimes).transfers.map
        fun packet =>
        ⟨s.driver.usbDevice, some timer.parent, s.driver.liveDevices, packet⟩ := by
    rw [step, if_pos fires]
    rfl
  rw [sent, tick_shows shows env, List.map_append, List.map_map]
  exact congrArg _ (List.map_id _)

theorem driver_shows_plugged :
    Shows ReaderAgreement.uncalibrated
      (Runs.run step (loaded ReaderAgreement.uncalibratedKey) (firstTick plugged)) := by
  have succeeds : ∀ e ∈ firstTick plugged, Succeeds e := by
    intro e member
    simp only [firstTick, List.mem_cons, List.not_mem_nil, or_false] at member
    rcases member with rfl | rfl | rfl
    · trivial
    · exact ⟨rfl, fun channel => WindowsRestart.quietEnv_succeeds (channel + 1) channel
        (Nat.lt_succ_self channel)⟩
    · trivial
  exact (driver_shows_settings ReaderAgreement.uncalibrated_inKey succeeds).last.1

end PerformancePanel.Guarantees.DriverSettings

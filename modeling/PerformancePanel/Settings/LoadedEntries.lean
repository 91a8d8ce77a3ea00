import PerformancePanel.Source.Tick

/-!
# The arrays a load leaves

What loading is for, whatever the storage: each channel is to have the source and the
calibration of its settings (`Taken`). A load that ends early leaves entries of these, the
others as they were allocated, and the ticks on such arrays send levels that the settings
call for, or zero.
-/
set_option autoImplicit false

namespace PerformancePanel.Settings.LoadedEntries
open Source.Common Source.DataSources Source.Collector Source.Tick

/-- The source and the calibration that a start takes for each channel. -/
structure Taken where
  source : Nat → Callback
  calibration : Nat → UInt8

/-- The entries of a channel: each as it was allocated, or as it is taken. -/
structure Entry (taken : Taken) (t : Tables) (channel : Nat) : Prop where
  bound : t.callback channel = none ∨ t.callback channel = taken.source channel
  calibrated : t.calibration channel = 0 ∨ t.calibration channel = taken.calibration channel

section entries
variable {taken : Taken} {count channel : Nat} {t : Tables}

theorem zeroed_entries (taken : Taken) (count channel : Nat) :
    Entry taken (Tables.zeroed count) channel := by
  refine ⟨Or.inl (Tables.callback_zeroed count channel), Or.inl ?_⟩
  simp only [Tables.calibration, Tables.zeroed, List.getD_eq_getElem?_getD, List.getElem?_replicate]
  split <;> rfl

theorem entry_setCallback (sized : t.Sized count) (below : channel < count)
    (entries : ∀ c, Entry taken t c)
    (c : Nat) : Entry taken (t.setCallback channel (taken.source channel)) c := by
  refine ⟨?_, (entries c).calibrated⟩
  by_cases same : c = channel
  · rw [same, Tables.callback_setCallback_self sized below]
    exact Or.inr rfl
  · rw [Tables.callback_setCallback_ne _ same]
    exact (entries c).bound

theorem entry_setCalibration (sized : t.Sized count) (below : channel < count)
    (entries : ∀ c, Entry taken t c)
    (c : Nat) : Entry taken (t.setCalibration channel (taken.calibration channel)) c := by
  refine ⟨(entries c).bound, ?_⟩
  by_cases same : c = channel
  · rw [same, Tables.calibration_setCalibration_self sized below]
    exact Or.inr rfl
  · rw [Tables.calibration_setCalibration_ne _ same]
    exact (entries c).calibrated

end entries

/-- The arrays of a program: nothing bound, or entries that are taken. -/
inductive ArraysOf (taken : Taken) (count : Nat) : Arrays → Prop where
  | nothingBound (arrays : Arrays)
      (idle : ∀ i source, load arrays.callbacks i ≠ some (some source)) :
    ArraysOf taken count arrays
  | entries (t : Tables) (sized : t.Sized count) (entries : ∀ c, Entry taken t c) : ArraysOf taken
      count t.arrays

/-- Zeroed or missing arrays bind nothing. -/
theorem unallocated_idle (count : Nat) (callbacksAllocated : Bool) (i : Nat) (source : DataSource) :
    load (if callbacksAllocated then some (Tables.zeroed count).callbacks else none) i ≠
      some (some source) := by
  cases callbacksAllocated with
  | false => exact nofun
  | true =>
    intro found
    have member : some source ∈ List.replicate count (none : Callback) := List.mem_of_getElem? found
    cases List.eq_of_mem_replicate member

/-! ## Ticks on them -/

theorem mainLoopFrom_idle (env : TickEnv) {arrays : Arrays}
    (idle : ∀ i source, load arrays.callbacks i ≠ some (some source)) (remaining i : Nat)
    (last : SystemTimes) :
    (mainLoopFrom env arrays remaining i last).transfers = [] := by
  induction remaining generalizing i with
  | zero => rfl
  | succ remaining ih =>
    unfold mainLoopFrom
    split
    next => rfl
    next => exact ih (i + 1)
    next source bound => exact absurd bound (idle i source)

theorem calibrated_zero (reading : UInt8) : calibrated reading 0 = 0 := by
  apply UInt8.toNat.inj
  rw [calibrated_toNat]
  simp

/-- A packet that the settings call for, to a channel that has a source: its scaled reading,
or zero. -/
def Taken.CallsFor (taken : Taken) (packet : ControlTransfer) : Prop :=
  ∃ (channel : UInt8) (source : DataSource), taken.source channel.toNat = some source ∧
    (packet = sendUsage channel 0 ∨ ∃ (last : SystemTimes) (os : OsReadings),
      packet = sendUsage channel
        (calibrated (source.read last os).1 (taken.calibration channel.toNat)))

/-- A tick on such arrays sends nothing else. -/
theorem tick_calledFor {taken : Taken} {channelCount : UInt8} {arrays : Arrays}
    (entries : ArraysOf taken channelCount.toNat arrays) (env : TickEnv) (last : SystemTimes)
    {packet : ControlTransfer}
    (sent : packet ∈ (mainLoopCallback env channelCount arrays last).transfers) :
    taken.CallsFor packet := by
  cases entries with
  | nothingBound _ idle =>
    rw [mainLoopCallback, mainLoopFrom_idle env idle] at sent
    cases sent
  | entries t sized entries =>
    obtain ⟨channel, source, below, bound, rfl⟩ := mem_transfers sized sent
    have small : channel < 256 := lt_trans below channelCount.toNat_lt
    obtain ⟨callback, calibration⟩ := entries channel
    refine ⟨UInt8.ofNat channel, source, ?_, ?_⟩
    · rw [UInt8.toNat_ofNat_of_lt' small]
      rcases callback with unbound | named
      · rw [bound] at unbound
        cases unbound
      · exact named.symm.trans bound
    · rcases calibration with zeroed | called
      · exact Or.inl (by rw [packetFor, zeroed, calibrated_zero])
      · refine Or.inr ⟨countersBefore env t last channel, env.os channel, ?_⟩
        rw [UInt8.toNat_ofNat_of_lt' small, packetFor, called]
        rfl

/-! ## Arrays that are loaded whole -/

/-- The arrays as they are taken. -/
def Taken.tables (taken : Taken) (count : Nat) : Tables where
  callbacks := (List.range count).map taken.source
  calibrations := (List.range count).map taken.calibration

theorem tables_sized (taken : Taken) (count : Nat) : (taken.tables count).Sized count := by
  simp [Taken.tables, Tables.Sized]

theorem tables_callback {taken : Taken} {count channel : Nat} (below : channel < count) :
    (taken.tables count).callback channel = taken.source channel := by
  simp [Taken.tables, Tables.callback, below]

theorem tables_calibration {taken : Taken} {count channel : Nat} (below : channel < count) :
    (taken.tables count).calibration channel = taken.calibration channel := by
  simp [Taken.tables, Tables.calibration, below]

theorem tables_eq {taken : Taken} {count : Nat} {t : Tables} (sized : t.Sized count)
    (entries : ∀ channel < count, t.callback channel = taken.source channel ∧
      t.calibration channel = taken.calibration channel) : t = taken.tables count := by
  refine Tables.eq_of_entries sized (tables_sized taken count) fun channel below => ?_
  rw [tables_callback below, tables_calibration below]
  exact entries channel below

/-- What a tick shows: the bound channels with their scaled readings, up to the first
transfer that fails. -/
def Taken.packets (taken : Taken) (count : Nat) (env : TickEnv) (last : SystemTimes) :
    List ControlTransfer :=
  (reached env (boundFrom (taken.tables count) count 0)).map fun entry =>
    packetFor env (taken.tables count) last entry.2 entry.1

theorem tick_packets (taken : Taken) (channelCount : UInt8) (env : TickEnv) (last : SystemTimes) :
    (mainLoopCallback env channelCount (taken.tables channelCount.toNat).arrays last).transfers =
      taken.packets channelCount.toNat env last :=
  mainLoopCallback_transfers (tables_sized taken channelCount.toNat)

end PerformancePanel.Settings.LoadedEntries

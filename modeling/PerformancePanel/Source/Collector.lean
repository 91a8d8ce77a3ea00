import PerformancePanel.Library.WhileLoop
import PerformancePanel.Source.DataSources

/-!
# Collector: capability query, binding arrays and the periodic tick

Source: datasource/collector.c. `data_source_callbacks` and `calibration_values` are
heap blocks or NULL (`Arrays`); an access outside a block is a fault, so the tick is
total on every combination of failed allocations. `Tables` are two allocated blocks,
the form every configuration reader works on. Outcomes of `transfer_control` and of
the OS queries are inputs of a tick, indexed by the channel the loop is at.
-/
set_option autoImplicit false

namespace PerformancePanel.Source.Collector
open Common DataSources

/-- `VOLTMETER_CHANNEL_REPORT_RAW_VALUE`. -/
def voltmeterChannelReportRawValue : UInt8 := 0x80

/-- `ret_val` and `count` of the backward-compatibility loop. -/
structure LegacyCount where
  retVal : UInt8
  count : UInt8
  deriving DecidableEq, Repr

def legacyTest (s : LegacyCount) : Bool := s.retVal &&& 1 != 0

def legacyBody (s : LegacyCount) : LegacyCount := { s with count := s.count + 1 }

/-- `get_channel_count` after `transfer_control` returned `status` and left `reply`
in `ret_val`; `none` is a loop that `fuel` iterations do not leave. -/
def getChannelCount (fuel : Nat) (status : Status) (reply : UInt8) : Option UInt8 :=
  let decoded :=
    if reply &&& voltmeterChannelReportRawValue != 0 then
      some (reply &&& ~~~voltmeterChannelReportRawValue)
    else
      (Library.WhileLoop.iterate legacyTest legacyBody fuel ⟨reply, 0⟩).map (·.count)
  decoded.map fun count => if status = .success then count else 0

/-- The loop body never changes `ret_val`, so the loop is left at once or never. -/
theorem legacy_iterate (fuel : Nat) (reply : UInt8) :
    Library.WhileLoop.iterate legacyTest legacyBody fuel ⟨reply, 0⟩ =
      if reply &&& 1 != 0 then none else some ⟨reply, 0⟩ := by
  split
  next odd =>
    have start : legacyTest ⟨reply, 0⟩ = true := odd
    have keeps : ∀ s, legacyTest s = true → legacyTest (legacyBody s) = true := fun _ h => h
    exact Library.WhileLoop.iterate_none_of_invariant (fun _ h => h) keeps fuel start
  next even =>
    exact Library.WhileLoop.iterate_exit (by simpa [legacyTest] using even) fuel

/-- The answer for every reply, whatever the number of iterations allowed. -/
theorem getChannelCount_eq (fuel : Nat) (status : Status) (reply : UInt8) :
    getChannelCount fuel status reply =
      if reply &&& voltmeterChannelReportRawValue != 0 then
        some (if status = .success then reply &&& ~~~voltmeterChannelReportRawValue else 0)
      else if reply &&& 1 != 0 then none
      else some 0 := by
  unfold getChannelCount
  rw [legacy_iterate]
  by_cases raw : (reply &&& voltmeterChannelReportRawValue != 0) = true
  · simp only [raw, if_true, Option.map_some]
  · by_cases odd : (reply &&& 1 != 0) = true
    · simp only [raw, odd, if_true, Bool.false_eq_true, if_false, Option.map_none]
    · simp [raw, odd]

/-- The two globals; `none` is NULL. -/
structure Arrays where
  callbacks : Option (List Callback)
  calibrations : Option (List UInt8)

/-- Both blocks allocated. -/
structure Tables where
  callbacks : List Callback
  calibrations : List UInt8
  deriving DecidableEq, Repr

namespace Tables

def arrays (t : Tables) : Arrays := ⟨some t.callbacks, some t.calibrations⟩

/-- What `calloc` returns: every binding NULL, every calibration zero. -/
def zeroed (count : Nat) : Tables := ⟨List.replicate count none, List.replicate count 0⟩

/-- Both blocks have the length `channel_count`. -/
def Sized (t : Tables) (count : Nat) : Prop :=
  t.callbacks.length = count ∧ t.calibrations.length = count

def callback (t : Tables) (channel : Nat) : Callback := t.callbacks.getD channel none

def calibration (t : Tables) (channel : Nat) : UInt8 := t.calibrations.getD channel 0

def setCallback (t : Tables) (channel : Nat) (callback : Callback) : Tables :=
  { t with callbacks := t.callbacks.set channel callback }

def setCalibration (t : Tables) (channel : Nat) (value : UInt8) : Tables :=
  { t with calibrations := t.calibrations.set channel value }

theorem zeroed_sized (count : Nat) : (zeroed count).Sized count := by simp [zeroed, Sized]

@[simp] theorem callback_zeroed (count channel : Nat) : (zeroed count).callback channel = none := by
  simp only [callback, zeroed, List.getD_eq_getElem?_getD, List.getElem?_replicate]
  split <;> rfl

@[simp] theorem setCallback_sized (t : Tables) (channel count : Nat) (callback : Callback) :
    (t.setCallback channel callback).Sized count ↔ t.Sized count := by
  simp [setCallback, Sized]

@[simp] theorem setCalibration_sized (t : Tables) (channel count : Nat) (value : UInt8) :
    (t.setCalibration channel value).Sized count ↔ t.Sized count := by
  simp [setCalibration, Sized]

@[simp] theorem calibration_setCallback (t : Tables) (channel other : Nat) (callback : Callback) :
    (t.setCallback channel callback).calibration other = t.calibration other := rfl

@[simp] theorem callback_setCalibration (t : Tables) (channel other : Nat) (value : UInt8) :
    (t.setCalibration channel value).callback other = t.callback other := rfl

theorem callback_setCallback_self {t : Tables} {count channel : Nat} (sized : t.Sized count)
    (below : channel < count) (callback : Callback) :
    (t.setCallback channel callback).callback channel = callback := by
  have inside : channel < t.callbacks.length := by rw [sized.1]; exact below
  simp [setCallback, Tables.callback, inside]

theorem callback_setCallback_ne (t : Tables) {channel other : Nat} (different : other ≠ channel)
    (callback : Callback) :
    (t.setCallback channel callback).callback other = t.callback other := by
  simp [setCallback, Tables.callback, List.getElem?_set_ne (Ne.symm different)]

theorem calibration_setCalibration_self {t : Tables} {count channel : Nat} (sized : t.Sized count)
    (below : channel < count) (value : UInt8) :
    (t.setCalibration channel value).calibration channel = value := by
  have inside : channel < t.calibrations.length := by rw [sized.2]; exact below
  simp [setCalibration, Tables.calibration, inside]

theorem calibration_setCalibration_ne (t : Tables) {channel other : Nat}
    (different : other ≠ channel)
    (value : UInt8) : (t.setCalibration channel value).calibration other = t.calibration other := by
  simp [setCalibration, Tables.calibration, List.getElem?_set_ne (Ne.symm different)]

/-- Arrays of the same length with the same entries. -/
theorem eq_of_entries {t t' : Tables} {count : Nat} (sized : t.Sized count)
    (sized' : t'.Sized count)
    (entries : ∀ i < count, t.callback i = t'.callback i ∧ t.calibration i = t'.calibration i) :
    t = t' := by
  obtain ⟨callbacks, calibrations⟩ := t
  obtain ⟨callbacks', calibrations'⟩ := t'
  have one : callbacks = callbacks' :=
    List.ext_getElem (sized.1.trans sized'.1.symm) fun i here there => by
    have same := (entries i (sized.1 ▸ here)).1
    simpa [Tables.callback, here, there] using same
  have two : calibrations = calibrations' :=
    List.ext_getElem (sized.2.trans sized'.2.symm) fun i here there => by
    have same := (entries i (sized.2 ▸ here)).2
    simpa [Tables.calibration, here, there] using same
  rw [one, two]

/-! Entries of different channels are set in either order. -/

theorem setCallback_comm (t : Tables) {channel other : Nat} (different : channel ≠ other)
    (first second : Callback) :
    (t.setCallback channel first).setCallback other second =
      (t.setCallback other second).setCallback channel first := by
  simp only [setCallback, List.set_comm first second different]

theorem setCalibration_comm (t : Tables) {channel other : Nat} (different : channel ≠ other)
    (first second : UInt8) :
    (t.setCalibration channel first).setCalibration other second =
      (t.setCalibration other second).setCalibration channel first := by
  simp only [setCalibration, List.set_comm first second different]

/-- An entry below the count is set without a change exactly to what it is. -/
theorem setCallback_eq_self_iff {t : Tables} {count channel : Nat} (sized : t.Sized count)
    (below : channel < count) (callback : Callback) :
    t.setCallback channel callback = t ↔ t.callback channel = callback := by
  constructor
  · intro same
    rw [← callback_setCallback_self sized below callback, same]
  · intro here
    have inside : channel < t.callbacks.length := by rw [sized.1]; exact below
    subst here
    simp [setCallback, Tables.callback, inside]

theorem setCalibration_eq_self_iff {t : Tables} {count channel : Nat} (sized : t.Sized count)
    (below : channel < count) (value : UInt8) :
    t.setCalibration channel value = t ↔ t.calibration channel = value := by
  constructor
  · intro same
    rw [← calibration_setCalibration_self sized below value, same]
  · intro here
    have inside : channel < t.calibrations.length := by rw [sized.2]; exact below
    subst here
    simp [setCalibration, Tables.calibration, inside]

end Tables

/-- The binding loop of `initialize_data_source_binding` from index `i`; it stops at
the first call that does not return success. -/
def bindLoop {S : Type} (getBound : Nat → S → S × Outcome) : (remaining i : Nat) → S → S × Outcome
  | 0, _, s => (s, .returned .success)
  | remaining + 1, i, s =>
    match getBound i s with
    | (s', .returned .success) => bindLoop getBound remaining (i + 1) s'
    | (s', outcome) => (s', outcome)

inductive Initialized (S : Type) where
  | unallocated (arrays : Arrays)
  | bound (state : S) (outcome : Outcome)

/-- `initialize_data_source_binding`: the outcomes of the two `calloc` calls come
first; `start` enters the reader's state with the zeroed blocks. -/
def initializeDataSourceBinding {S : Type} (callbacksAllocated calibrationsAllocated : Bool)
    (totalChannelCount : Nat) (start : Tables → S) (getBound : Nat → S → S × Outcome) :
    Initialized S :=
  let zeroed := Tables.zeroed totalChannelCount
  if callbacksAllocated && calibrationsAllocated then
    let result := bindLoop getBound totalChannelCount 0 (start zeroed)
    .bound result.1 result.2
  else
    .unallocated
      ⟨if callbacksAllocated then some zeroed.callbacks else none,
        if calibrationsAllocated then some zeroed.calibrations else none⟩

section bindLoop
variable {S : Type} {getBound : Nat → S → S × Outcome} {P : Nat → S → Prop} {count : Nat}

/-- What one successful call establishes for its channel holds of all channels once
the loop returns success. -/
theorem bindLoop_success
    (keeps : ∀ i s s', i < count → P i s → getBound i s = (s', .returned .success) → P (i + 1) s')
    {remaining i : Nat} {s final : S} (here : i + remaining = count) (start : P i s)
    (success : bindLoop getBound remaining i s = (final, .returned .success)) : P count final := by
  induction remaining generalizing i s with
  | zero =>
    simp only [bindLoop, Prod.mk.injEq, and_true] at success
    subst success
    simpa [← here] using start
  | succ remaining ih =>
    unfold bindLoop at success
    split at success
    · rename_i s' called
      exact ih (by omega) (keeps i s s' (by omega) start called) success
    · rename_i s' outcome notSuccess called
      rw [Prod.mk.injEq] at success
      exact absurd success.2 notSuccess

/-- A loop whose calls all succeed succeeds. -/
theorem bindLoop_total
    (succeeds : ∀ i s, i < count → P i s →
      ∃ s', getBound i s = (s', .returned .success) ∧ P (i + 1) s')
    {remaining i : Nat} {s : S} (here : i + remaining = count) (start : P i s) :
    ∃ final, bindLoop getBound remaining i s = (final, .returned .success) ∧ P count final := by
  induction remaining generalizing i s with
  | zero => exact ⟨s, rfl, by simpa [← here] using start⟩
  | succ remaining ih =>
    obtain ⟨s', called, next⟩ := succeeds i s (by omega) start
    simp only [bindLoop, called]
    exact ih (by omega) next

/-- The first call that does not succeed ends the loop with its outcome. -/
theorem bindLoop_stops {last : Nat} {outcome : Outcome} (below : last < count)
    (succeeds : ∀ i s, i < last → P i s →
      ∃ s', getBound i s = (s', .returned .success) ∧ P (i + 1) s')
    (stops : ∀ s, P last s → (getBound last s).2 = outcome) (failure : outcome ≠ .returned .success)
    {remaining i : Nat} {s : S} (here : i + remaining = count) (before : i ≤ last) (start : P i s) :
    (bindLoop getBound remaining i s).2 = outcome := by
  induction remaining generalizing i s with
  | zero => omega
  | succ remaining ih =>
    unfold bindLoop
    by_cases reached : i = last
    · subst reached
      have ended := stops s start
      split
      next s' called =>
        rw [called] at ended
        exact absurd ended.symm failure
      next s' other _ called =>
        rw [called] at ended
        exact ended
    · obtain ⟨s', called, next⟩ := succeeds i s (by omega) start
      rw [called]
      exact ih (by omega) (by omega) next

/-- A call that does not succeed ends the loop where it is. -/
theorem bindLoop_ended {remaining i : Nat} {s s' : S} {outcome : Outcome}
    (called : getBound i s = (s', outcome))
    (failure : outcome ≠ .returned .success) :
    bindLoop getBound (remaining + 1) i s = (s', outcome) := by
  unfold bindLoop
  rw [called]
  split
  next same =>
    rw [Prod.mk.injEq] at same
    exact absurd same.2 failure
  next same => exact same.symm

/-- A loop that another one simulates call by call, with what its calls leave. -/
theorem bindLoop_simulates {T : Type} {getBound' : Nat → T → T × Outcome} {view : S → T}
    {Q : S → Prop} (calls : ∀ i s, i < count → P i s →
      getBound' i (view s) = (view (getBound i s).1, (getBound i s).2) ∧ Q (getBound i s).1 ∧
        ((getBound i s).2 = .returned .success → P (i + 1) (getBound i s).1))
    {remaining i : Nat} {s : S} (here : i + remaining = count) (start : P i s) :
    bindLoop getBound' remaining i (view s) =
        (view (bindLoop getBound remaining i s).1, (bindLoop getBound remaining i s).2) ∧
      (0 < remaining → Q (bindLoop getBound remaining i s).1) := by
  induction remaining generalizing i s with
  | zero => exact ⟨rfl, fun negative => absurd negative (Nat.lt_irrefl 0)⟩
  | succ remaining ih =>
    obtain ⟨simulated, left, next⟩ := calls i s (by omega) start
    cases called : getBound i s with
    | mk s' outcome =>
      rw [called] at simulated left next
      by_cases success : outcome = .returned .success
      · subst success
        obtain ⟨same, rest⟩ := ih (i := i + 1) (s := s') (by omega) (next rfl)
        simp only [bindLoop, simulated, called]
        refine ⟨same, fun _ => ?_⟩
        cases remaining with
        | zero => exact left
        | succ more => exact rest (Nat.succ_pos more)
      · rw [bindLoop_ended simulated success, bindLoop_ended called success]
        exact ⟨rfl, fun _ => left⟩

/-- What a call leaves that is made after successful ones only, the loop leaves, however it
ends. -/
theorem bindLoop_leaves {Q : S → Prop}
    (calls : ∀ i s, i < count → P i s →
      Q (getBound i s).1 ∧ ((getBound i s).2 = .returned .success → P (i + 1) (getBound i s).1))
    (through : ∀ s, P count s → Q s) {remaining i : Nat} {s : S} (here : i + remaining = count)
    (start : P i s) : Q (bindLoop getBound remaining i s).1 := by
  induction remaining generalizing i s with
  | zero =>
    have last : i = count := by omega
    exact through s (last ▸ start)
  | succ remaining ih =>
    obtain ⟨left, next⟩ := calls i s (by omega) start
    unfold bindLoop
    split
    next s' called =>
      rw [called] at next
      exact ih (by omega) (next rfl)
    next s' outcome _ called =>
      rw [called] at left
      exact left

/-- What every call keeps, the loop keeps, however it ends. -/
theorem bindLoop_keeps {I : S → Prop} (keeps : ∀ i s, i < count → I s → I (getBound i s).1)
    {remaining i : Nat} {s : S} (here : i + remaining = count) (start : I s) :
    I (bindLoop getBound remaining i s).1 := by
  induction remaining generalizing i s with
  | zero => exact start
  | succ remaining ih =>
    have next := keeps i s (by omega) start
    unfold bindLoop
    split
    next s' called =>
      rw [called] at next
      exact ih (by omega) next
    next s' outcome _ called =>
      rw [called] at next
      exact next

end bindLoop

/-- `WValue` and command of one control transfer. -/
structure ControlTransfer where
  command : HostOperationCommand
  value : UInt16
  deriving DecidableEq, Repr

def sendUsage (channel calibratedValue : UInt8) : ControlTransfer where
  command := .setUsage
  value := (channel.toUInt16 <<< 8) ||| calibratedValue.toUInt16

/-- High byte of the value: the addressed channel. -/
def ControlTransfer.channel (t : ControlTransfer) : UInt8 := (t.value >>> 8).toUInt8

/-- Low byte of the value: the level sent. -/
def ControlTransfer.level (t : ControlTransfer) : UInt8 := t.value.toUInt8

/-- `(uint8_t)((((uint32_t)value) * calibration) >> 8)`. -/
def calibrated (value calibration : UInt8) : UInt8 :=
  ((value.toUInt32 * calibration.toUInt32) >>> 8).toUInt8

/-- What a tick meets while the loop is at index `i`. -/
structure TickEnv where
  os : Nat → OsReadings
  transfer : Nat → Status

structure Tick where
  transfers : List ControlTransfer
  lastTimes : SystemTimes
  outcome : Outcome

/-- One indexed read through a possibly NULL pointer. -/
def load {α : Type} (block : Option (List α)) (i : Nat) : Option α := block.bind (·[i]?)

/-- The loop of `main_loop_callback` from index `i`. -/
def mainLoopFrom (env : TickEnv) (arrays : Arrays) :
    (remaining i : Nat) → SystemTimes → Tick
  | 0, _, last => ⟨[], last, .returned .success⟩
  | remaining + 1, i, last =>
    match load arrays.callbacks i with
    | none => ⟨[], last, .fault .outOfBounds⟩
    | some none => mainLoopFrom env arrays remaining (i + 1) last
    | some (some source) =>
      let reading := source.read last (env.os i)
      match load arrays.calibrations i with
      | none => ⟨[], reading.2, .fault .outOfBounds⟩
      | some calibration =>
        let sent := sendUsage (UInt8.ofNat i) (calibrated reading.1 calibration)
        if env.transfer i = .success then
          let rest := mainLoopFrom env arrays remaining (i + 1) reading.2
          { rest with transfers := sent :: rest.transfers }
        else
          ⟨[sent], reading.2, .returned (env.transfer i)⟩

def mainLoopCallback (env : TickEnv) (channelCount : UInt8) (arrays : Arrays)
    (last : SystemTimes) : Tick :=
  mainLoopFrom env arrays channelCount.toNat 0 last

end PerformancePanel.Source.Collector

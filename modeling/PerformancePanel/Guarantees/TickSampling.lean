import PerformancePanel.Source.Tick

/-!
# What one tick samples

Every call of the CPU source overwrites the counters the next call is measured against.
Inside one tick two CPU-bound channels therefore measure different intervals, and binding
the CPU source to a lower channel changes the interval of a higher one. A bound channel whose
transfer fails keeps the tick from every channel behind it. The two relations hold under every
behaviour of the OS exactly when no such interference can be seen: a level with calibration 0
or 1 is always zero.
-/
set_option autoImplicit false

namespace PerformancePanel.Guarantees.TickSampling
open Source.Common Source.DataSources Source.Collector Source.Tick

/-! ## The relations -/

structure NotAfter (earlier later : SystemTimes) : Prop where
  idle : earlier.idle.value ≤ later.idle.value
  kernel : earlier.kernel.value ≤ later.kernel.value
  user : earlier.user.value ≤ later.user.value

/-- What the OS does during one tick. `GetSystemTimes` succeeds at the `answered` loop
positions and its counters never decrease, from the last sample of an earlier tick on; if
`steady`, the other readings are the same at every position. A transfer succeeds exactly at
the positions that `passes` has. -/
structure OsBehaviour (steady : Bool) (answered passes : Nat → Bool) (last : SystemTimes)
    (env : TickEnv) : Prop where
  calls : ∀ i, (env.os i).systemTimes.isSome = answered i
  fromLast : ∀ i now, (env.os i).systemTimes = some now → NotAfter last now
  growing : ∀ i j now later, i ≤ j → (env.os i).systemTimes = some now →
    (env.os j).systemTimes = some later → NotAfter now later
  steadily : steady = true → ∀ i j, (env.os i).memoryLoad = (env.os j).memoryLoad ∧
    (env.os i).gpuPercentage = (env.os j).gpuPercentage ∧
    (env.os i).gpuTemperature = (env.os j).gpuTemperature
  transfers : ∀ i, env.transfer i = .success ↔ passes i = true

/-- The packets one tick sends to a channel: its own one, or none. -/
def sentTo (channelCount : UInt8) (t : Tables) (last : SystemTimes) (env : TickEnv)
    (channel : Nat) : List ControlTransfer :=
  toChannel channel (mainLoopCallback env channelCount t.arrays last).transfers

/-- Channels with one source and one calibration are sent one level, or both none. -/
def EqualLevels (channelCount : UInt8) (t : Tables) (last : SystemTimes) (env : TickEnv) : Prop :=
  ∀ i < channelCount.toNat, ∀ j < channelCount.toNat, t.callback i = t.callback j →
    t.calibration i = t.calibration j →
    (sentTo channelCount t last env i).map ControlTransfer.level =
      (sentTo channelCount t last env j).map ControlTransfer.level

/-- Two binding vectors send channel `c` one packet, or both none. -/
def SamePacket (channelCount : UInt8) (t t' : Tables) (c : Nat) (last : SystemTimes)
    (env : TickEnv) : Prop :=
  sentTo channelCount t last env c = sentTo channelCount t' last env c

/-- The tick arrives at a channel: the transfer of every bound channel below it succeeds. -/
def Reached (passes : Nat → Bool) (t : Tables) (channel : Nat) : Prop :=
  ∀ k < channel, t.callback k ≠ none → passes k = true

/-- A source returns one byte at positions `i` and `j`, whatever the OS does. -/
def SameReading (steady : Bool) (answered : Nat → Bool) (i j : Nat) : DataSource → Prop
  | .calibration => True
  | .cpuUtility => answered i = false ∧ answered j = false
  | .nvidiaGpuUtility => steady = true
  | .nvidiaGpuTemperature => steady = true
  | .ramUtility => steady = true

/-- Two channels with one source and one calibration are both reached or neither, and show
one reading if any can be seen. -/
def DistinctSamples (steady : Bool) (answered passes : Nat → Bool) (channelCount : UInt8)
    (t : Tables) : Prop :=
  ∀ i j source, i < channelCount.toNat → j < channelCount.toNat → i ≠ j →
    t.callback i = some source → t.callback j = some source →
    t.calibration i = t.calibration j →
    (Reached passes t i ↔ Reached passes t j) ∧
      (Reached passes t i → 2 ≤ (t.calibration i).toNat → SameReading steady answered i j source)

/-- The last CPU-bound channel below `c` whose `GetSystemTimes` succeeds, plus one. -/
def lastSample (answered : Nat → Bool) (t : Tables) : Nat → Nat
  | 0 => 0
  | c + 1 =>
    if t.callback c = some .cpuUtility ∧ answered c = true then c + 1 else lastSample answered t c

/-- A visible CPU reading of `c` is measured against the same sample in both vectors. -/
def SameLastSample (answered : Nat → Bool) (t t' : Tables) (c : Nat) : Prop :=
  t.callback c = some .cpuUtility → 2 ≤ (t.calibration c).toNat → answered c = true →
    lastSample answered t c = lastSample answered t' c

/-- If `c` is bound, both vectors reach it or neither, and then with the same sample. -/
def SameShown (answered passes : Nat → Bool) (t t' : Tables) (c : Nat) : Prop :=
  t.callback c ≠ none → (Reached passes t c ↔ Reached passes t' c) ∧
    (Reached passes t c → SameLastSample answered t t' c)

variable {steady : Bool} {answered passes : Nat → Bool} {channelCount : UInt8} {t t' : Tables}
  {last : SystemTimes} {env : TickEnv}

/-! ## The counters a reading is measured against -/

def sampleOf (env : TickEnv) (last : SystemTimes) : Nat → SystemTimes
  | 0 => last
  | k + 1 => ((env.os k).systemTimes).getD last

theorem lastSample_le (answered : Nat → Bool) (t : Tables) (c : Nat) :
    lastSample answered t c ≤ c := by
  induction c with
  | zero => exact le_rfl
  | succ c ih =>
    unfold lastSample
    split
    · exact le_rfl
    · omega

/-- A sample below `c` was taken by an answered call. -/
theorem lastSample_answered {c k : Nat} (h : lastSample answered t c = k + 1) :
    answered k = true := by
  induction c with
  | zero => cases h
  | succ c ih =>
    unfold lastSample at h
    split at h
    next sampled =>
      rw [Nat.succ.injEq] at h
      subst h
      exact sampled.2
    next => exact ih h

/-- `last_*_time` when the loop arrives at `c` is the last sample below it. -/
theorem countersBefore_eq (calls : ∀ i, (env.os i).systemTimes.isSome = answered i) (c : Nat) :
    countersBefore env t last c = sampleOf env last (lastSample answered t c) := by
  induction c with
  | zero => rfl
  | succ c ih =>
    unfold countersBefore lastSample
    cases bound : t.callback c with
    | none => simpa using ih
    | some source =>
      by_cases cpu : source = .cpuUtility
      · subst cpu
        cases sample : (env.os c).systemTimes with
        | none =>
          have unanswered : answered c = false := by rw [← calls c, sample]; rfl
          simpa [DataSource.read, dataSourceCpuUtility, sample, unanswered] using ih
        | some now =>
          have isAnswered : answered c = true := by rw [← calls c, sample]; rfl
          rw [if_pos ⟨rfl, isAnswered⟩]
          simp [cpu_read_counters sample, sampleOf, sample]
      · have other : ¬ (some source = some DataSource.cpuUtility ∧ answered c = true) :=
          fun both => cpu (Option.some.inj both.1)
        rw [if_neg other]
        simpa [read_keeps_counters cpu] using ih

theorem readingFor_unanswered (calls : ∀ i, (env.os i).systemTimes.isSome = answered i) {c : Nat}
    (unanswered : answered c = false) : readingFor env t last .cpuUtility c = 0 := by
  have noSample : (env.os c).systemTimes = none := by
    have failed := calls c
    rw [unanswered] at failed
    exact Option.isSome_eq_false_iff.mp failed |> Option.isNone_iff_eq_none.mp
  simp [readingFor, DataSource.read, dataSourceCpuUtility, noSample]

/-! ## Levels -/

/-- A calibration of 0 or 1 shows nothing. -/
theorem level_zero {calibration : UInt8} (small : ¬ 2 ≤ calibration.toNat) (value : UInt8) :
    calibrated value calibration = 0 := by
  apply UInt8.toNat.inj
  have bound := value.toNat_lt
  have product : value.toNat * calibration.toNat < 256 := by
    have least : calibration.toNat = 0 ∨ calibration.toNat = 1 := by omega
    rcases least with zero | one
    · rw [zero]
      omega
    · rw [one]
      omega
  rw [calibrated_toNat, Nat.div_eq_of_lt product]
  rfl

theorem level_dark (calibration : UInt8) : calibrated 0 calibration = 0 := by
  apply UInt8.toNat.inj
  rw [calibrated_toNat]
  simp

theorem level_bright {value calibration : UInt8} (bright : 128 ≤ value.toNat)
    (visible : 2 ≤ calibration.toNat) : calibrated value calibration ≠ 0 := by
  intro dark
  have level := calibrated_toNat value calibration
  rw [dark] at level
  have product : 128 * 2 ≤ value.toNat * calibration.toNat := Nat.mul_le_mul bright visible
  have zero : value.toNat * calibration.toNat / 256 = 0 := level.symm
  omega

section sent
variable (sized : t.Sized channelCount.toNat) (os : OsBehaviour steady answered passes last env)
  {channel : Nat} (below : channel < channelCount.toNat)
include sized os below

open Classical in
/-- A channel is sent the packet of its source exactly if the tick arrives at it. -/
theorem sentTo_eq : sentTo channelCount t last env channel =
    if Reached passes t channel then
      ((t.callback channel).map fun source => packetFor env t last source channel).toList
    else [] := by
  have arrives : Arrives env t channel ↔ Reached passes t channel :=
    forall_congr' fun c => forall_congr' fun _ => forall_congr' fun _ => os.transfers c
  rw [sentTo, transfers_toReached sized below]
  exact if_congr arrives rfl rfl

theorem sentTo_reached (reached : Reached passes t channel) {source : DataSource}
    (bound : t.callback channel = some source) :
    sentTo channelCount t last env channel = [packetFor env t last source channel] := by
  rw [sentTo_eq sized os below, if_pos reached, bound]
  rfl

theorem sentTo_unreached (unreached : ¬ Reached passes t channel) :
    sentTo channelCount t last env channel = [] := by
  rw [sentTo_eq sized os below, if_neg unreached]

theorem sentTo_unbound (unbound : t.callback channel = none) :
    sentTo channelCount t last env channel = [] := by
  rw [sentTo_eq sized os below, unbound]
  exact ite_self []

/-- Whether anything is sent to a bound channel tells whether it is reached. -/
theorem sentTo_nil_iff (bound : t.callback channel ≠ none) :
    sentTo channelCount t last env channel = [] ↔ ¬ Reached passes t channel := by
  obtain ⟨source, callback⟩ := Option.ne_none_iff_exists'.mp bound
  constructor
  · intro nothing reached
    rw [sentTo_reached sized os below reached callback] at nothing
    cases nothing
  · exact sentTo_unreached sized os below

end sent

/-! ## The conditions are enough -/

theorem same_readings (os : OsBehaviour steady answered passes last env) {source : DataSource}
    {i j : Nat} (same : SameReading steady answered i j source) :
    readingFor env t last source i = readingFor env t last source j := by
  cases source with
  | calibration => rfl
  | cpuUtility => rw [readingFor_unanswered os.calls same.1, readingFor_unanswered os.calls same.2]
  | nvidiaGpuUtility =>
    have percentage := (os.steadily same i j).2.1
    simp [readingFor, DataSource.read, dataSourceNvidiaGpuUtility, percentage]
  | nvidiaGpuTemperature =>
    have temperature := (os.steadily same i j).2.2
    simp [readingFor, DataSource.read, dataSourceNvidiaGpuTemperature, temperature]
  | ramUtility =>
    have load := (os.steadily same i j).1
    simp [readingFor, DataSource.read, dataSourceRamUtility, load]

theorem equalLevels_of_distinct (sized : t.Sized channelCount.toNat)
    (distinct : DistinctSamples steady answered passes channelCount t)
    (os : OsBehaviour steady answered passes last env) : EqualLevels channelCount t last env := by
  intro i belowI j belowJ sameCallback sameCalibration
  by_cases one : i = j
  · rw [one]
  cases boundI : t.callback i with
  | none => rw [sentTo_unbound sized os belowI boundI,
      sentTo_unbound sized os belowJ (sameCallback ▸ boundI)]
  | some source =>
    have boundJ : t.callback j = some source := sameCallback ▸ boundI
    obtain ⟨together, same⟩ := distinct i j source belowI belowJ one boundI boundJ sameCalibration
    by_cases reachedI : Reached passes t i
    · rw [sentTo_reached sized os belowI reachedI boundI,
        sentTo_reached sized os belowJ (together.mp reachedI) boundJ, List.map_singleton,
        List.map_singleton, packetFor_level, packetFor_level, ← sameCalibration]
      by_cases visible : 2 ≤ (t.calibration i).toNat
      · rw [same_readings os (same reachedI visible)]
      · rw [level_zero visible, level_zero visible]
    · have unreachedJ : ¬ Reached passes t j := fun reachedJ => reachedI (together.mpr reachedJ)
      rw [sentTo_unreached sized os belowI reachedI, sentTo_unreached sized os belowJ unreachedJ]

/-- What a bound channel reads depends on the other bindings through the counters only. -/
theorem reading_of_lastSample (os : OsBehaviour steady answered passes last env)
    {source : DataSource} {c : Nat}
    (bound : t.callback c = some source) (visible : 2 ≤ (t.calibration c).toNat)
    (same : SameLastSample answered t t' c) :
    readingFor env t last source c = readingFor env t' last source c := by
  by_cases cpu : source = .cpuUtility
  · subst cpu
    cases isAnswered : answered c with
    | false => rw [readingFor_unanswered os.calls isAnswered,
        readingFor_unanswered os.calls isAnswered]
    | true =>
      unfold readingFor
      rw [countersBefore_eq os.calls, countersBefore_eq os.calls, same bound visible isAnswered]
  · exact read_ignores_counters cpu _ _ _

theorem samePacket_of_shown (sized : t.Sized channelCount.toNat)
    (sized' : t'.Sized channelCount.toNat) {c : Nat} (below : c < channelCount.toNat)
    (sameCallback : t.callback c = t'.callback c)
    (sameCalibration : t.calibration c = t'.calibration c)
    (shown : SameShown answered passes t t' c) (os : OsBehaviour steady answered passes last env) :
    SamePacket channelCount t t' c last env := by
  unfold SamePacket
  cases bound : t.callback c with
  | none => rw [sentTo_unbound sized os below bound,
      sentTo_unbound sized' os below (sameCallback ▸ bound)]
  | some source =>
    have bound' : t'.callback c = some source := sameCallback ▸ bound
    obtain ⟨together, same⟩ := shown (bound ▸ Option.some_ne_none source)
    by_cases reached : Reached passes t c
    · rw [sentTo_reached sized os below reached bound,
        sentTo_reached sized' os below (together.mp reached) bound', packetFor, packetFor,
        ← sameCalibration]
      by_cases visible : 2 ≤ (t.calibration c).toNat
      · rw [reading_of_lastSample os bound visible (same reached)]
      · rw [level_zero visible, level_zero visible]
    · have unreached' : ¬ Reached passes t' c := fun reached' => reached (together.mpr reached')
      rw [sentTo_unreached sized os below reached, sentTo_unreached sized' os below unreached']

/-! ## A surge of the counters -/

/-- Idle time passes evenly; from stamp `rise + 1` on a busy second has been added. -/
def stamp (rise n : Nat) : SystemTimes where
  idle := ⟨UInt32.ofNat n, 0⟩
  kernel := ⟨UInt32.ofNat (n + if rise < n then 10000000 else 0), 0⟩
  user := ⟨0, 0⟩

/-- Position `k` samples stamp `k + 1`; unless steady, the other readings rise with the
counters. -/
def surge (steady : Bool) (answered passes : Nat → Bool) (rise : Nat) : TickEnv where
  os k :=
    let high := !steady && decide (rise ≤ k)
    { systemTimes := if answered k then some (stamp rise (min k 255 + 1)) else none
      memoryLoad := some (if high then 90 else 0)
      gpuPercentage := some (if high then 90 else 0)
      gpuTemperature := some (if high then 90 else 0)
      undefinedConversion := 0 }
  transfer k := if passes k then .success else .deviceConfigurationFailed

theorem fileTime_value {n : Nat} (small : n < 2 ^ 32) :
    (FileTime.mk (UInt32.ofNat n) 0).value.toNat = n := by
  simp [FileTime.value, UInt32.toNat_ofNat_of_lt' small]

theorem stamp_idle {rise n : Nat} (small : n ≤ 256) : (stamp rise n).idle.value.toNat = n :=
  fileTime_value (by omega)

theorem stamp_kernel {rise n : Nat} (small : n ≤ 256) :
    (stamp rise n).kernel.value.toNat = n + if rise < n then 10000000 else 0 :=
  fileTime_value (by split <;> omega)

theorem stamp_notAfter (rise : Nat) {a b : Nat} (le : a ≤ b) (small : b ≤ 256) :
    NotAfter (stamp rise a) (stamp rise b) := by
  refine ⟨?_, ?_, UInt64.le_refl _⟩
  · rw [UInt64.le_iff_toNat_le, stamp_idle (by omega), stamp_idle small]
    exact le
  · rw [UInt64.le_iff_toNat_le, stamp_kernel (by omega), stamp_kernel small]
    split <;> split <;> omega

theorem stamp_zero (rise : Nat) : stamp rise 0 = SystemTimes.zero := by
  simp [stamp, SystemTimes.zero]

theorem surge_behaviour (steady : Bool) (answered passes : Nat → Bool) (rise : Nat) :
    OsBehaviour steady answered passes SystemTimes.zero (surge steady answered passes rise) := by
  have sampled {k : Nat} {now : SystemTimes}
      (h : ((surge steady answered passes rise).os k).systemTimes = some now) :
      now = stamp rise (min k 255 + 1) := by
    simp only [surge, Option.ite_none_right_eq_some, Option.some.injEq] at h
    exact h.2.symm
  refine ⟨?_, ?_, ?_, ?_, ?_⟩
  · intro i
    cases isAnswered : answered i <;> simp [surge, isAnswered]
  · intro i now h
    rw [sampled h, ← stamp_zero rise]
    exact stamp_notAfter rise (Nat.zero_le _) (by omega)
  · intro i j now later le h h'
    rw [sampled h, sampled h']
    exact stamp_notAfter rise (by omega) (by omega)
  · intro isSteady i j
    simp [surge, isSteady]
  · intro i
    cases through : passes i <;> simp [surge, through]

/-- A reading is high exactly when the busy second falls between its two samples. -/
theorem stamp_reading {rise a b : Nat} (later : a < b) (small : b ≤ 256) {os : OsReadings}
    (sample : os.systemTimes = some (stamp rise b)) :
    (dataSourceCpuUtility (stamp rise a) os).1 = if a ≤ rise ∧ rise < b then 254 else 0 := by
  have idle : (calculateDelta (stamp rise a).idle (stamp rise b).idle).toNat = b - a := by
    unfold calculateDelta
    have le : (stamp rise a).idle.value ≤ (stamp rise b).idle.value :=
      (stamp_notAfter rise later.le small).idle
    rw [UInt64.toNat_sub_of_le _ _ le, stamp_idle small, stamp_idle (by omega)]
  have kernel : (calculateDelta (stamp rise a).kernel (stamp rise b).kernel).toNat =
      (b - a) + if a ≤ rise ∧ rise < b then 10000000 else 0 := by
    unfold calculateDelta
    have le : (stamp rise a).kernel.value ≤ (stamp rise b).kernel.value :=
      (stamp_notAfter rise later.le small).kernel
    rw [UInt64.toNat_sub_of_le _ _ le, stamp_kernel small, stamp_kernel (by omega)]
    split <;> split <;> split <;> omega
  have user : calculateDelta (stamp rise a).user (stamp rise b).user = 0 := by
    simp [calculateDelta, stamp]
  simp only [dataSourceCpuUtility, sample, user, UInt64.add_zero]
  generalize calculateDelta (stamp rise a).idle (stamp rise b).idle = idleDelta at idle
  generalize calculateDelta (stamp rise a).kernel (stamp rise b).kernel = kernelDelta at kernel
  have busy : (kernelDelta - idleDelta).toNat = if a ≤ rise ∧ rise < b then 10000000 else 0 := by
    have le : idleDelta ≤ kernelDelta := by
      rw [UInt64.le_iff_toNat_le]
      omega
    rw [UInt64.toNat_sub_of_le _ _ le, kernel, idle]
    omega
  have nonzero : kernelDelta ≠ 0 := by
    intro zero
    rw [zero] at kernel
    have : (0 : UInt64).toNat = 0 := rfl
    omega
  rw [cpuQuotient, if_neg nonzero, busy, kernel]
  split
  · have quotient : 10000000 * 255 / (b - a + 10000000) = 254 := by
      apply Nat.div_eq_of_lt_le <;> omega
    rw [quotient]
    rfl
  · simp [ucharOfQuotient]

/-- The reading of an answered CPU-bound channel under a surge. -/
theorem surge_reading {rise k : Nat} (inside : k < 256) (isAnswered : answered k = true) :
    readingFor (surge steady answered passes rise) t SystemTimes.zero .cpuUtility k =
      if lastSample answered t k ≤ rise ∧ rise < k + 1 then 254 else 0 := by
  have sample : ((surge steady answered passes rise).os k).systemTimes =
    some (stamp rise (k + 1)) := by
    have position : min k 255 = k := by omega
    simp [surge, isAnswered, position]
  have before : sampleOf (surge steady answered passes rise) SystemTimes.zero
    (lastSample answered t k) =
      stamp rise (lastSample answered t k) := by
    cases earlier : lastSample answered t k with
    | zero => exact (stamp_zero rise).symm
    | succ m =>
      have below : lastSample answered t k ≤ k := lastSample_le answered t k
      have position : min m 255 = m := by omega
      simp [sampleOf, surge, lastSample_answered earlier, position]
  have later : lastSample answered t k < k + 1 := Nat.lt_succ_of_le (lastSample_le answered t k)
  unfold readingFor
  rw [countersBefore_eq (surge_behaviour steady answered passes rise).calls, before]
  exact stamp_reading later (by omega) sample

/-- The other sampling sources read 230 from the rise on and 0 before, unless steady. -/
theorem surge_other {source : DataSource} (sampling : source ≠ .calibration)
    (other : source ≠ .cpuUtility) (rise k : Nat) :
    readingFor (surge false answered passes rise) t SystemTimes.zero source k =
      if rise ≤ k then 230 else 0 := by
  cases source with
  | calibration => exact absurd rfl sampling
  | cpuUtility => exact absurd rfl other
  | nvidiaGpuUtility =>
    by_cases risen : rise ≤ k <;>
      simp [readingFor, DataSource.read, dataSourceNvidiaGpuUtility, surge, risen]
  | nvidiaGpuTemperature =>
    by_cases risen : rise ≤ k
    · simp only [readingFor, DataSource.read, dataSourceNvidiaGpuTemperature, surge, risen]
      rfl
    · simp only [readingFor, DataSource.read, dataSourceNvidiaGpuTemperature, surge, risen]
      rfl
  | ramUtility =>
    by_cases risen : rise ≤ k <;>
      simp [readingFor, DataSource.read, dataSourceRamUtility, surge, risen]

/-! ## The conditions are needed -/

/-- A dark and a bright channel of one source and calibration break the relation. -/
theorem not_equalLevels (sized : t.Sized channelCount.toNat) {rise i j : Nat} {source : DataSource}
    (belowI : i < channelCount.toNat) (belowJ : j < channelCount.toNat)
    (reachedI : Reached passes t i) (reachedJ : Reached passes t j)
    (boundI : t.callback i = some source) (boundJ : t.callback j = some source)
    (sameCalibration : t.calibration i = t.calibration j) (visible : 2 ≤ (t.calibration i).toNat)
    (dark : readingFor (surge steady answered passes rise) t SystemTimes.zero source i = 0)
    (bright : 128 ≤
      (readingFor (surge steady answered passes rise) t SystemTimes.zero source j).toNat) :
    ¬ EqualLevels channelCount t SystemTimes.zero (surge steady answered passes rise) := by
  intro equal
  have os := surge_behaviour steady answered passes rise
  have same := equal i belowI j belowJ (boundI.trans boundJ.symm) sameCalibration
  rw [sentTo_reached sized os belowI reachedI boundI,
    sentTo_reached sized os belowJ reachedJ boundJ,
    List.map_singleton, List.map_singleton, packetFor_level, packetFor_level, dark, level_dark,
    ← sameCalibration, List.singleton_inj] at same
  exact level_bright bright visible same.symm

/-- An answered CPU reading is bright when the surge comes at its own channel, and dark
when it comes later. -/
theorem surge_at {k : Nat} (inside : k < 256) (isAnswered : answered k = true) :
    128 ≤ (readingFor (surge steady answered passes k) t SystemTimes.zero .cpuUtility k).toNat := by
  rw [surge_reading inside isAnswered, if_pos ⟨lastSample_le answered t k, Nat.lt_succ_self k⟩]
  decide

theorem surge_later {rise k : Nat} (inside : k < 256) (later : k < rise) :
    readingFor (surge steady answered passes rise) t SystemTimes.zero .cpuUtility k = 0 := by
  cases isAnswered : answered k with
  | false =>
    exact readingFor_unanswered (surge_behaviour steady answered passes rise).calls isAnswered
  | true =>
    rw [surge_reading inside isAnswered, if_neg]
    omega

/-- Two channels with one source, the lower one first: a surge at the higher one, or at the
lower one when the higher call fails, tells them apart. -/
theorem distinct_of_equalLevels_lt (sized : t.Sized channelCount.toNat)
    (equal : ∀ last env, OsBehaviour steady answered passes last env →
      EqualLevels channelCount t last env)
    {i j : Nat} {source : DataSource} (lower : i < j) (belowJ : j < channelCount.toNat)
    (reachedI : Reached passes t i) (reachedJ : Reached passes t j)
    (boundI : t.callback i = some source) (boundJ : t.callback j = some source)
    (sameCalibration : t.calibration i = t.calibration j) (visible : 2 ≤ (t.calibration i).toNat) :
    SameReading steady answered i j source := by
  have count := channelCount.toNat_lt
  have belowI : i < channelCount.toNat := lt_trans lower belowJ
  have visibleJ : 2 ≤ (t.calibration j).toNat := by rw [← sameCalibration]; exact visible
  have surges (rise : Nat) := equal _ _ (surge_behaviour steady answered passes rise)
  have sampling (other : source ≠ .cpuUtility) (sampled : source ≠ .calibration) :
      steady = true := by
    by_contra unsteady
    rw [Bool.not_eq_true] at unsteady
    subst unsteady
    have dark : readingFor (surge false answered passes j) t SystemTimes.zero source i = 0 := by
      rw [surge_other sampled other, if_neg (by omega)]
    have bright :
        128 ≤ (readingFor (surge false answered passes j) t SystemTimes.zero source j).toNat := by
      rw [surge_other sampled other, if_pos le_rfl]
      decide
    exact not_equalLevels sized belowI belowJ reachedI reachedJ boundI boundJ
      sameCalibration visible dark bright (surges j)
  cases source with
  | calibration => trivial
  | nvidiaGpuUtility => exact sampling (by decide) (by decide)
  | nvidiaGpuTemperature => exact sampling (by decide) (by decide)
  | ramUtility => exact sampling (by decide) (by decide)
  | cpuUtility =>
    have unansweredJ : answered j = false := by
      by_contra isAnswered
      rw [Bool.not_eq_false] at isAnswered
      exact not_equalLevels sized belowI belowJ reachedI reachedJ boundI boundJ sameCalibration
        visible (surge_later (by omega) lower) (surge_at (by omega) isAnswered) (surges j)
    have unansweredI : answered i = false := by
      by_contra isAnswered
      rw [Bool.not_eq_false] at isAnswered
      have dark :
          readingFor (surge steady answered passes i) t SystemTimes.zero .cpuUtility j = 0 :=
        readingFor_unanswered (surge_behaviour steady answered passes i).calls unansweredJ
      exact not_equalLevels sized belowJ belowI reachedJ reachedI boundJ boundI sameCalibration.symm
        visibleJ dark (surge_at (by omega) isAnswered) (surges i)
    exact ⟨unansweredI, unansweredJ⟩

theorem SameReading.symm {i j : Nat} {source : DataSource}
    (same : SameReading steady answered i j source) :
    SameReading steady answered j i source := by
  cases source with
  | cpuUtility => exact ⟨same.2, same.1⟩
  | calibration => exact same
  | nvidiaGpuUtility => exact same
  | nvidiaGpuTemperature => exact same
  | ramUtility => exact same

/-- Channels that are sent one level are reached together. -/
theorem together_of_equalLevels (sized : t.Sized channelCount.toNat)
    (os : OsBehaviour steady answered passes last env) (equal : EqualLevels channelCount t last env)
    {i j : Nat} {source : DataSource} (belowI : i < channelCount.toNat)
    (belowJ : j < channelCount.toNat) (boundI : t.callback i = some source)
    (boundJ : t.callback j = some source) (sameCalibration : t.calibration i = t.calibration j) :
    Reached passes t i ↔ Reached passes t j := by
  have levels := equal i belowI j belowJ (boundI.trans boundJ.symm) sameCalibration
  have nothing : sentTo channelCount t last env i = [] ↔ sentTo channelCount t last env j = [] := by
    rw [← List.map_eq_nil_iff, levels, List.map_eq_nil_iff]
  rw [sentTo_nil_iff sized os belowI (boundI ▸ Option.some_ne_none source),
    sentTo_nil_iff sized os belowJ (boundJ ▸ Option.some_ne_none source)] at nothing
  exact not_iff_not.mp nothing

theorem distinct_of_equalLevels (sized : t.Sized channelCount.toNat)
    (equal : ∀ last env, OsBehaviour steady answered passes last env →
      EqualLevels channelCount t last env) :
    DistinctSamples steady answered passes channelCount t := by
  intro i j source belowI belowJ different boundI boundJ sameCalibration
  have behaviour := surge_behaviour steady answered passes 0
  have together := together_of_equalLevels sized behaviour (equal _ _ behaviour) belowI
    belowJ boundI boundJ sameCalibration
  refine ⟨together, fun reachedI visible => ?_⟩
  have reachedJ := together.mp reachedI
  rcases Nat.lt_or_gt_of_ne different with lower | higher
  · exact distinct_of_equalLevels_lt sized equal lower belowJ reachedI reachedJ boundI boundJ
      sameCalibration visible
  · have visibleJ : 2 ≤ (t.calibration j).toNat := by rw [← sameCalibration]; exact visible
    exact (distinct_of_equalLevels_lt sized equal higher belowI reachedJ reachedI boundJ boundI
      sameCalibration.symm visibleJ).symm

/-- When the last samples differ, a surge between them shows in one of the two ticks. -/
theorem lastSample_le_of_samePacket (sized : t.Sized channelCount.toNat)
    (sized' : t'.Sized channelCount.toNat) {c : Nat} (below : c < channelCount.toNat)
    (reached : Reached passes t c) (reached' : Reached passes t' c)
    (bound : t.callback c = some .cpuUtility) (bound' : t'.callback c = some .cpuUtility)
    (visible : 2 ≤ (t.calibration c).toNat) (isAnswered : answered c = true)
    (same : ∀ last env, OsBehaviour steady answered passes last env →
      SamePacket channelCount t t' c last env) :
    lastSample answered t' c ≤ lastSample answered t c := by
  by_contra earlier
  rw [Nat.not_le] at earlier
  have inside : c < 256 := lt_trans below channelCount.toNat_lt
  have last' := lastSample_le answered t' c
  let rise := lastSample answered t' c - 1
  have bright :
      readingFor (surge steady answered passes rise) t SystemTimes.zero .cpuUtility c = 254 := by
    rw [surge_reading inside isAnswered, if_pos]
    omega
  have dark :
      readingFor (surge steady answered passes rise) t' SystemTimes.zero .cpuUtility c = 0 := by
    rw [surge_reading inside isAnswered, if_neg]
    omega
  have os := surge_behaviour steady answered passes rise
  have packet := same _ _ os
  rw [SamePacket, sentTo_reached sized os below reached bound,
    sentTo_reached sized' os below reached' bound', List.singleton_inj] at packet
  have level := congrArg ControlTransfer.level packet
  rw [packetFor_level, packetFor_level, bright, dark, level_dark] at level
  exact level_bright (by decide) visible level

theorem shown_of_samePacket (sized : t.Sized channelCount.toNat)
    (sized' : t'.Sized channelCount.toNat) {c : Nat} (below : c < channelCount.toNat)
    (sameCallback : t.callback c = t'.callback c)
    (sameCalibration : t.calibration c = t'.calibration c)
    (same : ∀ last env, OsBehaviour steady answered passes last env →
      SamePacket channelCount t t' c last env) : SameShown answered passes t t' c := by
  intro isBound
  have os := surge_behaviour steady answered passes 0
  have together : Reached passes t c ↔ Reached passes t' c := by
    apply not_iff_not.mp
    rw [← sentTo_nil_iff sized os below isBound,
      ← sentTo_nil_iff sized' os below (sameCallback ▸ isBound), same _ _ os]
  refine ⟨together, fun reached bound visible isAnswered => ?_⟩
  have reached' := together.mp reached
  have bound' : t'.callback c = some .cpuUtility := by rw [← sameCallback]; exact bound
  have visible' : 2 ≤ (t'.calibration c).toNat := by rw [← sameCalibration]; exact visible
  have symmetric : ∀ last env, OsBehaviour steady answered passes last env →
      SamePacket channelCount t' t c last env := fun last env os => (same last env os).symm
  apply Nat.le_antisymm
  · exact lastSample_le_of_samePacket sized' sized below reached' reached bound' bound visible'
      isAnswered symmetric
  · exact lastSample_le_of_samePacket sized sized' below reached reached' bound bound' visible
      isAnswered same

/-- Under every behaviour of the OS and every pattern of failing transfers: channels with one
source and calibration are sent one level exactly when the tick reaches them together and no
two of them show two samples, and two binding vectors that agree on `c` send it one packet
exactly when both reach it or neither and its CPU reading is measured against the same sample. -/
theorem tick_samples_iff (steady : Bool) (answered passes : Nat → Bool)
    (sized : t.Sized channelCount.toNat) (sized' : t'.Sized channelCount.toNat) {c : Nat}
    (below : c < channelCount.toNat) (sameCallback : t.callback c = t'.callback c)
    (sameCalibration : t.calibration c = t'.calibration c) :
    ((∀ last env, OsBehaviour steady answered passes last env →
        EqualLevels channelCount t last env) ↔
      DistinctSamples steady answered passes channelCount t) ∧
    ((∀ last env, OsBehaviour steady answered passes last env →
        SamePacket channelCount t t' c last env) ↔
      SameShown answered passes t t' c) := by
  refine ⟨⟨distinct_of_equalLevels sized, ?_⟩, ⟨?_, ?_⟩⟩
  · exact fun distinct last env os => equalLevels_of_distinct sized distinct os
  · exact shown_of_samePacket sized sized' below sameCallback sameCalibration
  · exact fun shown last env os =>
      samePacket_of_shown sized sized' below sameCallback sameCalibration shown os

/-! ## Two channels -/

/-- Two channels with half-scale calibration. -/
def twoChannels (first second : Callback) : Tables := ⟨[first, second], [0x80, 0x80]⟩

theorem twoChannels_sized (first second : Callback) :
    (twoChannels first second).Sized (2 : UInt8).toNat := ⟨rfl, rfl⟩

/-- One CPU-bound channel beside one that shows the full scale: the relations hold, also
against a vector that binds the memory load to the second channel. -/
theorem tick_samples_oneCpu :
    (∀ last env, OsBehaviour false (fun _ => true) (fun _ => true) last env →
        EqualLevels 2 (twoChannels (some .cpuUtility) (some .calibration)) last env) ∧
      (∀ last env, OsBehaviour false (fun _ => true) (fun _ => true) last env →
        SamePacket 2 (twoChannels (some .cpuUtility) (some .calibration))
          (twoChannels (some .cpuUtility) (some .ramUtility)) 0 last env) := by
  have condition := tick_samples_iff false (fun _ => true) (fun _ => true)
    (twoChannels_sized (some .cpuUtility) (some .calibration))
    (twoChannels_sized (some .cpuUtility) (some .ramUtility)) (by decide : 0 < (2 : UInt8).toNat)
    rfl rfl
  have reached (t : Tables) (channel : Nat) : Reached (fun _ => true) t channel := fun _ _ _ => rfl
  refine ⟨condition.1.mpr ?_, condition.2.mpr fun _ => ?_⟩
  · intro i j source belowI belowJ different boundI boundJ _
    have cases (k : Nat) (below : k < 2) : k = 0 ∨ k = 1 := by omega
    rcases cases i belowI with rfl | rfl <;> rcases cases j belowJ with rfl | rfl
    · exact absurd rfl different
    · have same := boundI.trans boundJ.symm
      cases same
    · have same := boundI.trans boundJ.symm
      cases same
    · exact absurd rfl different
  · exact ⟨iff_of_true (reached _ _) (reached _ _), fun _ _ _ _ => rfl⟩

/-- Two CPU-bound channels are sent 0 and 127 in one tick when the busy second falls
between their samples; binding the first channel to the CPU source darkens the second. -/
theorem cpu_channels_interfere :
    ¬ (∀ last env, OsBehaviour true (fun _ => true) (fun _ => true) last env →
        EqualLevels 2 (twoChannels (some .cpuUtility) (some .cpuUtility)) last env) ∧
      ¬ (∀ last env, OsBehaviour true (fun _ => true) (fun _ => true) last env →
        SamePacket 2 (twoChannels (some .cpuUtility) (some .cpuUtility))
          (twoChannels none (some .cpuUtility)) 1 last env) := by
  refine ⟨fun equal => ?_, fun same => ?_⟩
  · have first : sentTo 2 (twoChannels (some .cpuUtility) (some .cpuUtility)) SystemTimes.zero
        (surge true (fun _ => true) (fun _ => true) 1) 0 = [sendUsage 0 0] := by decide
    have second : sentTo 2 (twoChannels (some .cpuUtility) (some .cpuUtility)) SystemTimes.zero
        (surge true (fun _ => true) (fun _ => true) 1) 1 = [sendUsage 1 127] := by decide
    have levels := equal _ _ (surge_behaviour true (fun _ => true) (fun _ => true) 1) 0
      (by decide) 1 (by decide) rfl rfl
    rw [first, second] at levels
    revert levels
    decide
  · have behind : sentTo 2 (twoChannels (some .cpuUtility) (some .cpuUtility)) SystemTimes.zero
        (surge true (fun _ => true) (fun _ => true) 0) 1 = [sendUsage 1 0] := by decide
    have alone : sentTo 2 (twoChannels none (some .cpuUtility)) SystemTimes.zero
        (surge true (fun _ => true) (fun _ => true) 0) 1 = [sendUsage 1 127] := by decide
    have packet := same _ _ (surge_behaviour true (fun _ => true) (fun _ => true) 0)
    rw [SamePacket, behind, alone] at packet
    revert packet
    decide

end PerformancePanel.Guarantees.TickSampling

import PerformancePanel.Library.Runs
import PerformancePanel.Source.DataSources

/-!
# CPU utilisation arithmetic

The static counters of `data_source_cpu_utility` are those of its last successful sample,
whatever calls failed in between, so each subtraction is the true difference. The divisor
is the sum of the kernel and user differences: it is zero when no counter advanced since
the last sample, and it wraps when both together advanced by 2^64. Every other call
returns the exact share of busy time.
-/
set_option autoImplicit false

namespace PerformancePanel.Guarantees.CpuUtility
open Source.Common Source.DataSources Library

/-- The 64-bit counter a `FILETIME` stands for. -/
def count (t : FileTime) : Nat := t.dwHighDateTime.toNat * 2 ^ 32 + t.dwLowDateTime.toNat

/-- A later sample: no counter decreased, and idle time grew within kernel time. -/
structure NotBefore (earlier later : SystemTimes) : Prop where
  idle : count earlier.idle ≤ count later.idle
  kernel : count earlier.kernel ≤ count later.kernel
  user : count earlier.user ≤ count later.user
  idleWithinKernel : count later.idle - count earlier.idle ≤
    count later.kernel - count earlier.kernel

/-- What `GetSystemTimes` does over a sequence of calls, some of which fail. -/
def Samples : SystemTimes → List OsReadings → Prop
  | _, [] => True
  | sample, os :: rest =>
    match os.systemTimes with
    | some now => NotBefore sample now ∧ Samples now rest
    | none => Samples sample rest

/-- The last sample a sequence of calls obtained; `sample` before the first one, where the
statics are zero. -/
def lastSuccessful (sample : SystemTimes) : List OsReadings → SystemTimes
  | [] => sample
  | os :: rest => lastSuccessful (os.systemTimes.getD sample) rest

/-- `last_idle_time`, `last_kernel_time` and `last_user_time` after one call. -/
def step (last : SystemTimes) (os : OsReadings) : SystemTimes := (dataSourceCpuUtility last os).2

/-- Kernel and user time since a sample. -/
def totalTime (sample now : SystemTimes) : Nat :=
  (count now.kernel - count sample.kernel) + (count now.user - count sample.user)

/-- The part of it that was not idle. -/
def busyTime (sample now : SystemTimes) : Nat :=
  totalTime sample now - (count now.idle - count sample.idle)

/-- A call with static counters `last` computes on the true differences since `sample`:
every subtraction, a divisor that is not zero, and the byte. -/
structure ReadsExactly (sample last : SystemTimes) (os : OsReadings) (now : SystemTimes) :
    Prop where
  idle : (calculateDelta last.idle now.idle).toNat = count now.idle - count sample.idle
  kernel : (calculateDelta last.kernel now.kernel).toNat = count now.kernel - count sample.kernel
  user : (calculateDelta last.user now.user).toNat = count now.user - count sample.user
  busy : (calculateDelta last.kernel now.kernel + calculateDelta last.user now.user -
    calculateDelta last.idle now.idle).toNat = busyTime sample now
  quotient : cpuQuotient
    (calculateDelta last.kernel now.kernel + calculateDelta last.user now.user -
      calculateDelta last.idle now.idle)
    (calculateDelta last.kernel now.kernel + calculateDelta last.user now.user) =
      some (255 * busyTime sample now / totalTime sample now)
  byte : (dataSourceCpuUtility last os).1.toNat = 255 * busyTime sample now / totalTime sample now

/-- Some kernel or user time passed since the sample, less than 2^64 units. -/
def Advances (sample now : SystemTimes) : Prop :=
  0 < totalTime sample now ∧ totalTime sample now < 2 ^ 64

/-! ## Counters and differences -/

theorem fileTime_value (t : FileTime) : t.value.toNat = count t := by
  have high := t.dwHighDateTime.toNat_lt
  have low : t.dwLowDateTime.toNat < 2 ^ 32 := t.dwLowDateTime.toNat_lt
  have fits : t.dwHighDateTime.toNat <<< 32 < 2 ^ 64 := by
    rw [Nat.shiftLeft_eq]
    omega
  simp only [FileTime.value, UInt64.toNat_or, UInt64.toNat_shiftLeft, UInt32.toNat_toUInt64]
  show t.dwHighDateTime.toNat <<< 32 % 2 ^ 64 ||| t.dwLowDateTime.toNat = _
  rw [Nat.mod_eq_of_lt fits, ← Nat.shiftLeft_add_eq_or_of_lt low, Nat.shiftLeft_eq, count]

theorem count_lt (t : FileTime) : count t < 2 ^ 64 := by
  rw [← fileTime_value]
  exact t.value.toNat_lt

/-- Between counters that did not decrease the machine difference is the true one. -/
theorem calculateDelta_toNat {first last : FileTime} (le : count first ≤ count last) :
    (calculateDelta first last).toNat = count last - count first := by
  have ordered : first.value ≤ last.value := by
    rw [UInt64.le_iff_toNat_le, fileTime_value, fileTime_value]
    exact le
  rw [calculateDelta, UInt64.toNat_sub_of_le _ _ ordered, fileTime_value, fileTime_value]

/-! ## One call -/

section call
variable {sample now : SystemTimes} (later : NotBefore sample now)
include later

/-- The machine sum of the two differences. -/
theorem total_toNat :
    (calculateDelta sample.kernel now.kernel + calculateDelta sample.user now.user).toNat =
      totalTime sample now % 2 ^ 64 := by
  rw [UInt64.toNat_add, calculateDelta_toNat later.kernel, calculateDelta_toNat later.user,
    totalTime]

theorem readsExactly_of_advances {os : OsReadings} (sampled : os.systemTimes = some now)
    (advances : Advances sample now) : ReadsExactly sample sample os now := by
  have total := total_toNat later
  rw [Nat.mod_eq_of_lt advances.2] at total
  have idle := calculateDelta_toNat later.idle
  have within := later.idleWithinKernel
  have ordered : calculateDelta sample.idle now.idle ≤
      calculateDelta sample.kernel now.kernel + calculateDelta sample.user now.user := by
    rw [UInt64.le_iff_toNat_le, total, idle, totalTime]
    omega
  have busy : (calculateDelta sample.kernel now.kernel + calculateDelta sample.user now.user -
      calculateDelta sample.idle now.idle).toNat = busyTime sample now := by
    rw [UInt64.toNat_sub_of_le _ _ ordered, total, idle, busyTime]
  have divisor : calculateDelta sample.kernel now.kernel +
    calculateDelta sample.user now.user ≠ 0 := by
    intro zero
    rw [zero] at total
    exact absurd total.symm advances.1.ne'
  have quotient : cpuQuotient (calculateDelta sample.kernel now.kernel +
      calculateDelta sample.user now.user - calculateDelta sample.idle now.idle)
        (calculateDelta sample.kernel now.kernel + calculateDelta sample.user now.user) =
      some (255 * busyTime sample now / totalTime sample now) := by
    rw [cpuQuotient, if_neg divisor, busy, total, Nat.mul_comm]
  have share : busyTime sample now ≤ totalTime sample now := Nat.sub_le _ _
  have inByte : 255 * busyTime sample now / totalTime sample now < 256 := by
    have positive := advances.1
    rw [Nat.div_lt_iff_lt_mul positive]
    omega
  refine ⟨idle, calculateDelta_toNat later.kernel, calculateDelta_toNat later.user, busy,
    quotient, ?_⟩
  simp only [dataSourceCpuUtility, sampled, quotient, ucharOfQuotient, if_pos inByte]
  rw [UInt8.toNat_ofNat', Nat.mod_eq_of_lt (by omega)]

/-- A wrapped sum is smaller than the busy time, so the quotient exceeds any true share. -/
theorem advances_of_readsExactly {os : OsReadings} (exactly : ReadsExactly sample sample os now) :
    Advances sample now := by
  have quotient := exactly.quotient
  unfold cpuQuotient at quotient
  split at quotient
  next => cases quotient
  next divisor =>
    rw [Option.some.injEq, exactly.busy, total_toNat later] at quotient
    have machine : totalTime sample now % 2 ^ 64 ≠ 0 := by
      rw [← total_toNat later]
      exact fun zero => divisor (UInt64.toNat_inj.mp zero)
    refine ⟨Nat.pos_of_ne_zero fun zero => machine (by rw [zero, Nat.zero_mod]), ?_⟩
    by_contra wraps
    rw [Nat.not_lt] at wraps
    have busyFits : busyTime sample now < 2 ^ 64 := by
      rw [← exactly.busy]
      exact UInt64.toNat_lt _
    have kernelFits := count_lt now.kernel
    have userFits := count_lt now.user
    have within := later.idleWithinKernel
    have reduced : totalTime sample now % 2 ^ 64 = totalTime sample now - 2 ^ 64 := by
      unfold totalTime at wraps ⊢
      omega
    have busyAbove : totalTime sample now - 2 ^ 64 ≤ busyTime sample now := by
      unfold busyTime totalTime
      omega
    have trueShare : 255 * busyTime sample now / totalTime sample now < 255 := by
      rw [Nat.div_lt_iff_lt_mul (by omega)]
      omega
    have machineShare : 255 ≤ busyTime sample now * 255 / (totalTime sample now % 2 ^ 64) := by
      rw [Nat.le_div_iff_mul_le (Nat.pos_of_ne_zero machine), reduced]
      omega
    omega

end call

/-! ## Sequences of calls -/

theorem step_counters (last : SystemTimes) (os : OsReadings) :
    step last os = os.systemTimes.getD last := by
  unfold step dataSourceCpuUtility
  cases os.systemTimes <;> rfl

/-- The static counters are those of the last successful sample. -/
theorem run_counters (sample : SystemTimes) (calls : List OsReadings) :
    Runs.run step sample calls = lastSuccessful sample calls := by
  induction calls generalizing sample with
  | nil => rfl
  | cons os rest ih =>
    rw [Runs.run_cons, step_counters, ih]
    rfl

/-- Each sample is later than the last successful one before it. -/
theorem samples_split {sample : SystemTimes} {before after : List OsReadings} {os : OsReadings}
    {now : SystemTimes} (samples : Samples sample (before ++ os :: after))
    (sampled : os.systemTimes = some now) : NotBefore (lastSuccessful sample before) now := by
  induction before generalizing sample with
  | nil =>
    simp only [List.nil_append, Samples, sampled] at samples
    exact samples.1
  | cons first rest ih =>
    simp only [List.cons_append, Samples] at samples
    unfold lastSuccessful
    cases obtained : first.systemTimes with
    | none =>
      rw [obtained] at samples
      exact ih samples
    | some next =>
      rw [obtained] at samples
      exact ih samples.2

/-- Over every sequence of calls: each successful one computes on the true differences and
returns the exact share exactly when some, and less than 2^64 units of, kernel and user time
passed since the last successful sample. -/
theorem cpu_utility_iff {calls : List OsReadings} (samples : Samples SystemTimes.zero calls) :
    (∀ before os after now, calls = before ++ os :: after → os.systemTimes = some now →
      ReadsExactly (lastSuccessful SystemTimes.zero before) (Runs.run step SystemTimes.zero before)
        os now) ↔
    (∀ before os after now, calls = before ++ os :: after → os.systemTimes = some now →
      Advances (lastSuccessful SystemTimes.zero before) now) := by
  constructor
  · intro exactly before os after now split sampled
    have reads := exactly before os after now split sampled
    rw [run_counters] at reads
    rw [split] at samples
    exact advances_of_readsExactly (samples_split samples sampled) reads
  · intro advances before os after now split sampled
    rw [run_counters]
    have advanced := advances before os after now split sampled
    rw [split] at samples
    exact readsExactly_of_advances (samples_split samples sampled) sampled advanced

/-- A call that samples the given idle, kernel and user counters. -/
def sampling (idle kernel user : UInt32) : OsReadings where
  systemTimes := some ⟨⟨idle, 0⟩, ⟨kernel, 0⟩, ⟨user, 0⟩⟩
  memoryLoad := none
  gpuPercentage := none
  gpuTemperature := none
  undefinedConversion := 0

/-- A call of `GetSystemTimes` that fails. -/
def failing : OsReadings := ⟨none, none, none, none, 0⟩

/-- A sample, a failed call and a second sample: three quarters busy since the first. -/
def interrupted : List OsReadings := [sampling 100 200 0, failing, sampling 200 500 100]

theorem cpu_utility_interrupted :
    ReadsExactly (lastSuccessful SystemTimes.zero [sampling 100 200 0, failing])
      (Runs.run step SystemTimes.zero [sampling 100 200 0, failing]) (sampling 200 500 100)
      ⟨⟨200, 0⟩, ⟨500, 0⟩, ⟨100, 0⟩⟩ := by
  have first : NotBefore SystemTimes.zero ⟨⟨100, 0⟩, ⟨200, 0⟩, ⟨0, 0⟩⟩ := by
    constructor <;> decide
  have second : NotBefore ⟨⟨100, 0⟩, ⟨200, 0⟩, ⟨0, 0⟩⟩ ⟨⟨200, 0⟩, ⟨500, 0⟩, ⟨100, 0⟩⟩ := by
    constructor <;> decide
  have samples : Samples SystemTimes.zero interrupted := ⟨first, second, trivial⟩
  refine (cpu_utility_iff samples).mpr ?_ _ _ [] _ rfl rfl
  intro before os after now split sampled
  match before with
  | [] =>
    cases split
    cases sampled
    exact ⟨by decide, by decide⟩
  | [_] =>
    cases split
    cases sampled
  | [_, _] =>
    cases split
    cases sampled
    exact ⟨by decide, by decide⟩
  | _ :: _ :: _ :: rest =>
    cases rest <;> cases split

/-- Two calls between which no counter advances: the second divides by zero. -/
theorem unchanged_counters_divide_by_zero :
    Samples SystemTimes.zero [sampling 100 200 0, sampling 100 200 0] ∧
      ¬ (∀ before os after now,
          [sampling 100 200 0, sampling 100 200 0] = before ++ os :: after →
          os.systemTimes = some now →
          ReadsExactly (lastSuccessful SystemTimes.zero before)
            (Runs.run step SystemTimes.zero before) os now) := by
  have first : NotBefore SystemTimes.zero ⟨⟨100, 0⟩, ⟨200, 0⟩, ⟨0, 0⟩⟩ := by
    constructor <;> decide
  have again : NotBefore ⟨⟨100, 0⟩, ⟨200, 0⟩, ⟨0, 0⟩⟩ ⟨⟨100, 0⟩, ⟨200, 0⟩, ⟨0, 0⟩⟩ := by
    constructor <;> decide
  refine ⟨⟨first, again, trivial⟩, fun exactly => ?_⟩
  have reads := exactly [sampling 100 200 0] (sampling 100 200 0) [] _ rfl rfl
  exact absurd reads.quotient (by decide)

end PerformancePanel.Guarantees.CpuUtility

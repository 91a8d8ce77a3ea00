import PerformancePanel.Source.DataSources

/-!
# Percent-scaled readings

Memory load, GPU utilisation and GPU temperature are scaled by 256/100 into a byte. The
clamp of the memory source tests `val > 256`, so a full memory reads 0; the temperature
source clamps from above only, so negative temperatures wrap, and below -8388608 degrees
the `int` product itself is undefined. The readings are monotone everywhere else.
-/
set_option autoImplicit false

namespace PerformancePanel.Guarantees.PercentReadings
open Source.Common Source.DataSources

/-- The product `currentTemp * 256` of the clamped temperature is an `int`. -/
def ProductFits (currentTemp : Int32) : Prop := -8388608 ≤ currentTemp.toInt

/-- Where the temperature source reads a colder GPU no higher than a hotter one: from zero
degrees on, at negative multiples of 100, and where the wrapped readings of the last two
digits happen to be in order. -/
def TemperaturesInOrder (colder hotter : Int) : Prop :=
  -8388608 ≤ colder ∧
    (0 ≤ colder ∨ colder % 100 = 0 ∨
      (hotter < 0 ∧ hotter % 100 ≠ 0 ∧ -hotter % 100 ≤ -colder % 100) ∨
      (0 ≤ hotter ∧ (100 < -colder % 100 + min hotter 99 ∨
        (-colder % 100 + min hotter 99 = 100 ∧ min hotter 99 % 25 = 0))))

/-! ## Memory load -/

/-- Up to 100 percent the scaled load fits, except that the full memory wraps to zero. -/
theorem ram_reading {os : OsReadings} {load : UInt32} (reported : os.memoryLoad = some load)
    (percent : load ≤ 100) :
    (dataSourceRamUtility os).toNat = if load.toNat = 100 then 0 else load.toNat * 256 / 100 := by
  have bound : load.toNat ≤ 100 := UInt32.le_iff_toNat_le.mp percent
  have scaled : (load * 256 / 100).toNat = load.toNat * 256 / 100 := by
    rw [UInt32.toNat_div, UInt32.toNat_mul]
    show load.toNat * 256 % 2 ^ 32 / 100 = _
    omega
  have unclamped : ¬ load * 256 / 100 > 256 := by
    intro above
    have above' := UInt32.lt_iff_toNat_lt.mp above
    rw [scaled] at above'
    change 256 < load.toNat * 256 / 100 at above'
    omega
  simp only [dataSourceRamUtility, reported, if_neg unclamped, UInt32.toNat_toUInt8, scaled]
  split <;> omega

theorem ram_in_order_iff {os os' : OsReadings} {load load' : UInt32}
    (reported : os.memoryLoad = some load) (reported' : os'.memoryLoad = some load')
    (le : load ≤ load') (percent : load' ≤ 100) :
    dataSourceRamUtility os ≤ dataSourceRamUtility os' ↔ load' ≠ 100 ∨ load = 0 ∨ load = 100 := by
  have full (l : UInt32) : l = 100 ↔ l.toNat = 100 := UInt32.toNat_inj.symm
  have empty : load = 0 ↔ load.toNat = 0 := UInt32.toNat_inj.symm
  have bound : load'.toNat ≤ 100 := UInt32.le_iff_toNat_le.mp percent
  have order : load.toNat ≤ load'.toNat := UInt32.le_iff_toNat_le.mp le
  rw [UInt8.le_iff_toNat_le, ram_reading reported (UInt32.le_trans le percent),
    ram_reading reported' percent, ne_eq, full, full, empty]
  split <;> split <;> omega

/-! ## GPU utilisation -/

theorem gpuUtility_reading {os : OsReadings} {percentage : UInt32}
    (reported : os.gpuPercentage = some percentage) (percent : percentage ≤ 100) :
    (dataSourceNvidiaGpuUtility os).toNat = min percentage.toNat 99 * 256 / 100 := by
  have bound : percentage.toNat ≤ 100 := UInt32.le_iff_toNat_le.mp percent
  have clamped : (if percentage = 100 then percentage - 1 else percentage).toNat =
      min percentage.toNat 99 := by
    split
    next full =>
      rw [full]
      rfl
    next partly =>
      have notFull : percentage.toNat ≠ 100 := fun same => partly (UInt32.toNat_inj.mp same)
      omega
  simp only [dataSourceNvidiaGpuUtility, reported, UInt32.toNat_toUInt8, UInt32.toNat_div,
    UInt32.toNat_mul, clamped]
  show min percentage.toNat 99 * 256 % 2 ^ 32 / 100 % 2 ^ 8 = _
  have product : min percentage.toNat 99 * 256 % 2 ^ 32 = min percentage.toNat 99 * 256 :=
    Nat.mod_eq_of_lt (by omega)
  rw [product]
  omega

theorem gpuUtility_in_order {os os' : OsReadings} {percentage percentage' : UInt32}
    (reported : os.gpuPercentage = some percentage)
    (reported' : os'.gpuPercentage = some percentage')
    (le : percentage ≤ percentage') (percent : percentage' ≤ 100) :
    dataSourceNvidiaGpuUtility os ≤ dataSourceNvidiaGpuUtility os' := by
  have order : percentage.toNat ≤ percentage'.toNat := UInt32.le_iff_toNat_le.mp le
  rw [UInt8.le_iff_toNat_le, gpuUtility_reading reported (UInt32.le_trans le percent),
    gpuUtility_reading reported' percent]
  omega

/-! ## GPU temperature -/

theorem toUInt8_toNat (x : Int32) : (x.toUInt32.toUInt8.toNat : Int) = x.toInt % 256 := by
  have value : x.toInt = if 2 * x.toBitVec.toNat < 2 ^ 32 then (x.toBitVec.toNat : Int)
      else (x.toBitVec.toNat : Int) - (2 ^ 32 : Nat) := BitVec.toInt_eq_toNat_cond x.toBitVec
  rw [UInt32.toNat_toUInt8, ← Int32.toNat_toBitVec, value]
  split <;> omega

/-- The reading is the last byte of the truncated quotient. -/
theorem temperature_reading {os : OsReadings} {currentTemp : Int32}
    (reported : os.gpuTemperature = some currentTemp) (fits : ProductFits currentTemp) :
    ((dataSourceNvidiaGpuTemperature os).toNat : Int) =
      (min currentTemp.toInt 99 * 256).tdiv 100 % 256 := by
  have clamped : (if currentTemp ≥ 100 then 99 else currentTemp).toInt =
    min currentTemp.toInt 99 := by
    split
    next hot =>
      have above : (100 : Int) ≤ currentTemp.toInt := Int32.le_iff_toInt_le.mp hot
      show (99 : Int) = _
      omega
    next cold =>
      have below : ¬ (100 : Int) ≤ currentTemp.toInt :=
        fun le => cold (Int32.le_iff_toInt_le.mpr le)
      omega
  have product : ((if currentTemp ≥ 100 then 99 else currentTemp) * 256).toInt =
      min currentTemp.toInt 99 * 256 := by
    rw [Int32.toInt_mul, clamped]
    unfold ProductFits at fits
    exact Int.bmod_eq_of_le (by show _ ≤ min currentTemp.toInt 99 * 256; omega)
      (by show min currentTemp.toInt 99 * 256 < _; omega)
  have quotient : ((if currentTemp ≥ 100 then 99 else currentTemp) * 256 / 100).toInt =
      (min currentTemp.toInt 99 * 256).tdiv 100 := by
    rw [Int32.toInt_div_of_ne_right _ _ (by decide), product]
    rfl
  simp only [dataSourceNvidiaGpuTemperature, reported]
  rw [toUInt8_toNat, quotient]

/-- From zero degrees on the byte is the scaled temperature. -/
theorem wrapped_nonneg {t : Int} (nonneg : 0 ≤ t) (clamped : t ≤ 99) :
    (t * 256).tdiv 100 % 256 = t * 256 / 100 := by
  rw [Int.tdiv_eq_ediv_of_nonneg (by omega)]
  omega

/-- Below zero it is the complement of the scaled last two digits. -/
theorem wrapped_neg {t : Int} (negative : t < 0) :
    (t * 256).tdiv 100 % 256 = if t % 100 = 0 then 0 else 256 - -t % 100 * 256 / 100 := by
  have sign : (t * 256).tdiv 100 = -(-t * 256 / 100) := by
    rw [← Int.tdiv_eq_ediv_of_nonneg (by omega), Int.neg_mul, Int.neg_tdiv, Int.neg_neg]
  have digits : -t * 256 / 100 = 256 * (-t / 100) + -t % 100 * 256 / 100 := by omega
  have dropped (k q : Int) : -(256 * k + q) % 256 = -q % 256 := by omega
  have upper : -t % 100 ≤ 99 := by omega
  rw [sign, digits, dropped]
  split
  next whole =>
    have divides : -t % 100 = 0 := by omega
    rw [divides]
    rfl
  next rest =>
    have positive : 0 < -t % 100 := by omega
    generalize -t % 100 = r at positive upper ⊢
    omega

/-- Scaling separates any two degrees. -/
theorem scaled_le_iff {s r : Int} : s * 256 / 100 ≤ r * 256 / 100 ↔ s ≤ r := by
  constructor
  · intro le
    omega
  · intro le
    omega

/-- The complement of one scaled value lies below another when the degrees add up to more
than 100, or to 100 without a rounding loss. -/
theorem scaled_sum_iff {r m : Int} :
    256 - r * 256 / 100 ≤ m * 256 / 100 ↔ 100 < r + m ∨ (r + m = 100 ∧ m % 25 = 0) := by
  rcases Int.lt_trichotomy (r + m) 100 with low | exact | high
  · constructor
    · intro le
      omega
    · intro sum
      omega
  · have r_eq : r = 100 - m := by omega
    have scaled : m * 256 / 100 = m * 64 / 25 := by omega
    have complement : (100 - m) * 256 / 100 = 256 + -(m * 64) / 25 := by omega
    rw [r_eq, complement, scaled]
    constructor
    · intro le
      have below : 25 * (m * 64 / 25) ≤ m * 64 := by omega
      have above : m * 64 ≤ 25 * (m * 64 / 25) := by omega
      have whole : 25 * (m * 64 / 25) = m * 64 := Int.le_antisymm below above
      omega
    · intro sum
      omega
  · constructor
    · intro le
      omega
    · intro sum
      omega

/-- The order of the last bytes, each case of the signs by its own comparison. -/
theorem wrapped_in_order_iff {colder hotter : Int} (le : colder ≤ hotter) (clamped : hotter ≤ 99) :
    (colder * 256).tdiv 100 % 256 ≤ (hotter * 256).tdiv 100 % 256 ↔
      0 ≤ colder ∨ colder % 100 = 0 ∨
        (hotter < 0 ∧ hotter % 100 ≠ 0 ∧ -hotter % 100 ≤ -colder % 100) ∨
        (0 ≤ hotter ∧ (100 < -colder % 100 + hotter ∨
          (-colder % 100 + hotter = 100 ∧ hotter % 25 = 0))) := by
  rcases Int.lt_or_le colder 0 with below | above
  · rw [wrapped_neg below]
    rcases Int.lt_or_le hotter 0 with below' | above'
    · rw [wrapped_neg below']
      have separated := scaled_le_iff (s := -hotter % 100) (r := -colder % 100)
      have digits : 0 ≤ -hotter % 100 ∧ -colder % 100 < 100 := by omega
      split
      · omega
      · split
        · omega
        · omega
    · rw [wrapped_nonneg above' clamped]
      have sums := scaled_sum_iff (r := -colder % 100) (m := hotter)
      split
      · omega
      · rw [sums]
        omega
  · rw [wrapped_nonneg above (by omega), wrapped_nonneg (by omega) clamped, scaled_le_iff]
    omega

theorem temperature_in_order_iff {os os' : OsReadings} {colder hotter : Int32}
    (reported : os.gpuTemperature = some colder) (reported' : os'.gpuTemperature = some hotter)
    (le : colder ≤ hotter) :
    (ProductFits colder ∧ ProductFits hotter ∧
        dataSourceNvidiaGpuTemperature os ≤ dataSourceNvidiaGpuTemperature os') ↔
      TemperaturesInOrder colder.toInt hotter.toInt := by
  have order : colder.toInt ≤ hotter.toInt := Int32.le_iff_toInt_le.mp le
  unfold TemperaturesInOrder
  by_cases fits : ProductFits colder
  · have fits' : ProductFits hotter := by
      unfold ProductFits at fits ⊢
      omega
    have reading := temperature_reading reported fits
    have reading' := temperature_reading reported' fits'
    have bytes : dataSourceNvidiaGpuTemperature os ≤ dataSourceNvidiaGpuTemperature os' ↔
        (min colder.toInt 99 * 256).tdiv 100 % 256 ≤
          (min hotter.toInt 99 * 256).tdiv 100 % 256 := by
      rw [UInt8.le_iff_toNat_le, ← reading, ← reading']
      omega
    rw [bytes]
    simp only [fits, fits', true_and]
    rw [wrapped_in_order_iff (by omega) (by omega)]
    unfold ProductFits at fits
    omega
  · unfold ProductFits at fits ⊢
    exact ⟨fun defined => absurd defined.1 fits, fun condition => absurd condition.1 fits⟩

/-! ## The three sources -/

/-- Two reports of each source, the first one not above the second: the memory source reads
them in order exactly up to 99 percent, from zero, or when both are full; the utilisation
source always does; the temperature source reads defined values in order exactly where the
wrapped bytes are. -/
theorem percent_readings_iff (os os' : OsReadings) :
    (∀ load load', os.memoryLoad = some load → os'.memoryLoad = some load' → load ≤ load' →
      load' ≤ 100 → (dataSourceRamUtility os ≤ dataSourceRamUtility os' ↔
        load' ≠ 100 ∨ load = 0 ∨ load = 100)) ∧
    (∀ percentage percentage', os.gpuPercentage = some percentage →
      os'.gpuPercentage = some percentage' → percentage ≤ percentage' → percentage' ≤ 100 →
      dataSourceNvidiaGpuUtility os ≤ dataSourceNvidiaGpuUtility os') ∧
    (∀ colder hotter, os.gpuTemperature = some colder → os'.gpuTemperature = some hotter →
      colder ≤ hotter →
      ((ProductFits colder ∧ ProductFits hotter ∧
          dataSourceNvidiaGpuTemperature os ≤ dataSourceNvidiaGpuTemperature os') ↔
        TemperaturesInOrder colder.toInt hotter.toInt)) :=
  ⟨fun _ _ => ram_in_order_iff, fun _ _ => gpuUtility_in_order, fun _ _ => temperature_in_order_iff⟩

/-- A report of all three sources. -/
def report (load percentage : UInt32) (temperature : Int32) : OsReadings where
  systemTimes := none
  memoryLoad := some load
  gpuPercentage := some percentage
  gpuTemperature := some temperature
  undefinedConversion := 0

/-- From 50 to 99 percent, from idle to full, from 40 to 90 degrees. -/
theorem percent_readings_usual :
    dataSourceRamUtility (report 50 0 40) ≤ dataSourceRamUtility (report 99 100 90) ∧
      dataSourceNvidiaGpuUtility (report 50 0 40) ≤ dataSourceNvidiaGpuUtility (report 99 100 90) ∧
      dataSourceNvidiaGpuTemperature (report 50 0 40) ≤
        dataSourceNvidiaGpuTemperature (report 99 100 90) := by
  obtain ⟨ram, utility, temperature⟩ := percent_readings_iff (report 50 0 40) (report 99 100 90)
  have warm : TemperaturesInOrder (40 : Int32).toInt (90 : Int32).toInt :=
    ⟨by decide, .inl (by decide)⟩
  exact ⟨(ram 50 99 rfl rfl (by decide) (by decide)).mpr (.inl (by decide)),
    utility 0 100 rfl rfl (by decide) (by decide),
    ((temperature 40 90 rfl rfl (by decide)).mpr warm).2.2⟩

/-- A full memory reads lower than one at 99 percent, and zero degrees lower than -1. -/
theorem full_memory_reads_zero :
    ¬ dataSourceRamUtility (report 99 0 (-1)) ≤ dataSourceRamUtility (report 100 0 0) ∧
      ¬ dataSourceNvidiaGpuTemperature (report 99 0 (-1)) ≤
        dataSourceNvidiaGpuTemperature (report 100 0 0) := by
  decide

end PerformancePanel.Guarantees.PercentReadings

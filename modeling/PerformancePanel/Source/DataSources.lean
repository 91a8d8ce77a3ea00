import PerformancePanel.Source.Common

/-!
# Data sources

Source: datasource/windows/cpu.c, ram.c, gpu_nvidia.c and `data_source_calibration`
in datasource/collector.c. Each source is a function of what the OS reports when it
is called; only the CPU source keeps state, the counters of its last sample.
registryreader.c names `data_source_nvidia_gpu_temperature` outside every `#ifdef`,
so a Windows build always contains the two NVIDIA sources.

The `double` expression of the CPU source is read as exact rational arithmetic with
truncation. Its conversion to `UCHAR` is undefined in C for a zero divisor or a
quotient of 256 or more; the reading is then whatever `undefinedConversion` says.
-/
set_option autoImplicit false

namespace PerformancePanel.Source.DataSources
open Common

/-- The collection callbacks a channel can be bound to. -/
inductive DataSource where
  | calibration | cpuUtility | nvidiaGpuUtility | nvidiaGpuTemperature | ramUtility
  deriving DecidableEq, Repr

/-- An entry of `data_source_callbacks`; `none` is NULL. -/
abbrev Callback := Option DataSource

structure FileTime where
  dwLowDateTime : UInt32
  dwHighDateTime : UInt32
  deriving DecidableEq, Repr

/-- `((ULONGLONG)dwHighDateTime << 32) | dwLowDateTime`. -/
def FileTime.value (t : FileTime) : UInt64 :=
  (t.dwHighDateTime.toUInt64 <<< 32) ||| t.dwLowDateTime.toUInt64

/-- The counters of one `GetSystemTimes` call. -/
structure SystemTimes where
  idle : FileTime
  kernel : FileTime
  user : FileTime
  deriving DecidableEq, Repr

/-- `last_idle_time`, `last_kernel_time` and `last_user_time` before the first sample. -/
def SystemTimes.zero : SystemTimes := ⟨⟨0, 0⟩, ⟨0, 0⟩, ⟨0, 0⟩⟩

/-- What the OS and NVAPI report at one moment; `none` is a failed call. -/
structure OsReadings where
  systemTimes : Option SystemTimes
  memoryLoad : Option UInt32
  gpuPercentage : Option UInt32
  gpuTemperature : Option Int32
  undefinedConversion : UInt8

def calculateDelta (first last : FileTime) : UInt64 := last.value - first.value

/-- `busy * 255.0 / total`, truncated; `none` is the division by zero. -/
def cpuQuotient (busy total : UInt64) : Option Nat :=
  if total = 0 then none else some (busy.toNat * 255 / total.toNat)

def ucharOfQuotient (undefinedConversion : UInt8) : Option Nat → UInt8
  | some q => if q < 256 then UInt8.ofNat q else undefinedConversion
  | none => undefinedConversion

def dataSourceCpuUtility (last : SystemTimes) (os : OsReadings) : UInt8 × SystemTimes :=
  match os.systemTimes with
  | some now =>
    let idleDelta := calculateDelta last.idle now.idle
    let kernelDelta := calculateDelta last.kernel now.kernel
    let userDelta := calculateDelta last.user now.user
    (ucharOfQuotient os.undefinedConversion
      (cpuQuotient (kernelDelta + userDelta - idleDelta) (kernelDelta + userDelta)), now)
  | none => (0, last)

def dataSourceRamUtility (os : OsReadings) : UInt8 :=
  match os.memoryLoad with
  | some dwMemoryLoad =>
    let val := dwMemoryLoad * 256 / 100
    if val > 256 then 255 else val.toUInt8
  | none => 0

def dataSourceNvidiaGpuUtility (os : OsReadings) : UInt8 :=
  match os.gpuPercentage with
  | some percentage =>
    let percentage := if percentage = 100 then percentage - 1 else percentage
    (percentage * 256 / 100).toUInt8
  | none => 0

def dataSourceNvidiaGpuTemperature (os : OsReadings) : UInt8 :=
  match os.gpuTemperature with
  | some currentTemp =>
    let currentTemp := if currentTemp ≥ 100 then 99 else currentTemp
    (currentTemp * 256 / 100).toUInt32.toUInt8
  | none => 0

def dataSourceCalibration : UInt8 := 0xFF

/-- One call through `data_source_callbacks[i]`. -/
def DataSource.read (source : DataSource) (last : SystemTimes) (os : OsReadings) :
    UInt8 × SystemTimes :=
  match source with
  | .calibration => (dataSourceCalibration, last)
  | .cpuUtility => dataSourceCpuUtility last os
  | .nvidiaGpuUtility => (dataSourceNvidiaGpuUtility os, last)
  | .nvidiaGpuTemperature => (dataSourceNvidiaGpuTemperature os, last)
  | .ramUtility => (dataSourceRamUtility os, last)

/-- Only the CPU source touches the sampled counters. -/
theorem read_keeps_counters {source : DataSource} (h : source ≠ .cpuUtility)
    (last : SystemTimes) (os : OsReadings) : (source.read last os).2 = last := by
  cases source <;> first | exact absurd rfl h | rfl

/-- A source other than the CPU source does not look at the sampled counters. -/
theorem read_ignores_counters {source : DataSource} (h : source ≠ .cpuUtility)
    (last other : SystemTimes) (os : OsReadings) :
    (source.read last os).1 = (source.read other os).1 := by
  cases source <;> first | exact absurd rfl h | rfl

/-- Every sample of the CPU source leaves the counters it saw. -/
theorem cpu_read_counters {os : OsReadings} {now : SystemTimes} (h : os.systemTimes = some now)
    (last : SystemTimes) : (DataSource.cpuUtility.read last os).2 = now := by
  simp [DataSource.read, dataSourceCpuUtility, h]

end PerformancePanel.Source.DataSources

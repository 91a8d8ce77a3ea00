import PerformancePanel.Library.SharedCell
import PerformancePanel.Source.WindowsLoad

/-!
# Processes on one registry key

Source: datasource/windows/registryreader.c in several processes that run at the same time,
the control programs and the driver, on one of the two keys. `registry_key` and the arrays
are each process's own; calls of different processes come in any order, each of them whole.
-/
set_option autoImplicit false

namespace PerformancePanel.Source.SharedRegistry
open Common DataSources Collector Registry WindowsReader Library.SharedCell

/-- The reader of one process, with what its calls have returned for each channel. -/
structure Process where
  opened : Bool
  tables : Tables
  outcomes : List (Nat × Outcome)

/-- A call of the interface, with what the registry makes of it. -/
inductive Call where
  | getBoundDataSource (nvidiaGpuFound : Bool) (env : RegistryEnv) (channel : Nat)
  | setChannelSourceBinding (nvidiaGpuFound succeeds : Bool) (channel : Nat) (bindingName : Name)
  | clearBinding (channel : Nat)
  | setChannelCalibration (succeeds : Bool) (channel : Nat) (calibration : UInt8)

def Call.channel : Call → Nat
  | .getBoundDataSource _ _ channel => channel
  | .setChannelSourceBinding _ _ channel _ => channel
  | .clearBinding channel => channel
  | .setChannelCalibration _ channel _ => channel

def Call.perform : Call → Windows → Windows × Outcome
  | .getBoundDataSource nvidiaGpuFound env channel =>
    WindowsReader.getBoundDataSource nvidiaGpuFound env channel
  | .setChannelSourceBinding nvidiaGpuFound succeeds channel bindingName =>
    WindowsReader.setChannelSourceBinding nvidiaGpuFound succeeds channel bindingName
  | .clearBinding channel => WindowsReader.clearBinding channel
  | .setChannelCalibration succeeds channel calibration =>
    WindowsReader.setChannelCalibration succeeds channel calibration

/-- A call of a process on the key as it is. -/
def act (call : Call) (p : Process) (registry : RegistryKey) : Process × RegistryKey :=
  let result := call.perform ⟨p.opened, registry, p.tables⟩
  (⟨result.1.opened, result.1.tables, p.outcomes ++ [(call.channel, result.2)]⟩, result.1.registry)

/-- The key and the processes on it, by number. -/
abbrev Processes := World Nat Process RegistryKey

/-! ## What a call does on an open key -/

/-- What is set of a channel: its two values and its two entries. -/
structure Effect where
  name : Option (List UInt8)
  calibration : Option (List UInt8)
  callback : Option Callback
  level : Option UInt8
  outcome : Outcome

/-- A value is set, or left. -/
def write (key : String) (data : Option (List UInt8)) (registry : RegistryKey) : RegistryKey :=
  data.elim registry (regSetValueEx registry key)

def Effect.tables (e : Effect) (channel : Nat) (t : Tables) : Tables :=
  let bound := e.callback.elim t (t.setCallback channel)
  e.level.elim bound (bound.setCalibration channel)

def Effect.apply (e : Effect) (channel : Nat) (s : Windows) : Windows × Outcome :=
  (⟨s.opened, write (calibrationKey channel) e.calibration
    (write (channelKey channel) e.name s.registry), e.tables channel s.tables⟩, e.outcome)

theorem write_self (key : String) (data : Option (List UInt8)) (registry : RegistryKey) :
    write key data registry key = data.or (registry key) := by
  cases data with
  | none => rfl
  | some data => exact regSetValueEx_self registry key data

theorem write_ne {key other : String} (different : other ≠ key) (data : Option (List UInt8))
    (registry : RegistryKey) :
    write key data registry other = registry other := by
  cases data with
  | none => rfl
  | some data => exact regSetValueEx_ne registry different data

section effects
variable {channel : Nat}

theorem readName_effect (env : RegistryEnv) (channel : Nat) (value : Option (List UInt8)) :
    ∃ data name, ∀ s : Windows, s.registry (channelKey channel) = value →
      readName env channel s =
        ({ s with registry := write (channelKey channel) data s.registry }, name) := by
  have defaulted : ∃ data name, ∀ s : Windows,
      (if env.setName then
        ({ s with
            registry := regSetValueEx s.registry (channelKey channel) (stored Names.unallocated) },
          some Names.unallocated)
      else (s, none)) = (({ s with registry := write (channelKey channel) data s.registry } :
        Windows), name) := by
    cases env.setName with
    | true => exact ⟨some (stored Names.unallocated), some Names.unallocated, fun _ => rfl⟩
    | false => exact ⟨none, none, fun _ => rfl⟩
  obtain ⟨data, name, same⟩ := defaulted
  cases value with
  | none => exact ⟨data, name, fun s here => by simp only [readName, regQueryValueEx, here, same]⟩
  | some value =>
    by_cases short : value.length ≤ keyValueBufferSize
    · refine ⟨none, some (Name.ofBuffer (units (value ++ env.keyValueBuffer.drop value.length))),
        fun s here => ?_⟩
      simp only [readName, regQueryValueEx, here, if_pos short]
      rfl
    · exact ⟨data, name,
        fun s here => by simp only [readName, regQueryValueEx, here, if_neg short, same]⟩

theorem readCalibration_effect (env : RegistryEnv) (channel : Nat) (keyCalibration : UInt8)
    (value : Option (List UInt8)) :
    ∃ data level, ∀ s : Windows, s.registry (calibrationKey channel) = value →
      readCalibration env channel keyCalibration s =
        ({ s with registry := write (calibrationKey channel) data s.registry }, level) := by
  have replaced (left : List UInt8) : ∃ data level, ∀ s : Windows,
      (if env.setCalibration then
        ({ s with registry := regSetValueEx s.registry (calibrationKey channel) left },
          some (lowByte left))
      else (s, none)) = (({ s with registry := write (calibrationKey channel) data s.registry } :
        Windows), level) := by
    cases env.setCalibration with
    | true => exact ⟨some left, some (lowByte left), fun _ => rfl⟩
    | false => exact ⟨none, none, fun _ => rfl⟩
  cases value with
  | none =>
    obtain ⟨data, level, same⟩ := replaced (dword keyCalibration)
    exact ⟨data, level, fun s here => by simp only [readCalibration, regQueryValueEx, here, same]⟩
  | some value =>
    by_cases short : value.length ≤ 4
    · refine ⟨none, some (lowByte (value ++ (dword keyCalibration).drop value.length)),
        fun s here => ?_⟩
      simp only [readCalibration, regQueryValueEx, here, if_pos short]
      rfl
    · obtain ⟨data, level, same⟩ := replaced env.undefinedData
      exact ⟨data, level, fun s here => by simp only [readCalibration, regQueryValueEx, here,
        if_neg short, same]⟩

/-- On an open key a call is decided by the values of its channel, and sets nothing else. -/
theorem getBoundDataSource_effect (nvidiaGpuFound : Bool) (env : RegistryEnv) (channel : Nat)
    (value value' : Option (List UInt8)) :
    ∃ e : Effect, ∀ s : Windows, s.opened = true → s.registry (channelKey channel) = value →
      s.registry (calibrationKey channel) = value' →
      getBoundDataSource nvidiaGpuFound env channel s = e.apply channel s := by
  obtain ⟨data, name, named⟩ := readName_effect env channel value
  cases name with
  | none =>
    refine ⟨⟨data, none, none, none, .returned .invalidConfiguration⟩, fun s opened here _ => ?_⟩
    obtain ⟨_, registry, tables⟩ := s
    cases opened
    simp only [getBoundDataSource, Bool.true_or, if_true, named _ here]
    rfl
  | some name =>
    obtain ⟨data', level, calibrated⟩ :=
      readCalibration_effect env channel (defaultCalibration name) value'
    have outcome : ∀ s : Windows, s.opened = true → s.registry (channelKey channel) = value →
        s.registry (calibrationKey channel) = value' →
        getBoundDataSource nvidiaGpuFound env channel s =
          Effect.apply ⟨data, data', some (nameStringToCallback nvidiaGpuFound name), level,
            level.elim (.returned .invalidConfiguration) fun _ => .returned .success⟩
              channel s := by
      intro s opened here here'
      obtain ⟨_, registry, tables⟩ := s
      cases opened
      have kept : write (channelKey channel) data registry (calibrationKey channel) = value' := by
        rw [write_ne (Ne.symm (WindowsLoad.channelKey_ne_calibrationKey channel channel))]
        exact here'
      simp only [getBoundDataSource, Bool.true_or, if_true, named _ here]
      rw [calibrated _ kept]
      cases level <;> rfl
    exact ⟨_, outcome⟩

theorem perform_effect (call : Call) (value value' : Option (List UInt8)) :
    ∃ e : Effect, ∀ s : Windows, s.opened = true → s.registry (channelKey call.channel) = value →
      s.registry (calibrationKey call.channel) = value' →
        call.perform s = e.apply call.channel s := by
  cases call with
  | getBoundDataSource nvidiaGpuFound env channel =>
    exact getBoundDataSource_effect nvidiaGpuFound env channel value value'
  | setChannelSourceBinding nvidiaGpuFound succeeds channel bindingName =>
    refine ⟨⟨if succeeds then some (stored bindingName) else none, none,
      some (nameStringToCallback nvidiaGpuFound bindingName), none,
      .returned (if succeeds then .success else .invalidConfiguration)⟩, fun s opened _ _ => ?_⟩
    obtain ⟨_, registry, tables⟩ := s
    cases opened
    cases succeeds <;> rfl
  | clearBinding channel =>
      exact ⟨⟨none, none, some none, none, .returned .success⟩, fun _ _ _ _ => rfl⟩
  | setChannelCalibration succeeds channel calibration =>
    refine ⟨⟨none, if succeeds then some (dword calibration) else none, none, some calibration,
      .returned (if succeeds then .success else .invalidConfiguration)⟩, fun s opened _ _ => ?_⟩
    obtain ⟨_, registry, tables⟩ := s
    cases opened
    cases succeeds <;> rfl

end effects

end PerformancePanel.Source.SharedRegistry

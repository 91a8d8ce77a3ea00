import PerformancePanel.Source.Collector
import PerformancePanel.Source.Registry

/-!
# Windows configuration reader

Source: datasource/windows/registryreader.c, built with NVIDIA support (see
DataSources.lean), so `nvidia_gpu_found` decides the two GPU names. The state is whether
`registry_key` is open, the values of that key and the two binding arrays. The outcomes
of the registry calls and the contents of the uninitialized local buffers are inputs.
-/
set_option autoImplicit false

namespace PerformancePanel.Source.WindowsReader
open Common DataSources Collector Registry

/-- `data_source_names`, in the order of the reader's enumeration. -/
def dataSourceNames : List Name :=
  [Names.unallocated, Names.calibration, Names.cpuUtility, Names.gpuUtility, Names.cpuTemperature,
    Names.gpuTemperature, Names.ramUtility]

def nameStringToCallback (nvidiaGpuFound : Bool) (name : Name) : Callback :=
  if name = Names.calibration then some .calibration
  else if name = Names.cpuUtility then some .cpuUtility
  else if name = Names.gpuUtility then
    if nvidiaGpuFound then some .nvidiaGpuUtility else none
  else if name = Names.gpuTemperature then
    if nvidiaGpuFound then some .nvidiaGpuTemperature else none
  else if name = Names.ramUtility then some .ramUtility
  else none

def callbackToNameString : Callback → Name
  | some .calibration => Names.calibration
  | some .cpuUtility => Names.cpuUtility
  | some .nvidiaGpuUtility => Names.gpuUtility
  | some .nvidiaGpuTemperature => Names.gpuTemperature
  | some .ramUtility => Names.ramUtility
  | none => Names.unallocated

def channelKey (channel : Nat) : String := Names.numbered "Channel" channel

def calibrationKey (channel : Nat) : String := Names.numbered "Calibration" channel

structure Windows where
  opened : Bool
  registry : RegistryKey
  tables : Tables

/-- What one call of `get_bound_data_source` meets. -/
structure RegistryEnv where
  openLocalMachine : Bool
  openCurrentUser : Bool
  /-- The 64 bytes of `key_value_buffer` on entry. -/
  keyValueBuffer : List UInt8
  /-- What a query that does not fit leaves in its buffer. -/
  undefinedData : List UInt8
  setName : Bool
  setCalibration : Bool

/-- `sizeof(key_value_buffer) / sizeof(char_t)`, passed where bytes are expected. -/
def keyValueBufferSize : Nat := 32

/-- `(DWORD)_tcslen(name) * sizeof(char_t)` in a `DWORD`. -/
def stringByteCount (name : Name) : UInt32 := UInt32.ofNat name.units.length * 2

def stored (name : Name) : List UInt8 := storedString name (stringByteCount name).toNat

/-- Query the binding name, or store the default; `none` if that fails. -/
def readName (env : RegistryEnv) (channel : Nat) (s : Windows) : Windows × Option Name :=
  match regQueryValueEx s.registry (channelKey channel) env.keyValueBuffer keyValueBufferSize
      env.undefinedData with
  | (true, keyValueBuffer) => (s, some (Name.ofBuffer (units keyValueBuffer)))
  | (false, _) =>
    if env.setName then
      ({ s with
          registry := regSetValueEx s.registry (channelKey channel) (stored Names.unallocated) },
        some Names.unallocated)
    else (s, none)

/-- Query the calibration over its default, or store what the buffer then holds. -/
def readCalibration (env : RegistryEnv) (channel : Nat) (keyCalibration : UInt8) (s : Windows) :
    Windows × Option UInt8 :=
  match regQueryValueEx s.registry (calibrationKey channel) (dword keyCalibration) 4
      env.undefinedData with
  | (true, data) => (s, some (lowByte data))
  | (false, data) =>
    if env.setCalibration then
      ({ s with registry := regSetValueEx s.registry (calibrationKey channel) data },
        some (lowByte data))
    else (s, none)

/-- Calibration channels default to full scale. -/
def defaultCalibration (name : Name) : UInt8 := if name = Names.calibration then 0xFF else 0x80

def getBoundDataSource (nvidiaGpuFound : Bool) (env : RegistryEnv) (channel : Nat) (s : Windows) :
    Windows × Outcome :=
  if s.opened || env.openLocalMachine || env.openCurrentUser then
    match readName env channel { s with opened := true } with
    | (s', none) => (s', .returned .invalidConfiguration)
    | (s', some name) =>
      match readCalibration env channel (defaultCalibration name)
          { s' with
            tables := s'.tables.setCallback channel
              (nameStringToCallback nvidiaGpuFound name) } with
      | (s'', none) => (s'', .returned .invalidConfiguration)
      | (s'', some calibration) =>
        ({ s'' with tables := s''.tables.setCalibration channel calibration }, .returned .success)
  else (s, .returned .invalidConfiguration)

def getSourceBindingName (s : Windows) (channel : Nat) : Name :=
  callbackToNameString (s.tables.callback channel)

/-- The common tail of the two setters: the array is already updated. A key that is not
open refuses every value. -/
def setValue (succeeds : Bool) (key : String) (data : List UInt8) (s : Windows) :
    Windows × Outcome :=
  if s.opened && succeeds then
    ({ s with registry := regSetValueEx s.registry key data }, .returned .success)
  else (s, .returned .invalidConfiguration)

@[simp] theorem setValue_tables (succeeds : Bool) (key : String) (data : List UInt8) (s : Windows) :
    (setValue succeeds key data s).1.tables = s.tables := by
  unfold setValue
  split <;> rfl

@[simp] theorem setValue_opened (succeeds : Bool) (key : String) (data : List UInt8) (s : Windows) :
    (setValue succeeds key data s).1.opened = s.opened := by
  unfold setValue
  split <;> rfl

/-- Other values of the key stay. -/
theorem setValue_other (succeeds : Bool) {key other : String} (different : other ≠ key)
    (data : List UInt8) (s : Windows) :
    (setValue succeeds key data s).1.registry other = s.registry other := by
  unfold setValue
  split
  · exact regSetValueEx_ne _ different _
  · rfl

def setChannelSourceBinding (nvidiaGpuFound succeeds : Bool) (channel : Nat) (bindingName : Name)
    (s : Windows) : Windows × Outcome :=
  setValue succeeds (channelKey channel) (stored bindingName)
    { s with
      tables := s.tables.setCallback channel (nameStringToCallback nvidiaGpuFound bindingName) }

def clearBinding (channel : Nat) (s : Windows) : Windows × Outcome :=
  ({ s with tables := s.tables.setCallback channel none }, .returned .success)

def setChannelCalibration (succeeds : Bool) (channel : Nat) (calibration : UInt8) (s : Windows) :
    Windows × Outcome :=
  setValue succeeds (calibrationKey channel) (dword calibration)
    { s with tables := s.tables.setCalibration channel calibration }

/-! The setters on an open key whose values can be set. -/

theorem setChannelSourceBinding_opened {s : Windows} (opened : s.opened = true)
    (nvidiaGpuFound : Bool) (channel : Nat) (bindingName : Name) :
    setChannelSourceBinding nvidiaGpuFound true channel bindingName s =
      ({ s with
        registry := regSetValueEx s.registry (channelKey channel) (stored bindingName)
        tables := s.tables.setCallback channel (nameStringToCallback nvidiaGpuFound bindingName) },
        .returned .success) := by
  simp [setChannelSourceBinding, setValue, opened]

theorem setChannelCalibration_opened {s : Windows} (opened : s.opened = true) (channel : Nat)
    (calibration : UInt8) :
    setChannelCalibration true channel calibration s =
      ({ s with
        registry := regSetValueEx s.registry (calibrationKey channel) (dword calibration)
        tables := s.tables.setCalibration channel calibration }, .returned .success) := by
  simp [setChannelCalibration, setValue, opened]

/-- A fresh process: the key not yet open. -/
def fresh (registry : RegistryKey) (tables : Tables) : Windows := ⟨false, registry, tables⟩

/-- `initialize_data_source_binding` of a fresh process whose allocations succeed. -/
def start (nvidiaGpuFound : Bool) (envs : Nat → RegistryEnv) (count : Nat)
    (registry : RegistryKey) : Initialized Windows :=
  initializeDataSourceBinding true true count (fresh registry)
    fun channel s => getBoundDataSource nvidiaGpuFound (envs channel) channel s

/-- `initialize_data_source_binding` again: the same process has its key open, a later one
finds the values alone. -/
def restart (nvidiaGpuFound sameProcess : Bool) (envs : Nat → RegistryEnv) (count : Nat)
    (s : Windows) : Initialized Windows :=
  initializeDataSourceBinding true true count
    (fun tables => ⟨sameProcess && s.opened, s.registry, tables⟩)
    fun channel s => getBoundDataSource nvidiaGpuFound (envs channel) channel s

end PerformancePanel.Source.WindowsReader

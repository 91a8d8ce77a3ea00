import PerformancePanel.Source.NvidiaGpu
import PerformancePanel.Source.UmdfDriver
import PerformancePanel.Source.WindowsReader

/-!
# The driver as it is built

Source: platform/umdf.c with datasource/collector.c, datasource/windows/registryreader.c and
datasource/windows/gpu_nvidia.c. In UmdfDriver.lean the calls of the reader are inputs; here
they are made, on the stored settings, which outlive the image. What the framework, the
allocations, the registry, the transfers and NVAPI return stays an input.
-/
set_option autoImplicit false

namespace PerformancePanel.Source.InstalledDriver
open Common DataSources Collector PanelSetup Registry NvidiaGpu
open WindowsReader (Windows RegistryEnv)
open UmdfDriver (Driver WdfTimer Handle)

/-- The driver with the statics of its reader and its GPU, the values of the key, and the
calls NVAPI has got. -/
structure Installed where
  driver : Driver
  opened : Bool
  registry : RegistryKey
  gpu : Gpu
  nvCalls : List NvCall

/-- The image as it is loaded. -/
def loaded (registry : RegistryKey) : Installed :=
  ⟨UmdfDriver.driverEntry, false, registry, ⟨none, false⟩, []⟩

/-- What one `EvtDevicePrepareHardware` meets; `fuel` bounds the query's count loop. -/
structure Preparation where
  usbCreated : Bool
  configSelected : Bool
  queryStatus : Status
  queryReply : UInt8
  fuel : Nat
  callbacksAllocated : Bool
  calibrationsAllocated : Bool
  gpuEnv : GpuEnv
  envs : Nat → RegistryEnv
  timerCreated : Bool

/-- `initialize_data_source_binding`; the GPU is prepared once both arrays are allocated. -/
def initializeBinding (env : Preparation) (channelCount : UInt8) (s : Installed) : Installed :=
  let prepared := dataSourceNvidiaPrepare env.gpuEnv s.gpu
  match initializeDataSourceBinding env.callbacksAllocated env.calibrationsAllocated
    channelCount.toNat
      (fun tables => (⟨s.opened, s.registry, tables⟩ : Windows))
      (fun channel w => WindowsReader.getBoundDataSource prepared.1.nvidiaGpuFound
        (env.envs channel) channel w) with
  | .unallocated arrays => { s with driver := { s.driver with arrays := arrays } }
  | .bound w _ =>
    { driver := { s.driver with arrays := w.tables.arrays }
      opened := w.opened
      registry := w.registry
      gpu := prepared.1
      nvCalls := s.nvCalls ++ prepared.2 }

/-- The capability query of a preparation. -/
def queried (wdfDevice : Handle) (s : Installed) : Installed :=
  { s with driver := UmdfDriver.transferControl (some wdfDevice) [queryTransfer] s.driver }

/-- What a preparation does once the query has returned a count. -/
def counted (wdfDevice : Handle) (env : Preparation) (channelCount : UInt8) (s : Installed) :
    Installed :=
  let s := initializeBinding env channelCount s
  { s with
    driver := UmdfDriver.enterLoop env.timerCreated
      { s.driver with channelCount := channelCount, device := some wdfDevice } }

/-- `UsbPerformancePanelEvtDevicePrepareHardware`. -/
def prepareHardware (wdfDevice : Handle) (env : Preparation) (s : Installed) : Installed :=
  match UmdfDriver.ensureUsbDevice env.usbCreated s.driver with
  | none => s
  | some driver =>
    let s := { s with driver := driver }
    if env.configSelected then
      match getChannelCount env.fuel env.queryStatus env.queryReply with
      | none => queried wdfDevice s
      | some channelCount => counted wdfDevice env channelCount (queried wdfDevice s)
    else s

inductive Event where
  | imageLoaded
  | deviceAdd (created interfaceCreated : Bool)
  | prepareHardware (device : Handle) (env : Preparation)
  | timerFires (timer : WdfTimer) (env : TickEnv)
  | deviceRemoved (device : Handle)
  | driverContextCleanup

/-- What the framework can deliver, as in UmdfDriver.lean. -/
def delivered (s : Installed) : Event → Bool
  | .imageLoaded => true
  | .deviceAdd created interfaceCreated =>
    !s.driver.crashed && UmdfDriver.delivered s.driver (.deviceAdd created interfaceCreated)
  | .prepareHardware device _ =>
    !s.driver.crashed && (!s.driver.unloaded && device ∈ s.driver.liveDevices)
  | .timerFires timer env =>
    !s.driver.crashed && UmdfDriver.delivered s.driver (.timerFires timer env)
  | .deviceRemoved device =>
    !s.driver.crashed && UmdfDriver.delivered s.driver (.deviceRemoved device)
  | .driverContextCleanup =>
    !s.driver.crashed && UmdfDriver.delivered s.driver .driverContextCleanup

def callback (s : Installed) : Event → Installed
  | .imageLoaded => loaded s.registry
  | .deviceAdd created interfaceCreated =>
    { s with driver := UmdfDriver.createDevice created interfaceCreated s.driver }
  | .prepareHardware device env => prepareHardware device env s
  | .timerFires timer env =>
    { s with
      driver := UmdfDriver.monitorThreadFunction timer.parent env s.driver
      nvCalls := s.nvCalls ++ tickCalls s.gpu env s.driver.arrays s.driver.channelCount.toNat 0 }
  | .deviceRemoved device => { s with driver := UmdfDriver.deviceRemoved device s.driver }
  | .driverContextCleanup => { s with driver := UmdfDriver.driverContextCleanup s.driver }

def step (s : Installed) (e : Event) : Installed := if delivered s e then callback s e else s

/-- A preparation stops without a target, before the query or in it, or it runs to its end. -/
theorem prepareHardware_cases (wdfDevice : Handle) (env : Preparation) (s : Installed) :
    prepareHardware wdfDevice env s = s ∨
      ∃ usb next,
        let s' := { s with driver := { s.driver with usbDevice := some usb, nextHandle := next } }
        prepareHardware wdfDevice env s = s' ∨
        prepareHardware wdfDevice env s = queried wdfDevice s' ∨
        ∃ channelCount,
          getChannelCount env.fuel env.queryStatus env.queryReply = some channelCount ∧
          prepareHardware wdfDevice env s =
            counted wdfDevice env channelCount (queried wdfDevice s') := by
  unfold prepareHardware
  cases ensured : UmdfDriver.ensureUsbDevice env.usbCreated s.driver with
  | none => exact Or.inl rfl
  | some driver =>
    obtain ⟨usb, next, rfl, -, -⟩ := UmdfDriver.ensureUsbDevice_some ensured
    refine Or.inr ⟨usb, next, ?_⟩
    cases env.configSelected with
    | false => exact Or.inl rfl
    | true =>
      cases getChannelCount env.fuel env.queryStatus env.queryReply with
      | none => exact Or.inr (Or.inl rfl)
      | some channelCount => exact Or.inr (Or.inr ⟨channelCount, rfl, rfl⟩)

/-- Creating the timer leaves the rest. -/
theorem enterLoop_frame (timerCreated : Bool) (d : Driver) :
    (UmdfDriver.enterLoop timerCreated d).arrays = d.arrays ∧
      (UmdfDriver.enterLoop timerCreated d).channelCount = d.channelCount ∧
      (UmdfDriver.enterLoop timerCreated d).sent = d.sent := by
  unfold UmdfDriver.enterLoop
  cases d.device <;> cases timerCreated <;> exact ⟨rfl, rfl, rfl⟩

end PerformancePanel.Source.InstalledDriver

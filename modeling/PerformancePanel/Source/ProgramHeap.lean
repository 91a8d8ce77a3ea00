import PerformancePanel.Library.Pointers
import PerformancePanel.Source.FrontEnds
import PerformancePanel.Source.UmdfDriver
import PerformancePanel.Source.WinUsb

/-!
# The heap of the programs and the driver

Source: the allocations of datasource/collector.c and platform/winusb.c, and the two
`free` at the end of control/console_entry.c and control/mfc/control_panel.cpp. Pointers
are addresses; what the blocks hold is in Collector.lean and WinUsb.lean, whose branches
these definitions follow. The allocations are the same inputs as there. An access through
NULL meets no block and is not recorded. Of the MFC program the start, the timer and the end
are here; its windows access the two arrays as well and are not. Callbacks of the driver are
delivered one at a time (UmdfDriver.lean), so a preparation frees and allocates between two
ticks.
-/
set_option autoImplicit false

namespace PerformancePanel.Source.ProgramHeap
open Common DataSources Collector PanelSetup WinUsb Library.Pointers

/-! ## The binding arrays -/

/-- `data_source_callbacks` and `calibration_values`. -/
structure ArrayPointers where
  callbacks : Pointer
  calibrations : Pointer

/-- What the calls of `get_bound_data_source` write through their two pointers. -/
def boundTouches (env : Setup) (p : ArrayPointers) : (remaining i : Nat) → Heap → Heap
  | 0, _, h => h
  | remaining + 1, i, h =>
    let call := env.boundCall i
    let h := if call.callback.isSome then touch p.callbacks h else h
    let h := if call.calibration.isSome then touch p.calibrations h else h
    if call.status = .success then boundTouches env p remaining (i + 1) h else h

/-- `initialize_data_source_binding`. -/
def initializeHeap (env : Setup) (channelCount : UInt8) (p : ArrayPointers) (h : Heap) :
    ArrayPointers × Heap :=
  let h := free p.calibrations (free p.callbacks h)
  let callbacks := malloc env.callbacksAllocated h
  let calibrations := malloc env.calibrationsAllocated callbacks.2
  let p := ⟨callbacks.1, calibrations.1⟩
  if env.callbacksAllocated && env.calibrationsAllocated then
    (p, boundTouches env p channelCount.toNat 0 calibrations.2)
  else (p, calibrations.2)

/-- The reads of `main_loop_callback`, up to a fault or a failed transfer. -/
def tickTouches (env : TickEnv) (arrays : Arrays) (p : ArrayPointers) :
    (remaining i : Nat) → Heap → Heap
  | 0, _, h => h
  | remaining + 1, i, h =>
    match load arrays.callbacks i with
    | none => h
    | some none => tickTouches env arrays p remaining (i + 1) (touch p.callbacks h)
    | some (some _) =>
      match load arrays.calibrations i with
      | none => touch p.callbacks h
      | some _ =>
        let h := touch p.calibrations (touch p.callbacks h)
        if env.transfer i = .success then tickTouches env arrays p remaining (i + 1) h else h

/-! ## `open_device` of the WinUSB bridge -/

/-- `SetupDiGetDeviceInterfaceDetail` into the buffer, made larger if it is too small. -/
def interfaceHeap (d : Device) (lastError : UInt32) (detail : Pointer) (h : Heap) :
    Pointer × Heap :=
  let h := touch detail h
  if d.getInterfaceDetail.leaves lastError = errorInsufficientBuffer then
    let moved := realloc d.reallocated detail h
    if d.reallocated then (moved.1, touch moved.1 moved.2) else (detail, moved.2)
  else (detail, h)

/-- `device_interface_detail_data`, `device_path` and the heap. -/
structure DeviceBuffers where
  detail : Pointer
  devicePath : Pointer
  heap : Heap

/-- The loop of `open_device`. -/
def enumerateHeap : List Device → UInt32 → DeviceBuffers → DeviceBuffers
  | [], _, s => s
  | d :: rest, lastError, s =>
    if afterInterfaces d lastError = errorNoMoreItems then s
    else if d.enumDeviceInterfaces.succeeds then
      let read := interfaceHeap d (afterInterfaces d lastError) s.detail s.heap
      match interfaceDetail d (afterInterfaces d lastError) with
      | none => ⟨read.1, s.devicePath, read.2⟩
      | some (false, _) => ⟨read.1, s.devicePath, read.2⟩
      | some (true, lastError) =>
        let path := malloc d.pathAllocated (free s.devicePath (touch read.1 read.2))
        if d.pathAllocated then
          enumerateHeap rest lastError ⟨read.1, path.1, touch path.1 (touch read.1 path.2)⟩
        else ⟨read.1, none, path.2⟩
    else s

/-- `open_device`; `detail` is the buffer it has not freed when it returns. -/
def openHeap (env : OpenEnv) (h : Heap) : DeviceBuffers :=
  if env.getClassDevs then
    let buffer := malloc env.detailAllocated h
    if env.detailAllocated then
      let s := enumerateHeap env.devices env.lastError ⟨buffer.1, none, touch buffer.1 buffer.2⟩
      match enumerateDevices env.devices env.lastError none with
      | (some _, none) => ⟨none, s.devicePath, free s.detail (touch s.devicePath s.heap)⟩
      | (none, none) => s
      | (_, some _) => s
    else ⟨none, none, buffer.2⟩
  else ⟨none, none, h⟩

/-! ## The Windows programs -/

/-- The programs that go on whatever `open_device` returned. -/
inductive WindowsProgram where
  | console | mfc
  deriving DecidableEq, Repr

def WindowsProgram.frontEnd : WindowsProgram → FrontEnds.FrontEnd
  | .console => .consoleWindows
  | .mfc => .mfc

/-- A program with its pointers; `detail` is lost with the call that has left it. -/
structure HeapProgram where
  program : FrontEnds.Program
  detail : Pointer
  devicePath : Pointer
  arrays : ArrayPointers
  heap : Heap
  closed : Bool

/-- What a program meets up to its loop. -/
structure MainEnv where
  usb : OpenEnv
  setup : Setup

def MainEnv.startup (env : MainEnv) : FrontEnds.Startup :=
  { env.setup with openDevice := (WinUsb.openDevice env.usb .zeroed).2 }

def startHeap (w : WindowsProgram) (env : MainEnv) : HeapProgram :=
  let opened := openHeap env.usb empty
  let initialized : ArrayPointers × Heap := match env.setup.channelCount with
    | none => (⟨none, none⟩, opened.heap)
    | some channelCount => initializeHeap env.setup channelCount ⟨none, none⟩ opened.heap
  ⟨FrontEnds.start w.frontEnd env.startup, opened.detail, opened.devicePath, initialized.1,
    initialized.2, false⟩

/-- `close_device` and the two `free` behind it. -/
def closeHeap (s : HeapProgram) : Heap :=
  free s.arrays.calibrations (free s.arrays.callbacks (free s.devicePath s.heap))

/-- One event of a program. -/
def stepHeap (w : WindowsProgram) (s : HeapProgram) (e : FrontEnds.Event) : HeapProgram :=
  let program := FrontEnds.step w.frontEnd s.program e
  if s.program.running then
    match e with
    | .tick env =>
      { s with
        program := program
        heap := tickTouches env s.program.arrays s.arrays s.program.channelCount.toNat 0 s.heap }
    | .leave => { s with program := program, heap := closeHeap s, closed := true }
  else { s with program := program }

/-! ## The driver -/

/-- The driver with the pointers it keeps from one preparation to the next. -/
structure HeapDriver where
  driver : UmdfDriver.Driver
  arrays : ArrayPointers
  heap : Heap

def loadedDriver : HeapDriver := ⟨UmdfDriver.driverEntry, ⟨none, none⟩, empty⟩

/-- What an event does to the heap; a preparation that reaches the initialisation runs it. -/
def callbackHeap (s : HeapDriver) : UmdfDriver.Event → ArrayPointers × Heap
  | .prepareHardware _ env =>
    if (UmdfDriver.ensureUsbDevice env.usbCreated s.driver).isSome && env.configSelected then
      match env.channelCount with
      | none => (s.arrays, s.heap)
      | some channelCount => initializeHeap env.toSetup channelCount s.arrays s.heap
    else (s.arrays, s.heap)
  | .timerFires _ env =>
    (s.arrays, tickTouches env s.driver.arrays s.arrays s.driver.channelCount.toNat 0 s.heap)
  | _ => (s.arrays, s.heap)

def driverStep (s : HeapDriver) (e : UmdfDriver.Event) : HeapDriver :=
  let driver := UmdfDriver.step s.driver e
  if !s.driver.crashed && UmdfDriver.delivered s.driver e then
    ⟨driver, (callbackHeap s e).1, (callbackHeap s e).2⟩
  else { s with driver := driver }

end PerformancePanel.Source.ProgramHeap

import PerformancePanel.Library.Resources
import PerformancePanel.Source.Collector

/-!
# The libusb bridge

Source: platform/libusb.c. The calls made to the library are recorded with their arguments;
what the library answers is an input. `libusb_get_version` and `libusb_error_name`, which are
only printed, and the timeout of the transfers are left out. A handle is a number, NULL being
zero; the library never returns a handle that is NULL as an open one. Nothing closes the
default context, and a handle whose interface cannot be claimed stays in `device_handle`,
open.
-/
set_option autoImplicit false

namespace PerformancePanel.Source.LibUsb
open Common Collector Library.Resources

/-- The value of a `libusb_device_handle *`. -/
abbrev DeviceHandle := Nat

inductive PanelPid where
  | cbc | hz
  deriving DecidableEq, Repr

/-- `PANEL_VID`. -/
def panelVid : UInt16 := 0x0cbc

/-- `panel_pid_t`. -/
def PanelPid.value : PanelPid → UInt16
  | .cbc => 0x0cbc
  | .hz => 0xcbc0

/-- `host_operation_command_t`. -/
def commandValue : HostOperationCommand → UInt8
  | .queryCap => 0xFF
  | .setUsage => 0xFE

inductive Call where
  | initContext (succeeds : Bool)
  | openDeviceWithVidPid (vid pid : UInt16) (handle : DeviceHandle)
  | claimInterface (handle : DeviceHandle) (number : Nat) (succeeds : Bool)
  | controlTransfer (handle : DeviceHandle) (requestType request : UInt8)
      (value index length : UInt16)
  | releaseInterface (handle : DeviceHandle) (number : Nat)
  | close (handle : DeviceHandle)
  deriving DecidableEq, Repr

/-- What one `open_device` meets; zero is no device with these ids. -/
structure OpenEnv where
  initContext : Bool
  openDevice : PanelPid → DeviceHandle
  claimInterface : DeviceHandle → Bool

/-- What `open_device` has called, left in `device_handle` and returned. -/
structure Opened where
  calls : List Call
  deviceHandle : DeviceHandle
  status : Status
  deriving DecidableEq, Repr

def tryOpen (env : OpenEnv) (pid : PanelPid) : Call :=
  .openDeviceWithVidPid panelVid pid.value (env.openDevice pid)

/-- `open_device` of a process, whose `device_handle` is NULL. -/
def openDevice (env : OpenEnv) : Opened :=
  if env.initContext then
    let cbc := env.openDevice .cbc
    let deviceHandle := if cbc = 0 then env.openDevice .hz else cbc
    let tried := .initContext true :: tryOpen env .cbc :: if cbc = 0 then [tryOpen env .hz] else []
    if deviceHandle = 0 then ⟨tried, 0, .deviceNotFound⟩
    else
      let claimed := env.claimInterface deviceHandle
      ⟨tried ++ [.claimInterface deviceHandle 0 claimed], deviceHandle,
        if claimed then .success else .deviceConfigurationFailed⟩
  else ⟨[.initContext false], 0, .driverInitializationFailed⟩

/-- `close_device`. -/
def closeDevice (deviceHandle : DeviceHandle) : List Call :=
  [.releaseInterface deviceHandle 0, .close deviceHandle]

/-- `LIBUSB_REQUEST_TYPE_VENDOR|LIBUSB_RECIPIENT_DEVICE` with the direction of the buffer. -/
def requestType (retbuflen : UInt16) : UInt8 :=
  if retbuflen ≠ 0 then 0x40 ||| 0x80 else 0x40 ||| 0x00

/-- `transfer_control`. -/
def transferControl (deviceHandle : DeviceHandle) (transfer : ControlTransfer)
    (retbuflen : UInt16) : Call :=
  .controlTransfer deviceHandle (requestType retbuflen) (commandValue transfer.command)
    transfer.value 0 retbuflen

/-- The status of a transfer for which the library returns `ret`. -/
def transferStatus (ret : Int) : Status := if ret < 0 then .deviceConfigurationFailed else .success

/-! ## What the calls act on -/

inductive Resource where
  | context
  | handle (h : DeviceHandle)
  | interface (h : DeviceHandle)
  deriving DecidableEq, Repr

/-- What a call acts on. Transfers on the default endpoint need an open handle alone. -/
def Call.actions : Call → List (Action Resource)
  | .initContext succeeds => if succeeds then [.acquire .context] else []
  | .openDeviceWithVidPid _ _ h => .use .context :: if h = 0 then [] else [.acquire (.handle h)]
  | .claimInterface h _ succeeds =>
    .use (.handle h) :: if succeeds then [.acquire (.interface h)] else []
  | .controlTransfer h _ _ _ _ _ => [.use (.handle h)]
  | .releaseInterface h _ => [.use (.handle h), .release (.interface h)]
  | .close h => [.release (.handle h)]

/-- What is held after some calls of a process; `none` is a call on something not held. -/
def heldAfter (calls : List Call) : Option (Finset Resource) := acts ∅ (calls.flatMap Call.actions)

theorem heldAfter_append (first rest : List Call) : heldAfter (first ++ rest) =
    (heldAfter first).bind (acts · (rest.flatMap Call.actions)) := by
  rw [heldAfter, List.flatMap_append, acts_append]
  rfl

/-! ## What opening holds -/

/-- The panel that is opened: a CBC one if there is one. -/
def selected (env : OpenEnv) : DeviceHandle :=
  if env.openDevice .cbc = 0 then env.openDevice .hz else env.openDevice .cbc

/-- Opening succeeds with the context, a panel and its interface held; it fails with the
library not initialised, with no panel, or with one whose interface is not claimed. -/
theorem openDevice_cases (env : OpenEnv) :
    ((openDevice env).status = .success ∧ (openDevice env).deviceHandle = selected env ∧
      selected env ≠ 0 ∧
      heldAfter (openDevice env).calls =
        some {.interface (selected env), .handle (selected env), .context}) ∨
    ((openDevice env).status = .deviceConfigurationFailed ∧
      (openDevice env).deviceHandle = selected env ∧
      selected env ≠ 0 ∧
      heldAfter (openDevice env).calls = some {.handle (selected env), .context}) ∨
    ((openDevice env).status = .deviceNotFound ∧ (openDevice env).deviceHandle = 0 ∧
      heldAfter (openDevice env).calls = some {.context}) ∨
    ((openDevice env).status = .driverInitializationFailed ∧ (openDevice env).deviceHandle = 0 ∧
      heldAfter (openDevice env).calls = some ∅) := by
  obtain ⟨initialised, opens, claims⟩ := env
  cases initialised with
  | false => exact Or.inr (Or.inr (Or.inr ⟨rfl, rfl, rfl⟩))
  | true =>
    -- the handle that is tried first, then the other one
    by_cases cbc : opens .cbc = 0
    · by_cases hz : opens .hz = 0
      · refine Or.inr (Or.inr (Or.inl ?_))
        simp [openDevice, cbc, hz, heldAfter, tryOpen, Call.actions, acts_cons, act]
      · cases claimed : claims (opens .hz) with
        | true =>
          refine Or.inl ?_
          simp [openDevice, selected, cbc, hz, claimed, heldAfter, tryOpen, Call.actions,
            acts_cons, act]
        | false =>
          refine Or.inr (Or.inl ?_)
          simp [openDevice, selected, cbc, hz, claimed, heldAfter, tryOpen, Call.actions,
            acts_cons, act]
    · cases claimed : claims (opens .cbc) with
      | true =>
        refine Or.inl ?_
        simp [openDevice, selected, cbc, claimed, heldAfter, tryOpen, Call.actions, acts_cons, act]
      | false =>
        refine Or.inr (Or.inl ?_)
        simp [openDevice, selected, cbc, claimed, heldAfter, tryOpen, Call.actions, acts_cons, act]

end PerformancePanel.Source.LibUsb

import PerformancePanel.Library.OwnedObjects
import PerformancePanel.Source.PanelSetup

/-!
# The UMDF driver

Source: platform/umdf.c. Its statics `UsbDevice`, `Timer`, `Device` and `channel_count`
serve every panel, and no code resets them. The framework is modelled by the objects that
exist: a WDFDEVICE until its removal, and the periodic timers until their parent is
deleted; a WDFUSBDEVICE is named with the device it was created on. Outcomes of framework
calls are inputs. Callbacks are delivered one at a time, and the framework
(`delivered`) prepares only devices that exist, fires only active timers, and after the
cleanup of the driver object neither adds nor prepares a device.
-/
set_option autoImplicit false

namespace PerformancePanel.Source.UmdfDriver
open Common DataSources Collector PanelSetup
open Library.OwnedObjects (deleteChildren)

abbrev Handle := Nat

structure WdfUsbDevice where
  handle : Handle
  parent : Handle
  deriving DecidableEq, Repr

structure WdfTimer where
  handle : Handle
  parent : Handle
  active : Bool
  deriving DecidableEq, Repr

/-- A control transfer as it was issued: the target is what `UsbDevice` held, and
`liveDevices` are the device objects that existed. `preparedDevice` is the device whose
preparation issued it or started the loop that did; zeroing at cleanup has none. -/
structure Transfer where
  target : Option WdfUsbDevice
  preparedDevice : Option Handle
  liveDevices : List Handle
  packet : ControlTransfer
  deriving DecidableEq

/-- The statics, the framework's objects and every transfer so far. `crashed` is a host
process that a tick has brought down. -/
structure Driver where
  usbDevice : Option WdfUsbDevice
  timer : Option Handle
  device : Option Handle
  channelCount : UInt8
  arrays : Arrays
  lastTimes : SystemTimes
  liveDevices : List Handle
  timers : List WdfTimer
  nextHandle : Handle
  unloaded : Bool
  crashed : Bool
  sent : List Transfer

/-- The image after `DriverEntry`. -/
def driverEntry : Driver where
  usbDevice := none
  timer := none
  device := none
  channelCount := 0
  arrays := ⟨none, none⟩
  lastTimes := SystemTimes.zero
  liveDevices := []
  timers := []
  nextHandle := 0
  unloaded := false
  crashed := false
  sent := []

/-- `transfer_control`: every packet goes to the static `UsbDevice`. -/
def transferControl (preparedDevice : Option Handle) (packets : List ControlTransfer) (s : Driver) :
    Driver :=
  { s with sent := s.sent ++ packets.map fun packet =>
      ⟨s.usbDevice, preparedDevice, s.liveDevices, packet⟩ }

/-- `UsbPerformancePanelCreateDevice`. When the interface cannot be created the callback
fails and the framework deletes the device that `Device` names. -/
def createDevice (created interfaceCreated : Bool) (s : Driver) : Driver :=
  if created then
    { s with
      device := some s.nextHandle
      nextHandle := s.nextHandle + 1
      liveDevices := if interfaceCreated then s.liveDevices ++ [s.nextHandle] else s.liveDevices }
  else s

/-- `enter_loop`: a failed creation clears `Timer`, whatever it named. -/
def enterLoop (timerCreated : Bool) (s : Driver) : Driver :=
  match s.device with
  | some parent =>
    if timerCreated then
      { s with
        timer := some s.nextHandle
        nextHandle := s.nextHandle + 1
        timers := s.timers ++ [⟨s.nextHandle, parent, true⟩] }
    else { s with timer := none }
  | none => { s with timer := none }

/-- What one `EvtDevicePrepareHardware` meets. -/
structure Preparation extends Setup where
  usbCreated : Bool
  configSelected : Bool
  timerCreated : Bool

/-- Every call succeeds, on a panel that answers the query with `reply`. -/
def allSucceed (reply : UInt8) : Preparation where
  queryStatus := .success
  queryReply := reply
  fuel := 0
  callbacksAllocated := true
  calibrationsAllocated := true
  boundCall := fun _ => ⟨none, none, .success⟩
  usbCreated := true
  configSelected := true
  timerCreated := true

/-- The first branch of `EvtDevicePrepareHardware`; `none` is its failure. -/
def ensureUsbDevice (usbCreated : Bool) (s : Driver) : Option Driver :=
  match s.usbDevice with
  | some _ => some s
  | none =>
    match s.device with
    | some parent =>
      if usbCreated then
        some { s with usbDevice := some ⟨s.nextHandle, parent⟩, nextHandle := s.nextHandle + 1 }
      else none
    | none => none

/-- `UsbPerformancePanelEvtDevicePrepareHardware`. A query that does not return leaves the
rest undone. -/
def prepareHardware (wdfDevice : Handle) (env : Preparation) (s : Driver) : Driver :=
  match ensureUsbDevice env.usbCreated s with
  | none => s
  | some s =>
    if env.configSelected then
      let s := transferControl (some wdfDevice) [queryTransfer] s
      match env.channelCount with
      | none => s
      | some channelCount =>
        enterLoop env.timerCreated
          { s with
            channelCount := channelCount
            arrays := (initializeArrays env.toSetup channelCount).1
            device := some wdfDevice }
    else s

/-- `MonitorThreadFunction`, run by a timer created on `parent`. -/
def monitorThreadFunction (parent : Handle) (env : TickEnv) (s : Driver) : Driver :=
  let done := mainLoopCallback env s.channelCount s.arrays s.lastTimes
  let s := transferControl (some parent) done.transfers s
  { s with lastTimes := done.lastTimes, crashed := isFault done.outcome }

/-- `WdfTimerStop`. -/
def stopTimer (handle : Handle) (s : Driver) : Driver :=
  { s with
    timers := s.timers.map fun t => if t.handle = handle then { t with active := false } else t }

/-- `UsbPerformancePanelEvtDriverContextCleanup`. -/
def driverContextCleanup (s : Driver) : Driver :=
  let s := match s.timer with
    | some handle => stopTimer handle s
    | none => s
  let s := transferControl none (zeroLevels s.channelCount) s
  { s with unloaded := true }

/-- The framework deletes a device object and with it the timers created on it. -/
def deviceRemoved (device : Handle) (s : Driver) : Driver :=
  { s with
    liveDevices := s.liveDevices.filter (· ≠ device)
    timers := deleteChildren WdfTimer.parent device s.timers }

inductive Event where
  | deviceAdd (created interfaceCreated : Bool)
  | prepareHardware (device : Handle) (env : Preparation)
  | timerFires (timer : WdfTimer) (env : TickEnv)
  | deviceRemoved (device : Handle)
  | driverContextCleanup

/-- What the framework can deliver. -/
def delivered (s : Driver) : Event → Bool
  | .deviceAdd _ _ => !s.unloaded
  | .prepareHardware device _ => !s.unloaded && device ∈ s.liveDevices
  | .timerFires timer _ => timer.active && timer ∈ s.timers
  | .deviceRemoved device => device ∈ s.liveDevices
  | .driverContextCleanup => !s.unloaded

def callback (s : Driver) : Event → Driver
  | .deviceAdd created interfaceCreated => createDevice created interfaceCreated s
  | .prepareHardware device env => prepareHardware device env s
  | .timerFires timer env => monitorThreadFunction timer.parent env s
  | .deviceRemoved device => deviceRemoved device s
  | .driverContextCleanup => driverContextCleanup s

/-- One event; one that cannot be delivered changes nothing. -/
def step (s : Driver) (e : Event) : Driver :=
  if !s.crashed && delivered s e then callback s e else s

/-! ## What a preparation does -/

/-- The preparation issues the query. -/
def ReachesQuery (s : Driver) (env : Preparation) : Prop :=
  (ensureUsbDevice env.usbCreated s).isSome = true ∧ env.configSelected = true

/-- The preparation runs `enter_loop`. -/
def ReachesLoop (s : Driver) (env : Preparation) : Prop :=
  ReachesQuery s env ∧ env.channelCount.isSome = true

/-- The first branch changes `UsbDevice` only when it is NULL, to a target on `Device`. -/
theorem ensureUsbDevice_some {usbCreated : Bool} {s s' : Driver}
    (ensured : ensureUsbDevice usbCreated s = some s') :
    ∃ usb next, s' = { s with usbDevice := some usb, nextHandle := next } ∧ s.nextHandle ≤ next ∧
      (s.usbDevice = some usb ∨ (s.usbDevice = none ∧ s.device = some usb.parent)) := by
  unfold ensureUsbDevice at ensured
  split at ensured
  next usb present =>
    cases ensured
    refine ⟨usb, s.nextHandle, ?_, le_rfl, .inl present⟩
    rw [← present]
  next absent =>
    split at ensured
    next parent device =>
      split at ensured
      · cases ensured
        exact ⟨⟨s.nextHandle, parent⟩, s.nextHandle + 1, rfl, Nat.le_succ _, .inr ⟨absent, device⟩⟩
      · cases ensured
    next => cases ensured

theorem enterLoop_created {s : Driver} {parent : Handle} (device : s.device = some parent) :
    enterLoop true s =
      { s with
        timer := some s.nextHandle
        nextHandle := s.nextHandle + 1
        timers := s.timers ++ [⟨s.nextHandle, parent, true⟩] } := by
  simp [enterLoop, device]

theorem enterLoop_failed (s : Driver) : enterLoop false s = { s with timer := none } := by
  unfold enterLoop
  cases s.device <;> rfl

/-- What the driver holds when a preparation runs `enter_loop`. -/
def beforeLoop (wdfDevice : Handle) (env : Preparation) (channelCount : UInt8) (s : Driver) :
    Driver :=
  { transferControl (some wdfDevice) [queryTransfer] s with
    channelCount := channelCount
    arrays := (initializeArrays env.toSetup channelCount).1
    device := some wdfDevice }

/-- A preparation stops without a target, stops before the query, hangs in it, or runs
`enter_loop`. -/
theorem prepareHardware_cases (wdfDevice : Handle) (env : Preparation) (s : Driver) :
    (¬ ReachesQuery s env ∧ prepareHardware wdfDevice env s = s) ∨
      ∃ usb next, s.nextHandle ≤ next ∧
        (s.usbDevice = some usb ∨ (s.usbDevice = none ∧ s.device = some usb.parent)) ∧
        let s' := { s with usbDevice := some usb, nextHandle := next }
        (¬ ReachesQuery s env ∧ prepareHardware wdfDevice env s = s') ∨
        (ReachesQuery s env ∧ ¬ ReachesLoop s env ∧
          prepareHardware wdfDevice env s = transferControl (some wdfDevice) [queryTransfer] s') ∨
        (ReachesLoop s env ∧ ∃ channelCount, prepareHardware wdfDevice env s =
          enterLoop env.timerCreated (beforeLoop wdfDevice env channelCount s')) := by
  unfold ReachesLoop ReachesQuery prepareHardware
  cases ensured : ensureUsbDevice env.usbCreated s with
  | none => exact .inl ⟨by simp, rfl⟩
  | some s' =>
    obtain ⟨usb, next, rfl, later, owner⟩ := ensureUsbDevice_some ensured
    refine .inr ⟨usb, next, later, owner, ?_⟩
    cases env.configSelected with
    | false => exact .inl ⟨by simp, rfl⟩
    | true =>
      cases env.channelCount with
      | none => exact .inr (.inl ⟨by simp, by simp, rfl⟩)
      | some channelCount => exact .inr (.inr ⟨by simp, channelCount, rfl⟩)

end PerformancePanel.Source.UmdfDriver

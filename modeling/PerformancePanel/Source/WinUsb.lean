import PerformancePanel.Source.Collector

/-!
# The WinUSB bridge

Source: platform/winusb.c, `open_device` and `transfer_control`. What the SetupDi calls,
the allocations, `CreateFile` and `WinUsb_Initialize` return is an input. The thread's last
error is threaded through the enumeration: a call sets it or leaves what was there, and the
decisions that read it are taken on whatever it then is. Every front end opens once, on
zeroed statics.
-/
set_option autoImplicit false

namespace PerformancePanel.Source.WinUsb
open Common Collector

/-- The value of a `HANDLE`: NULL, `INVALID_HANDLE_VALUE` or an open one. -/
inductive Handle where
  | null | invalidHandleValue
  | opened (id : Nat)
  deriving DecidableEq, Repr

/-- `device_path`, `device_file_handle` and `winusb_file_handle`. -/
structure Statics where
  devicePath : Option Name
  deviceFileHandle : Handle
  winusbFileHandle : Handle
  deriving DecidableEq, Repr

def Statics.zeroed : Statics := ⟨none, .null, .null⟩

def errorInsufficientBuffer : UInt32 := 122

def errorNoMoreItems : UInt32 := 259

/-- One call: what it returns, and the last error it sets if it sets one. -/
structure SetupCall where
  succeeds : Bool
  setsLastError : Option UInt32
  deriving DecidableEq, Repr

def SetupCall.leaves (call : SetupCall) (lastError : UInt32) : UInt32 :=
  call.setsLastError.getD lastError

/-- A device for which `SetupDiEnumDeviceInfo` returns TRUE: the path of its interface and
what the calls of its pass of the loop meet. -/
structure Device where
  devicePath : Name
  enumDeviceInfoSets : Option UInt32
  enumDeviceInterfaces : SetupCall
  getInterfaceDetail : SetupCall
  reallocated : Bool
  getInterfaceDetailAgain : SetupCall
  pathAllocated : Bool
  deriving DecidableEq, Repr

/-- `WinUsb_Initialize`: its result, and `winusb_file_handle` after it. -/
structure Initialization where
  succeeds : Bool
  handle : Handle
  deriving DecidableEq, Repr

/-- What one `open_device` meets; `lastError` is the thread's when the loop is entered. -/
structure OpenEnv where
  getClassDevs : Bool
  detailAllocated : Bool
  lastError : UInt32
  devices : List Device
  createFile : Name → Handle
  winUsbInitialize : Handle → Initialization

/-- The last error that is compared with `ERROR_NO_MORE_ITEMS`. -/
def afterInterfaces (d : Device) (lastError : UInt32) : UInt32 :=
  d.enumDeviceInterfaces.leaves (d.enumDeviceInfoSets.getD lastError)

/-- `SetupDiGetDeviceInterfaceDetail`, made again with a larger buffer if the last error is
`ERROR_INSUFFICIENT_BUFFER`, whatever the first call returned: the result and the last
error. `none` is a failed `realloc`. -/
def interfaceDetail (d : Device) (lastError : UInt32) : Option (Bool × UInt32) :=
  let lastError := d.getInterfaceDetail.leaves lastError
  if lastError = errorInsufficientBuffer then
    if d.reallocated then
      some (d.getInterfaceDetailAgain.succeeds, d.getInterfaceDetailAgain.leaves lastError)
    else none
  else some (d.getInterfaceDetail.succeeds, lastError)

/-- The loop of `open_device`: `device_path` after it, and the status of a return inside it. -/
def enumerateDevices : List Device → UInt32 → Option Name → Option Name × Option Status
  | [], _, devicePath => (devicePath, none)
  | d :: rest, lastError, devicePath =>
    if afterInterfaces d lastError = errorNoMoreItems then (devicePath, none)
    else if d.enumDeviceInterfaces.succeeds then
      match interfaceDetail d (afterInterfaces d lastError) with
      | none => (devicePath, some .deviceConfigurationFailed)
      | some (false, _) => (devicePath, some .deviceConfigurationFailed)
      | some (true, lastError) =>
        -- the old path is freed before the allocation of the new one
        if d.pathAllocated then enumerateDevices rest lastError (some d.devicePath)
        else (none, some .deviceConfigurationFailed)
    else (devicePath, some .deviceConfigurationFailed)

/-- `open_device`. A failing `CreateFile` is only printed; the result of `WinUsb_Initialize`
is not looked at, and its handle is only compared with `INVALID_HANDLE_VALUE` to print. -/
def openDevice (env : OpenEnv) (s : Statics) : Statics × Status :=
  if env.getClassDevs then
    if env.detailAllocated then
      match enumerateDevices env.devices env.lastError s.devicePath with
      | (devicePath, some status) => ({ s with devicePath := devicePath }, status)
      | (none, none) => ({ s with devicePath := none }, .deviceNotFound)
      | (some path, none) =>
        let deviceFileHandle := env.createFile path
        let initialized := env.winUsbInitialize deviceFileHandle
        (⟨some path, deviceFileHandle, initialized.handle⟩, .success)
    else (s, .deviceConfigurationFailed)
  else (s, .deviceNotFound)

def bmrequestToDevice : UInt8 := 0

def bmrequestDeviceToHost : UInt8 := 1

def bmrequestVendor : UInt8 := 2

def requestType : UInt8 :=
  bmrequestVendor <<< 5 ||| bmrequestToDevice ||| bmrequestDeviceToHost <<< 7

/-- What `WinUsb_ControlTransfer` is called with; `length` is the packet's, the buffer's is
passed beside it. -/
structure ControlCall where
  handle : Handle
  requestType : UInt8
  transfer : ControlTransfer
  length : UInt16
  bufferLength : UInt32
  deriving DecidableEq, Repr

def transferControl (s : Statics) (transfer : ControlTransfer) (retbuflen : Nat) (succeeds : Bool) :
    ControlCall × Status :=
  (⟨s.winusbFileHandle, requestType, transfer, 0, UInt32.ofNat retbuflen⟩,
    if succeeds then .success else .transferFailed)

/-! ## What the enumeration selects -/

/-- The loop ends at this device with what it has. -/
def Stops (lastError : UInt32) (d : Device) : Prop := afterInterfaces d lastError = errorNoMoreItems

/-- Every call made for the device succeeds; `after` is the last error they leave. -/
structure Passes (lastError : UInt32) (d : Device) (after : UInt32) : Prop where
  goesOn : ¬ Stops lastError d
  interfaces : d.enumDeviceInterfaces.succeeds = true
  detail : interfaceDetail d (afterInterfaces d lastError) = some (true, after)
  path : d.pathAllocated = true

/-- No further device is looked at. -/
def Ends (lastError : UInt32) : List Device → Prop
  | [] => True
  | d :: _ => Stops lastError d

/-- The device with this path passes after all before it did, and the loop ends behind it. -/
inductive Selects : UInt32 → List Device → Name → Prop where
  | last {lastError after : UInt32} {d : Device} {rest : List Device} :
      Passes lastError d after → Ends after rest → Selects lastError (d :: rest) d.devicePath
  | later {lastError after : UInt32} {d : Device} {rest : List Device} {path : Name} :
      Passes lastError d after → Selects after rest path → Selects lastError (d :: rest) path

theorem Selects.enumerated {lastError : UInt32} {devices : List Device} {path : Name}
    (selected : Selects lastError devices path) : ∃ d ∈ devices, d.devicePath = path := by
  induction selected with
  | @last lastError after d rest passes ends => exact ⟨d, List.mem_cons_self, rfl⟩
  | @later lastError after d rest path passes selected ih =>
    obtain ⟨d', member, same⟩ := ih
    exact ⟨d', List.mem_cons_of_mem d member, same⟩

theorem Passes.unique {lastError after after' : UInt32} {d : Device}
    (passes : Passes lastError d after) (passes' : Passes lastError d after') : after = after' := by
  have details := passes.detail.symm.trans passes'.detail
  simpa using details

/-- Selecting from a list starts with its first device passing. -/
theorem selects_cons {lastError after : UInt32} {d : Device} {rest : List Device} {path : Name}
    (passes : Passes lastError d after) :
    Selects lastError (d :: rest) path ↔
      Selects after rest path ∨ (Ends after rest ∧ some d.devicePath = some path) := by
  constructor
  · intro selected
    cases selected with
    | last passes' ends => exact Or.inr ⟨passes.unique passes' ▸ ends, rfl⟩
    | later passes' selected => exact Or.inl (passes.unique passes' ▸ selected)
  · rintro (selected | ⟨ends, same⟩)
    · exact .later passes selected
    · cases same
      exact .last passes ends

theorem not_selects {lastError : UInt32} {d : Device} {rest : List Device} {path : Name}
    (fails : ∀ after, ¬ Passes lastError d after) : ¬ Selects lastError (d :: rest) path := by
  intro selected
  cases selected with
  | last passes ends => exact fails _ passes
  | later passes selected => exact fails _ passes

section loop
variable {lastError : UInt32} {d : Device} {rest : List Device} {devicePath : Option Name}

theorem enumerateDevices_stops (stops : Stops lastError d) :
    enumerateDevices (d :: rest) lastError devicePath = (devicePath, none) := by
  unfold enumerateDevices
  exact if_pos stops

theorem enumerateDevices_passes {after : UInt32} (passes : Passes lastError d after) :
    enumerateDevices (d :: rest) lastError devicePath =
      enumerateDevices rest after (some d.devicePath) := by
  have goesOn : ¬ afterInterfaces d lastError = errorNoMoreItems := passes.goesOn
  conv => lhs; unfold enumerateDevices
  rw [if_neg goesOn, if_pos passes.interfaces, passes.detail]
  exact if_pos passes.path

/-- A device at which the loop neither ends nor passes makes `open_device` return. -/
theorem enumerateDevices_fails (goesOn : ¬ Stops lastError d)
    (fails : ∀ after, ¬ Passes lastError d after) :
    ∃ left, enumerateDevices (d :: rest) lastError devicePath =
      (left, some .deviceConfigurationFailed) := by
  have here : ¬ afterInterfaces d lastError = errorNoMoreItems := goesOn
  unfold enumerateDevices
  rw [if_neg here]
  split
  next interfaces =>
    split
    next => exact ⟨_, rfl⟩
    next => exact ⟨_, rfl⟩
    next after detail =>
      split
      next path => exact absurd ⟨goesOn, interfaces, detail, path⟩ (fails after)
      next => exact ⟨_, rfl⟩
  next => exact ⟨_, rfl⟩

end loop

/-- The loop returns with nothing but `STATUS_DEVICE_CONFIGURATION_FAILED`, and ends with a
path exactly when it selects one, or ends at once with the path it was given. -/
theorem enumerateDevices_spec (devices : List Device) (lastError : UInt32)
    (devicePath : Option Name) :
    (∀ status, (enumerateDevices devices lastError devicePath).2 = some status →
      status = .deviceConfigurationFailed) ∧
    ∀ path, enumerateDevices devices lastError devicePath = (some path, none) ↔
      Selects lastError devices path ∨ (Ends lastError devices ∧ devicePath = some path) := by
  induction devices generalizing lastError devicePath with
  | nil =>
    refine ⟨fun status returned => (by cases returned), fun path => ?_⟩
    constructor
    · intro ended
      exact Or.inr ⟨trivial, congrArg Prod.fst ended⟩
    · rintro (selected | ⟨_, given⟩)
      · cases selected
      · exact congrArg (·, none) given
  | cons d rest ih =>
    by_cases stops : Stops lastError d
    · have unselected (path : Name) : ¬ Selects lastError (d :: rest) path :=
        not_selects fun _ passes => passes.goesOn stops
      rw [enumerateDevices_stops stops]
      refine ⟨fun status returned => (by cases returned), fun path => ?_⟩
      constructor
      · intro ended
        exact Or.inr ⟨stops, congrArg Prod.fst ended⟩
      · rintro (selected | ⟨_, given⟩)
        · exact absurd selected (unselected path)
        · exact congrArg (·, none) given
    · by_cases passed : ∃ after, Passes lastError d after
      · obtain ⟨after, passes⟩ := passed
        rw [enumerateDevices_passes passes]
        refine ⟨(ih after (some d.devicePath)).1, fun path => ?_⟩
        rw [(ih after (some d.devicePath)).2 path, selects_cons passes]
        constructor
        · exact Or.inl
        · rintro (selected | ⟨ends, _⟩)
          · exact selected
          · exact absurd ends stops
      · have fails := not_exists.mp passed
        obtain ⟨left, returned⟩ := @enumerateDevices_fails lastError d rest devicePath stops fails
        rw [returned]
        refine ⟨fun status same => (Option.some.inj same).symm, fun path => ?_⟩
        constructor
        · intro ended
          cases congrArg Prod.snd ended
        · rintro (selected | ⟨ends, _⟩)
          · exact absurd selected (not_selects fails)
          · exact absurd ends stops

/-- `open_device` gets as far as `CreateFile`, with this path. -/
structure Reaches (env : OpenEnv) (path : Name) : Prop where
  found : env.getClassDevs = true
  allocated : env.detailAllocated = true
  selects : Selects env.lastError env.devices path

/-- What the first call of a process leaves and returns. Nothing after the enumeration
changes the status. -/
theorem openDevice_spec (env : OpenEnv) :
    (∃ path, Reaches env path ∧ openDevice env .zeroed =
        (⟨some path, env.createFile path, (env.winUsbInitialize (env.createFile path)).handle⟩,
          .success)) ∨
      ((∀ path, ¬ Reaches env path) ∧
        ((openDevice env .zeroed).2 = .deviceNotFound ∨
          (openDevice env .zeroed).2 = .deviceConfigurationFailed)) := by
  obtain ⟨returns, selects⟩ := enumerateDevices_spec env.devices env.lastError none
  unfold openDevice
  by_cases found : env.getClassDevs = true
  · rw [if_pos found]
    by_cases allocated : env.detailAllocated = true
    · rw [if_pos allocated]
      simp only [Statics.zeroed]
      rcases ended : enumerateDevices env.devices env.lastError none with ⟨devicePath, status⟩
      have unselected (path : Name) (other : (devicePath, status) ≠ (some path, none)) :
          ¬ Reaches env path := fun reached =>
        other (ended.symm.trans ((selects path).mpr (Or.inl reached.selects)))
      cases status with
      | some status =>
        have failed : status = .deviceConfigurationFailed :=
          returns status (congrArg Prod.snd ended)
        exact Or.inr ⟨fun path => unselected path (by simp), Or.inr failed⟩
      | none =>
        cases devicePath with
        | none => exact Or.inr ⟨fun path => unselected path (by simp), Or.inl rfl⟩
        | some path =>
          have selected : Selects env.lastError env.devices path := by
            rcases (selects path).mp ended with selected | ⟨_, given⟩
            · exact selected
            · cases given
          exact Or.inl ⟨path, ⟨found, allocated, selected⟩, rfl⟩
    · rw [if_neg allocated]
      exact Or.inr ⟨fun path reached => allocated reached.allocated, Or.inr rfl⟩
  · rw [if_neg found]
    exact Or.inr ⟨fun path reached => found reached.found, Or.inl rfl⟩

end PerformancePanel.Source.WinUsb

import PerformancePanel.Source.WinUsb

/-!
# Opening the panel through WinUSB

After the enumeration `open_device` returns `STATUS_SUCCESS` whatever `CreateFile` and
`WinUsb_Initialize` do: it prints the failure of the one and does not look at the result of
the other. Its success means an initialised handle exactly when both succeed whenever the
enumeration gets that far; a last error left over from an earlier call changes which path
is selected, if any, but never makes a false success of its own.
-/
set_option autoImplicit false

namespace PerformancePanel.Guarantees.DeviceOpening
open Source Source.Common Source.Collector Source.WinUsb

/-- What the caller of a successful `open_device` relies on. -/
structure Initialised (env : OpenEnv) (s : Statics) : Prop where
  enumerated : ∃ d ∈ env.devices, s.devicePath = some d.devicePath
  opened : ∃ id, s.deviceFileHandle = .opened id
  initialised : (env.winUsbInitialize s.deviceFileHandle).succeeds = true
  transfers : ∀ transfer retbuflen succeeds,
    (transferControl s transfer retbuflen succeeds).1.handle =
    (env.winUsbInitialize s.deviceFileHandle).handle

/-- The property: success with everything initialised, or an error status. -/
def Honest (env : OpenEnv) : Prop :=
  ((openDevice env .zeroed).2 = .success ∧ Initialised env (openDevice env .zeroed).1) ∨
    (openDevice env .zeroed).2 = .deviceNotFound ∨
      (openDevice env .zeroed).2 = .deviceConfigurationFailed

/-- The condition on what the two opening calls return for a selected path. -/
def Opens (env : OpenEnv) (path : Name) : Prop :=
  (∃ id, env.createFile path = .opened id) ∧
    (env.winUsbInitialize (env.createFile path)).succeeds = true

theorem initialised_iff {env : OpenEnv} {path : Name} (reached : Reaches env path) :
    Initialised env
        ⟨some path, env.createFile path, (env.winUsbInitialize (env.createFile path)).handle⟩ ↔
      Opens env path := by
  constructor
  · intro initialised
    exact ⟨initialised.opened, initialised.initialised⟩
  · intro opens
    obtain ⟨d, member, same⟩ := reached.selects.enumerated
    exact ⟨⟨d, member, congrArg some same.symm⟩, opens.1, opens.2, fun _ _ _ => rfl⟩

/-- Only one path is selected. -/
theorem reaches_unique {env : OpenEnv} {path path' : Name} (reached : Reaches env path)
    (reached' : Reaches env path') : path = path' := by
  have selects := (enumerateDevices_spec env.devices env.lastError none).2
  have first := (selects path).mpr (Or.inl reached.selects)
  have second := (selects path').mpr (Or.inl reached'.selects)
  simpa using first.symm.trans second

/-- For every list of devices, every outcome of each call and every last error left over:
`open_device` reports honestly exactly when `CreateFile` and `WinUsb_Initialize` succeed
whenever a path is selected. -/
theorem open_device_honest_iff (env : OpenEnv) :
    Honest env ↔ ∀ path, Reaches env path → Opens env path := by
  rcases openDevice_spec env with ⟨path, reached, returned⟩ | ⟨unreached, failed⟩
  · have unique : ∀ path', Reaches env path' → path' = path := fun path' reached' =>
      reaches_unique reached' reached
    have honest_iff : Honest env ↔ Opens env path := by
      rw [← initialised_iff reached, Honest, returned]
      simp
    rw [honest_iff]
    constructor
    · intro opens path' reached'
      rw [unique path' reached']
      exact opens
    · intro all
      exact all path reached
  · exact ⟨fun _ path reached => absurd reached (unreached path), fun _ => Or.inr failed⟩

/-- One panel whose detail data needs the larger buffer; the device is in use elsewhere. -/
def deviceInUse : OpenEnv where
  getClassDevs := true
  detailAllocated := true
  lastError := 0
  devices := [{
    devicePath := ⟨text "usb#panel", by decide⟩
    enumDeviceInfoSets := none
    enumDeviceInterfaces := ⟨true, none⟩
    getInterfaceDetail := ⟨false, some errorInsufficientBuffer⟩
    reallocated := true
    getInterfaceDetailAgain := ⟨true, none⟩
    pathAllocated := true }]
  createFile := fun _ => .invalidHandleValue
  winUsbInitialize := fun _ => ⟨false, .null⟩

/-- `STATUS_SUCCESS` is returned with an invalid file handle, and transfers are then issued
on NULL. -/
theorem failed_open_succeeds :
    (openDevice deviceInUse .zeroed).2 = .success ∧
      (openDevice deviceInUse .zeroed).1.deviceFileHandle = .invalidHandleValue ∧
      (transferControl (openDevice deviceInUse .zeroed).1 ⟨.queryCap, 0⟩ 1 false).1.handle = .null ∧
      ¬ Honest deviceInUse := by
  refine ⟨rfl, rfl, rfl, fun honest => ?_⟩
  rcases honest with ⟨_, initialised⟩ | notFound | notConfigured
  · obtain ⟨id, opened⟩ := initialised.opened
    cases opened
  · cases notFound
  · cases notConfigured

end PerformancePanel.Guarantees.DeviceOpening

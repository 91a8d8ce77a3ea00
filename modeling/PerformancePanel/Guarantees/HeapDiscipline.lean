import PerformancePanel.Library.Runs
import PerformancePanel.Source.ProgramHeap

/-!
# What is allocated, and by whom it is freed

The console and MFC programs free the device path and the binding arrays once each, however
far opening and the initialisation have come, and their ticks touch none of them afterwards.
The buffer of `open_device` is given back by no path on which it fails. The driver's arrays
are the two of its last initialisation, over any number of preparations. What the MFC windows
access is left out, and an access through NULL meets no block.
-/
set_option autoImplicit false

namespace PerformancePanel.Guarantees.HeapDiscipline
open Source.Common Source.DataSources Source.Collector Source.PanelSetup Source.FrontEnds
  Source.WinUsb
open Source.ProgramHeap Library Library.Pointers
open Source
open Source.UmdfDriver (ensureUsbDevice)

/-! ## The binding arrays -/

section arrays
variable {p : ArrayPointers} {h : Heap} {pointers : List Pointer}

theorem owns_boundTouches (env : Setup) (callbacks : p.callbacks ∈ pointers)
    (calibrations : p.calibrations ∈ pointers)
    (remaining i : Nat) (owns : Owns h pointers) :
    Owns (boundTouches env p remaining i h) pointers := by
  induction remaining generalizing i h with
  | zero => exact owns
  | succ remaining ih =>
    have first : Owns (if (env.boundCall i).callback.isSome then touch p.callbacks h else h)
      pointers := by
      split
      · exact owns_touch owns callbacks
      · exact owns
    have second : Owns (if (env.boundCall i).calibration.isSome then
        touch p.calibrations (if (env.boundCall i).callback.isSome then touch p.callbacks h else h)
        else if (env.boundCall i).callback.isSome then touch p.callbacks h else h) pointers := by
      split
      · exact owns_touch first calibrations
      · exact first
    simp only [boundTouches]
    by_cases success : (env.boundCall i).status = .success
    · rw [if_pos success]
      exact ih (i + 1) second
    · rw [if_neg success]
      exact second

theorem owns_tickTouches (env : TickEnv) (arrays : Arrays) (callbacks : p.callbacks ∈ pointers)
    (calibrations : p.calibrations ∈ pointers) (remaining i : Nat) (owns : Owns h pointers) :
    Owns (tickTouches env arrays p remaining i h) pointers := by
  induction remaining generalizing i h with
  | zero => exact owns
  | succ remaining ih =>
    have callback := owns_touch owns callbacks
    have calibrated := owns_touch callback calibrations
    unfold tickTouches
    split
    next => exact owns
    next => exact ih (i + 1) callback
    next =>
      split
      next => exact callback
      next =>
        split
        · exact ih (i + 1) calibrated
        · exact calibrated

/-- The arrays are replaced by the two new ones, or what is left of them. -/
theorem owns_initializeHeap (env : Setup) (channelCount : UInt8)
    (owns : Owns h (p.callbacks :: p.calibrations :: pointers)) :
    let r := initializeHeap env channelCount p h
    Owns r.2 (r.1.callbacks :: r.1.calibrations :: pointers) := by
  have freed : Owns (free p.calibrations (free p.callbacks h)) pointers :=
    owns_free (owns_free owns)
  have allocated := owns_malloc (owns_malloc freed env.callbacksAllocated) env.calibrationsAllocated
  have ordered := owns_perm allocated (List.Perm.swap _ _ _)
  simp only [initializeHeap]
  split
  · exact owns_boundTouches env List.mem_cons_self (List.mem_cons_of_mem _ List.mem_cons_self) _
      _ ordered
  · exact ordered

end arrays

/-- A pointer is NULL exactly where the model of the arrays has no block. -/
def Matches (p : ArrayPointers) (arrays : Arrays) : Prop :=
  p.callbacks.isSome = arrays.callbacks.isSome ∧ p.calibrations.isSome = arrays.calibrations.isSome

theorem malloc_isSome (succeeds : Bool) (h : Heap) : (malloc succeeds h).1.isSome = succeeds := by
  cases succeeds <;> rfl

theorem initializeHeap_pointers (env : Setup) (channelCount : UInt8) (p : ArrayPointers)
    (h : Heap) :
    Matches (initializeHeap env channelCount p h).1 (initializeArrays env channelCount).1 := by
  have pointers : (initializeHeap env channelCount p h).1.callbacks.isSome =
    env.callbacksAllocated ∧
      (initializeHeap env channelCount p h).1.calibrations.isSome = env.calibrationsAllocated := by
    simp only [initializeHeap]
    split <;> exact ⟨malloc_isSome _ _, malloc_isSome _ _⟩
  unfold Matches
  rw [pointers.1, pointers.2]
  cases both : (env.callbacksAllocated && env.calibrationsAllocated) with
  | true =>
    obtain ⟨callbacks, calibrations⟩ := Bool.and_eq_true _ _ ▸ both
    obtain ⟨t, arrays, -⟩ := initializeArrays_allocated channelCount callbacks calibrations
    rw [arrays]
    exact ⟨callbacks, calibrations⟩
  | false =>
    rw [initializeArrays_unallocated channelCount both]
    cases env.callbacksAllocated <;> cases env.calibrationsAllocated <;> exact ⟨rfl, rfl⟩

/-! ## `open_device` -/

theorem owns_interfaceHeap (d : Device) (lastError : UInt32) {detail : Pointer} {h : Heap}
    {pointers : List Pointer} (owns : Owns h (detail :: pointers)) :
    let read := interfaceHeap d lastError detail h
    Owns read.2 (read.1 :: pointers) ∧ (detail.isSome = true → read.1.isSome = true) := by
  have read := owns_touch owns List.mem_cons_self
  simp only [interfaceHeap]
  split
  next =>
    have moved := owns_realloc read d.reallocated
    split
    next moves =>
      rw [if_pos moves] at moved
      refine ⟨owns_touch moved List.mem_cons_self, fun _ => ?_⟩
      rw [moves]
      rfl
    next stays =>
      rw [if_neg stays] at moved
      exact ⟨moved, id⟩
  next => exact ⟨read, id⟩

/-- The loop keeps its two pointers to what they own, and `device_path` is NULL exactly
when there is no path. -/
theorem enumerateHeap_spec (devices : List Device) (lastError : UInt32) {s : DeviceBuffers}
    {path : Option Name}
    (owns : Owns s.heap [s.detail, s.devicePath]) (hasPath : s.devicePath.isSome = path.isSome)
    (hasDetail : s.detail.isSome = true) :
    let r := enumerateHeap devices lastError s
    Owns r.heap [r.detail, r.devicePath] ∧ r.detail.isSome = true ∧
      r.devicePath.isSome = (enumerateDevices devices lastError path).1.isSome := by
  induction devices generalizing lastError s path with
  | nil => exact ⟨owns, hasDetail, hasPath⟩
  | cons d rest ih =>
    obtain ⟨read, readDetail⟩ := owns_interfaceHeap d (afterInterfaces d lastError) owns
    simp only [enumerateHeap, enumerateDevices]
    by_cases stops : afterInterfaces d lastError = errorNoMoreItems
    · rw [if_pos stops, if_pos stops]
      exact ⟨owns, hasDetail, hasPath⟩
    · rw [if_neg stops, if_neg stops]
      by_cases interfaces : d.enumDeviceInterfaces.succeeds = true
      · rw [if_pos interfaces, if_pos interfaces]
        rcases interfaceDetail d (afterInterfaces d lastError) with - | ⟨- | -, lastError'⟩
        · exact ⟨read, readDetail hasDetail, hasPath⟩
        · exact ⟨read, readDetail hasDetail, hasPath⟩
        · have freed := owns_free
            (owns_perm (owns_touch read List.mem_cons_self) (List.Perm.swap _ _ _))
          have allocated := owns_perm (owns_malloc freed d.pathAllocated) (List.Perm.swap _ _ _)
          dsimp only
          by_cases succeeds : d.pathAllocated = true
          · rw [if_pos succeeds, if_pos succeeds]
            have copied := owns_touch allocated List.mem_cons_self
            refine ih lastError' (owns_touch copied (List.mem_cons_of_mem _ List.mem_cons_self)) ?_
              (readDetail hasDetail)
            rw [malloc_isSome, succeeds]
            rfl
          · have fails : d.pathAllocated = false := Bool.eq_false_iff.mpr succeeds
            rw [if_neg succeeds, if_neg succeeds]
            rw [fails] at allocated ⊢
            exact ⟨allocated, readDetail hasDetail, rfl⟩
      · rw [if_neg interfaces, if_neg interfaces]
        exact ⟨owns, hasDetail, hasPath⟩

/-- The buffer is allocated. -/
def Allocates (env : OpenEnv) : Prop := env.getClassDevs = true ∧ env.detailAllocated = true

/-- `open_device` on an empty heap leaves a path exactly where `device_path` has one, and
leaves its buffer exactly when it fails after having allocated it. -/
theorem openHeap_spec (env : OpenEnv) :
    let s := openHeap env empty
    Owns s.heap [s.detail, s.devicePath] ∧
      s.devicePath.isSome = (openDevice env .zeroed).1.devicePath.isSome ∧
      (s.detail.isSome = true ↔ Allocates env ∧ (openDevice env .zeroed).2 ≠ .success) := by
  obtain ⟨found, allocated, lastError, devices, createFile, winUsbInitialize⟩ := env
  have nothing : Owns empty [none, none] := owns_null.mpr (owns_null.mpr owns_empty)
  cases found with
  | false => exact ⟨nothing, rfl, by simp [openHeap, Allocates]⟩
  | true =>
    cases allocated with
    | false => exact ⟨nothing, rfl, by simp [openHeap, Allocates]⟩
    | true =>
      let buffer := malloc true empty
      have bought : Owns buffer.2 [buffer.1, none] := owns_malloc (owns_null.mpr owns_empty) true
      obtain ⟨owns, held, path⟩ :=
        @enumerateHeap_spec devices lastError ⟨buffer.1, none, touch buffer.1 buffer.2⟩
        none (owns_touch bought List.mem_cons_self) rfl rfl
      simp only [openHeap, openDevice, Allocates, Statics.zeroed, if_true, and_self, true_and]
      obtain ⟨fails, -⟩ := enumerateDevices_spec devices lastError none
      rcases ended : enumerateDevices devices lastError none with ⟨- | devicePath, - | status⟩
      · rw [ended] at path
        exact ⟨owns, path, fun _ => by simp, fun _ => held⟩
      · rw [ended] at path fails
        obtain rfl := fails status rfl
        exact ⟨owns, path, fun _ => by simp, fun _ => held⟩
      · rw [ended] at path
        -- the path is printed and opened, and the buffer freed
        exact ⟨owns_null.mpr
          (owns_free (owns_touch owns (List.mem_cons_of_mem _ List.mem_cons_self))), path,
          fun held => absurd held (by simp), fun failed => absurd rfl failed⟩
      · rw [ended] at path fails
        obtain rfl := fails status rfl
        exact ⟨owns, path, fun _ => by simp, fun _ => held⟩

/-! ## The Windows programs -/

/-- What is held: everything behind the pointers, or, after the end, the lost buffer alone. -/
def Held (s : HeapProgram) : List Pointer :=
  if s.closed then [s.detail]
    else [s.detail, s.devicePath, s.arrays.callbacks, s.arrays.calibrations]

/-- A program owns what it holds, and its pointers are NULL where its state has nothing. -/
structure InOrder (s : HeapProgram) : Prop where
  owns : Owns s.heap (Held s)
  arrays : Matches s.arrays s.program.arrays
  ended : s.closed = true → s.program.running = false

theorem queryAndInitialize_arrays (env : Startup) (proceeds : Outcome → Bool) :
    (queryAndInitialize env proceeds).arrays = match env.channelCount with
      | none => ⟨none, none⟩
      | some channelCount => (initializeArrays env.toSetup channelCount).1 := by
  cases counted : env.channelCount with
  | none => simp only [queryAndInitialize, counted]
  | some channelCount => simp only [queryAndInitialize, counted]

theorem start_arrays (w : WindowsProgram) (env : MainEnv) :
    (start w.frontEnd env.startup).arrays = match env.setup.channelCount with
      | none => ⟨none, none⟩
      | some channelCount => (initializeArrays env.setup channelCount).1 := by
  cases w <;> exact queryAndInitialize_arrays env.startup fun _ => true

theorem startHeap_inOrder (w : WindowsProgram) (env : MainEnv) : InOrder (startHeap w env) := by
  obtain ⟨owns, -, -⟩ := openHeap_spec env.usb
  have ordered : Owns (openHeap env.usb empty).heap
      [none, none, (openHeap env.usb empty).detail, (openHeap env.usb empty).devicePath] :=
    owns_null.mpr (owns_null.mpr owns)
  have arrays := start_arrays w env
  have moved {a b c d : Pointer} : [a, b, c, d].Perm [c, d, a, b] :=
    @List.perm_append_comm _ [a, b] [c, d]
  cases counted : env.setup.channelCount with
  | none =>
    rw [counted] at arrays
    have started : startHeap w env = ⟨start w.frontEnd env.startup, (openHeap env.usb empty).detail,
        (openHeap env.usb empty).devicePath, ⟨none, none⟩, (openHeap env.usb empty).heap,
          false⟩ := by
      simp only [startHeap, counted]
    rw [started]
    refine ⟨owns_perm ordered moved, ?_, nofun⟩
    rw [arrays]
    exact ⟨rfl, rfl⟩
  | some channelCount =>
    rw [counted] at arrays
    let initialized := initializeHeap env.setup channelCount ⟨none, none⟩
      (openHeap env.usb empty).heap
    have started : startHeap w env = ⟨start w.frontEnd env.startup, (openHeap env.usb empty).detail,
        (openHeap env.usb empty).devicePath, initialized.1, initialized.2, false⟩ := by
      simp only [startHeap, counted, initialized]
    rw [started]
    refine ⟨owns_perm (owns_initializeHeap env.setup channelCount ordered) moved, ?_, nofun⟩
    rw [arrays]
    exact initializeHeap_pointers env.setup channelCount _ _

/-- Freeing the path and the arrays leaves the lost buffer. -/
theorem owns_closeHeap {s : HeapProgram}
    (owns : Owns s.heap [s.detail, s.devicePath, s.arrays.callbacks, s.arrays.calibrations]) :
    Owns (closeHeap s) [s.detail] := by
  have last : Owns s.heap [s.devicePath, s.arrays.callbacks, s.arrays.calibrations, s.detail] :=
    owns_perm owns (@List.perm_append_comm _ [s.detail] _)
  exact owns_free (owns_free (owns_free last))

/-- The program in the model with pointers is the program. -/
theorem stepHeap_program (w : WindowsProgram) (s : HeapProgram) (e : Event) :
    (stepHeap w s e).program = step w.frontEnd s.program e := by
  unfold stepHeap
  split
  · cases e <;> rfl
  · rfl

/-- What `open_device` has left stays as it is. -/
theorem stepHeap_opened (w : WindowsProgram) (s : HeapProgram) (e : Event) :
    (stepHeap w s e).detail = s.detail ∧ (stepHeap w s e).devicePath = s.devicePath := by
  unfold stepHeap
  split
  · cases e <;> exact ⟨rfl, rfl⟩
  · exact ⟨rfl, rfl⟩

theorem step_arrays (frontEnd : FrontEnd) (p : Program) (e : Event) :
    (step frontEnd p e).arrays = p.arrays := by
  unfold step
  split
  · cases e with
    | tick env => rfl
    | leave => cases frontEnd <;> rfl
  · rfl

theorem stepHeap_inOrder (w : WindowsProgram) (s : HeapProgram) (e : Event) (inOrder : InOrder s) :
    InOrder (stepHeap w s e) := by
  obtain ⟨owns, arrays, ended⟩ := inOrder
  have kept : Matches s.arrays (step w.frontEnd s.program e).arrays := by
    rw [step_arrays]
    exact arrays
  by_cases running : s.program.running = true
  · have isOpen : s.closed = false := by
      cases closed : s.closed with
      | false => rfl
      | true => exact absurd running (by simp [ended closed])
    have all : Owns s.heap [s.detail, s.devicePath, s.arrays.callbacks, s.arrays.calibrations] := by
      rw [Held, isOpen] at owns
      exact owns
    simp only [stepHeap, if_pos running]
    cases e with
    | tick env =>
      refine ⟨?_, kept, fun closed => absurd closed (by simp [isOpen])⟩
      simp only [Held, isOpen]
      exact owns_tickTouches env s.program.arrays (by simp) (by simp) _ 0 all
    | leave =>
      refine ⟨owns_closeHeap all, kept, fun _ => ?_⟩
      simp only [step, if_pos running]
      cases w <;> rfl
  · have stays : step w.frontEnd s.program e = s.program := if_neg running
    simp only [stepHeap, if_neg running]
    rw [stays]
    exact ⟨owns, arrays, ended⟩

/-- In every reached state of the console and MFC programs on WinUSB, whatever failed while
they started, each block held is behind one pointer, and neither the start nor a tick nor the
end has touched or freed a block that was not held; after the end only the buffer of an
`open_device` that failed with it is still held. -/
theorem windows_heap (w : WindowsProgram) (env : MainEnv) (events : List Event) :
    let s := Runs.run (stepHeap w) (startHeap w env) events
    s.program = Runs.run (step w.frontEnd) (start w.frontEnd env.startup) events ∧
      InOrder s ∧
      s.devicePath.isSome = (openDevice env.usb .zeroed).1.devicePath.isSome ∧
      (s.detail.isSome = true ↔ Allocates env.usb ∧ (openDevice env.usb .zeroed).2 ≠ .success) := by
  intro s
  have keeps (s' : HeapProgram) (p : Program) (e : Event) :
      (s'.program = p ∧ InOrder s' ∧ s'.detail = (openHeap env.usb empty).detail ∧
        s'.devicePath = (openHeap env.usb empty).devicePath) → True →
      (stepHeap w s' e).program = step w.frontEnd p e ∧ InOrder (stepHeap w s' e) ∧
        (stepHeap w s' e).detail = (openHeap env.usb empty).detail ∧
        (stepHeap w s' e).devicePath = (openHeap env.usb empty).devicePath := by
    rintro ⟨rfl, inOrder, detail, devicePath⟩ -
    obtain ⟨sameDetail, samePath⟩ := stepHeap_opened w s' e
    exact ⟨stepHeap_program w s' e, stepHeap_inOrder w s' e inOrder, sameDetail.trans detail,
      samePath.trans devicePath⟩
  obtain ⟨program, inOrder, detail, devicePath⟩ :=
    @Runs.run_related _ _ (stepHeap w) _ (step w.frontEnd) _ _ keeps
    (startHeap w env) (start w.frontEnd env.startup) ⟨rfl, startHeap_inOrder w env, rfl, rfl⟩ events
      fun _ _ => trivial
  obtain ⟨-, path, buffer⟩ := openHeap_spec env.usb
  refine ⟨program, inOrder, ?_, ?_⟩
  · rw [devicePath]
    exact path
  · rw [detail]
    exact buffer

/-! ## The driver -/

/-- The driver owns its arrays, and their pointers are NULL where its state has none. -/
structure DriverInOrder (s : HeapDriver) : Prop where
  owns : Owns s.heap [s.arrays.callbacks, s.arrays.calibrations]
  arrays : Matches s.arrays s.driver.arrays

theorem enterLoop_arrays (timerCreated : Bool) (s : UmdfDriver.Driver) :
    (UmdfDriver.enterLoop timerCreated s).arrays = s.arrays := by
  unfold UmdfDriver.enterLoop
  repeat' split
  all_goals rfl

/-- A preparation leaves new arrays where it runs the initialisation, and the old ones
everywhere else. -/
theorem prepareHardware_arrays (device : UmdfDriver.Handle) (env : UmdfDriver.Preparation)
    (s : UmdfDriver.Driver) :
    (UmdfDriver.prepareHardware device env s).arrays =
      if (ensureUsbDevice env.usbCreated s).isSome && env.configSelected then
        match env.channelCount with
        | none => s.arrays
        | some channelCount => (initializeArrays env.toSetup channelCount).1
      else s.arrays := by
  unfold UmdfDriver.prepareHardware
  cases ensured : ensureUsbDevice env.usbCreated s with
  | none => rfl
  | some s' =>
    obtain ⟨usb, next, rfl, -, -⟩ := UmdfDriver.ensureUsbDevice_some ensured
    cases env.configSelected with
    | false => rfl
    | true =>
      cases env.channelCount with
      | none => rfl
      | some channelCount =>
        exact enterLoop_arrays env.timerCreated
          (UmdfDriver.beforeLoop device env channelCount
            { s with usbDevice := some usb, nextHandle := next })

/-- The other callbacks leave the arrays. -/
theorem callback_arrays (s : UmdfDriver.Driver) {e : UmdfDriver.Event}
    (other : ∀ device env, e ≠ .prepareHardware device env) : (UmdfDriver.callback s e).arrays =
      s.arrays := by
  cases e with
  | deviceAdd created interfaceCreated => cases created <;> rfl
  | prepareHardware device env => exact absurd rfl (other device env)
  | timerFires timer env => rfl
  | deviceRemoved device => rfl
  | driverContextCleanup =>
    show (UmdfDriver.driverContextCleanup s).arrays = s.arrays
    unfold UmdfDriver.driverContextCleanup
    cases s.timer <;> rfl

theorem callbackHeap_inOrder {s : HeapDriver} (e : UmdfDriver.Event) (inOrder : DriverInOrder s) :
    DriverInOrder ⟨UmdfDriver.callback s.driver e, (callbackHeap s e).1, (callbackHeap s e).2⟩ := by
  obtain ⟨owns, arrays⟩ := inOrder
  have same (other : ∀ device env, e ≠ .prepareHardware device env) :
      Matches s.arrays (UmdfDriver.callback s.driver e).arrays := by
    rw [callback_arrays s.driver other]
    exact arrays
  cases e with
  | deviceAdd created interfaceCreated => exact ⟨owns, same nofun⟩
  | prepareHardware device env =>
    have left := prepareHardware_arrays device env s.driver
    simp only [callbackHeap, UmdfDriver.callback]
    by_cases reached : ((ensureUsbDevice env.usbCreated s.driver).isSome && env.configSelected) =
      true
    · rw [if_pos reached] at left ⊢
      cases counted : env.channelCount with
      | none =>
        rw [counted] at left
        exact ⟨owns, left ▸ arrays⟩
      | some channelCount =>
        rw [counted] at left
        refine ⟨owns_initializeHeap env.toSetup channelCount owns, ?_⟩
        show Matches _ (UmdfDriver.prepareHardware device env s.driver).arrays
        rw [left]
        exact initializeHeap_pointers env.toSetup channelCount s.arrays s.heap
    · rw [if_neg reached] at left ⊢
      exact ⟨owns, left ▸ arrays⟩
  | timerFires timer env =>
    have touched := @owns_tickTouches s.arrays s.heap _ env s.driver.arrays List.mem_cons_self
      (List.mem_cons_of_mem _ List.mem_cons_self) s.driver.channelCount.toNat 0 owns
    exact ⟨touched, same nofun⟩
  | deviceRemoved device => exact ⟨owns, same nofun⟩
  | driverContextCleanup => exact ⟨owns, same nofun⟩

/-- In every reached state of the driver, over any number of devices and preparations whose
callbacks are delivered one at a time, the blocks held are the arrays of the last
initialisation, and no block was touched or freed that was not held. -/
theorem driver_heap (events : List UmdfDriver.Event) :
    let s := Runs.run driverStep loadedDriver events
    s.driver = Runs.run UmdfDriver.step UmdfDriver.driverEntry events ∧ DriverInOrder s := by
  have keeps (s : HeapDriver) (d : UmdfDriver.Driver) (e : UmdfDriver.Event) :
      (s.driver = d ∧ DriverInOrder s) → True →
        (driverStep s e).driver = UmdfDriver.step d e ∧ DriverInOrder (driverStep s e) := by
    rintro ⟨rfl, inOrder⟩ -
    unfold driverStep UmdfDriver.step
    split
    · exact ⟨rfl, callbackHeap_inOrder e inOrder⟩
    · exact ⟨rfl, inOrder⟩
  exact @Runs.run_related _ _ driverStep _ UmdfDriver.step _ _ keeps loadedDriver
    UmdfDriver.driverEntry
    ⟨rfl, owns_null.mpr (owns_null.mpr owns_empty), rfl, rfl⟩ events fun _ _ => trivial

end PerformancePanel.Guarantees.HeapDiscipline

import PerformancePanel.Library.Runs
import PerformancePanel.Source.UmdfDriver

/-!
# Targets of the UMDF driver's transfers

`transfer_control` addresses whatever `UsbDevice` holds, and `UsbDevice` is set once, on
the device `Device` named then. A second panel, or the same one plugged in again, is
prepared with the first target; the cleanup zeroes through a target that was deleted with
its device. Every transfer of a run is addressed to its own existing device exactly when
each preparation that queries finds its own target, and the cleanup no channel.
-/
set_option autoImplicit false

namespace PerformancePanel.Guarantees.UmdfTransfers
open Source.Common Source.DataSources Source.Collector Source.PanelSetup Source.UmdfDriver
open Library.Runs
open Library.OwnedObjects (mem_deleteChildren)

/-- The target was created on the device the transfer belongs to, and that device object
existed when the transfer was issued. -/
def Addressed (t : Transfer) : Prop :=
  ∃ usb, t.target = some usb ∧ usb.parent ∈ t.liveDevices ∧
    ∀ device, t.preparedDevice = some device → usb.parent = device

/-- The property of one state. -/
def TransfersAddressed (s : Driver) : Prop := ∀ t ∈ s.sent, Addressed t

/-- Of the framework: the driver object's cleanup runs after its devices are deleted. -/
def CleanupLast (s : Driver) : Event → Prop
  | .driverContextCleanup => s.liveDevices = []
  | _ => True

/-- The condition on one event, in the state before it. -/
def TargetsOwnDevice (s : Driver) : Event → Prop
  | .prepareHardware device env =>
    (!s.crashed && delivered s (.prepareHardware device env)) = true → ReachesQuery s env →
      (s.usbDevice = none ∧ s.device = some device) ∨
        ∃ usb, s.usbDevice = some usb ∧ usb.parent = device
  | .driverContextCleanup =>
    (!s.crashed && delivered s .driverContextCleanup) = true → s.channelCount = 0
  | _ => True

/-- What a run that meets the condition keeps: each timer runs on the device of the
target, and that device exists. -/
structure OwnTarget (s : Driver) : Prop where
  sent : TransfersAddressed s
  timers : ∀ t ∈ s.timers, ∃ usb, s.usbDevice = some usb ∧ usb.parent = t.parent ∧
    t.parent ∈ s.liveDevices

theorem transferControl_addressed {s : Driver} (sent : TransfersAddressed s) {usb : WdfUsbDevice}
    (target : s.usbDevice = some usb) (live : usb.parent ∈ s.liveDevices)
    (packets : List ControlTransfer) :
    TransfersAddressed (transferControl (some usb.parent) packets s) := by
  intro t issued
  rcases List.mem_append.mp issued with old | new
  · exact sent t old
  · obtain ⟨packet, _, rfl⟩ := List.mem_map.mp new
    exact ⟨usb, target, live, fun device prepared => Option.some.inj prepared⟩

/-- A transfer issued as `packet` is in the log as it was addressed. -/
theorem mem_transferControl {s : Driver} (preparedDevice : Option Handle)
    {packets : List ControlTransfer} {packet : ControlTransfer} (issued : packet ∈ packets) :
    (⟨s.usbDevice, preparedDevice, s.liveDevices, packet⟩ : Transfer) ∈
      (transferControl preparedDevice packets s).sent :=
  List.mem_append_right _ (List.mem_map_of_mem issued)

theorem zeroLevels_eq_nil {channelCount : UInt8} :
    zeroLevels channelCount = [] ↔ channelCount = 0 := by
  simp only [zeroLevels, List.map_eq_nil_iff, List.range_eq_nil]
  exact ⟨fun zero => UInt8.toNat.inj zero, fun zero => by rw [zero]; rfl⟩

/-! ## The condition is enough -/

/-- `enter_loop` after a well addressed query. -/
theorem enterLoop_own {s : Driver} (own : OwnTarget s) {usb : WdfUsbDevice}
    (target : s.usbDevice = some usb) (live : usb.parent ∈ s.liveDevices)
    (device : s.device = some usb.parent) (timerCreated : Bool) :
    OwnTarget (enterLoop timerCreated s) := by
  cases timerCreated with
  | true =>
    rw [enterLoop_created device]
    refine ⟨own.sent, ?_⟩
    intro t existing
    rcases List.mem_append.mp existing with old | new
    · exact own.timers t old
    · rw [List.mem_singleton.mp new]
      exact ⟨usb, target, rfl, live⟩
  | false =>
    rw [enterLoop_failed]
    exact ⟨own.sent, own.timers⟩

theorem prepared_own {s : Driver} (own : OwnTarget s) {device : Handle} {env : Preparation}
    (live : device ∈ s.liveDevices)
    (condition : ReachesQuery s env → (s.usbDevice = none ∧ s.device = some device) ∨
      ∃ usb, s.usbDevice = some usb ∧ usb.parent = device) :
    OwnTarget (prepareHardware device env s) := by
  rcases prepareHardware_cases device env s with ⟨_, same⟩ | ⟨usb, next, _, owner, prepared⟩
  · rw [same]
    exact own
  · have early : OwnTarget { s with usbDevice := some usb, nextHandle := next } := by
      refine ⟨own.sent, fun t existing => ?_⟩
      obtain ⟨old, target, here, exists_⟩ := own.timers t existing
      rcases owner with same | ⟨absent, _⟩
      · rw [target] at same
        exact ⟨usb, rfl, Option.some.inj same ▸ here, exists_⟩
      · rw [target] at absent
        cases absent
    have ownDevice (reached : ReachesQuery s env) : usb.parent = device := by
      rcases condition reached, owner with
        ⟨⟨absent, named⟩ | ⟨old, present, here⟩, same | ⟨absent', parent⟩⟩
      · rw [absent] at same
        cases same
      · rw [named] at parent
        exact (Option.some.inj parent).symm
      · rw [present] at same
        rw [← Option.some.inj same]
        exact here
      · rw [present] at absent'
        cases absent'
    rcases prepared with ⟨_, stopped⟩ | ⟨reached, _, hangs⟩ | ⟨reached, channelCount, looped⟩
    · rw [stopped]
      exact early
    · have here : usb.parent = device := ownDevice reached
      subst here
      rw [hangs]
      exact ⟨transferControl_addressed early.sent rfl live _, early.timers⟩
    · have here : usb.parent = device := ownDevice reached.1
      subst here
      rw [looped]
      have queried : OwnTarget (beforeLoop usb.parent env channelCount
          { s with usbDevice := some usb, nextHandle := next }) :=
        ⟨transferControl_addressed early.sent rfl live _, early.timers⟩
      exact enterLoop_own queried rfl live rfl env.timerCreated

theorem created_own {s : Driver} (own : OwnTarget s) (created interfaceCreated : Bool) :
    OwnTarget (createDevice created interfaceCreated s) := by
  unfold createDevice
  split
  · refine ⟨own.sent, fun t existing => ?_⟩
    obtain ⟨usb, target, here, live⟩ := own.timers t existing
    refine ⟨usb, target, here, ?_⟩
    show t.parent ∈ if interfaceCreated then s.liveDevices ++ [s.nextHandle] else s.liveDevices
    split
    · exact List.mem_append_left _ live
    · exact live
  · exact own

/-- A tick runs on the device of the target, like every timer. -/
theorem fired_own {s : Driver} (own : OwnTarget s) {timer : WdfTimer} (existing : timer ∈ s.timers)
    (env : TickEnv) : OwnTarget (monitorThreadFunction timer.parent env s) := by
  obtain ⟨usb, target, here, live⟩ := own.timers timer existing
  rw [← here] at live
  simp only [monitorThreadFunction, ← here]
  exact ⟨transferControl_addressed own.sent target live _, own.timers⟩

theorem removed_own {s : Driver} (own : OwnTarget s) (device : Handle) :
    OwnTarget (deviceRemoved device s) := by
  refine ⟨own.sent, fun t remains => ?_⟩
  obtain ⟨existing, other⟩ := mem_deleteChildren.mp remains
  obtain ⟨usb, target, here, live⟩ := own.timers t existing
  exact ⟨usb, target, here, List.mem_filter.mpr ⟨live, by simpa using other⟩⟩

theorem stopped_own {s : Driver} (own : OwnTarget s) (h : Handle) : OwnTarget (stopTimer h s) := by
  refine ⟨own.sent, fun t changed => ?_⟩
  obtain ⟨u, existing, rfl⟩ := List.mem_map.mp changed
  have same : (if u.handle = h then { u with active := false } else u).parent = u.parent := by
    split <;> rfl
  rw [same]
  exact own.timers u existing

/-- Without channels the cleanup sends nothing. -/
theorem cleanup_own {s : Driver} (own : OwnTarget s) (empty : s.channelCount = 0) :
    OwnTarget (driverContextCleanup s) := by
  have silent : zeroLevels s.channelCount = [] := zeroLevels_eq_nil.mpr empty
  have quiet {s' : Driver} (own' : OwnTarget s') (same : s'.channelCount = s.channelCount) :
      OwnTarget { transferControl none (zeroLevels s'.channelCount) s' with unloaded := true } := by
    refine ⟨?_, own'.timers⟩
    simpa [TransfersAddressed, transferControl, same, silent] using own'.sent
  unfold driverContextCleanup
  cases s.timer with
  | none => exact quiet own rfl
  | some h => exact quiet (stopped_own own h) rfl

theorem step_own (s : Driver) (e : Event) (own : OwnTarget s) (condition : TargetsOwnDevice s e) :
    OwnTarget (step s e) := by
  unfold step
  split
  next occurs =>
    have occurs' := (Bool.and_eq_true _ _ ▸ occurs).2
    cases e with
    | deviceAdd created interfaceCreated => exact created_own own created interfaceCreated
    | prepareHardware device env =>
      simp only [delivered, Bool.and_eq_true, decide_eq_true_eq] at occurs'
      exact prepared_own own occurs'.2 (condition occurs)
    | timerFires timer env =>
      simp only [delivered, Bool.and_eq_true, decide_eq_true_eq] at occurs'
      exact fired_own own occurs'.2 env
    | deviceRemoved device => exact removed_own own device
    | driverContextCleanup => exact cleanup_own own (condition occurs)
  next => exact own

/-! ## The condition is needed -/

/-- The query of a preparation shows whose target the driver uses. -/
theorem query_needs {s : Driver} {device : Handle} {env : Preparation}
    (addressed : TransfersAddressed (prepareHardware device env s)) (reached : ReachesQuery s env) :
    (s.usbDevice = none ∧ s.device = some device) ∨
      ∃ usb, s.usbDevice = some usb ∧ usb.parent = device := by
  rcases prepareHardware_cases device env s with ⟨early, _⟩ | ⟨usb, next, _, owner, prepared⟩
  · exact absurd reached early
  · have queried : (⟨some usb, some device, s.liveDevices, queryTransfer⟩ : Transfer) ∈
        (prepareHardware device env s).sent := by
      rcases prepared with ⟨early, _⟩ | ⟨_, _, hangs⟩ | ⟨_, channelCount, looped⟩
      · exact absurd reached early
      · rw [hangs]
        exact mem_transferControl (some device) (List.mem_singleton_self _)
      · rw [looped]
        cases env.timerCreated with
        | true =>
          rw [enterLoop_created rfl]
          exact mem_transferControl (some device) (List.mem_singleton_self _)
        | false =>
          rw [enterLoop_failed]
          exact mem_transferControl (some device) (List.mem_singleton_self _)
    obtain ⟨target, is, _, own⟩ := addressed _ queried
    have here : usb.parent = device := by
      rw [Option.some.inj is]
      exact own device rfl
    rcases owner with same | ⟨absent, parent⟩
    · exact .inr ⟨usb, same, here⟩
    · exact .inl ⟨absent, here ▸ parent⟩

/-- With no device left a zero level has no target. -/
theorem cleanup_needs {s : Driver} (noDevice : s.liveDevices = [])
    (addressed : TransfersAddressed (driverContextCleanup s)) : s.channelCount = 0 := by
  by_contra channels
  have packets : zeroLevels s.channelCount ≠ [] :=
    fun silent => channels (zeroLevels_eq_nil.mp silent)
  obtain ⟨packet, issued⟩ := List.exists_mem_of_ne_nil _ packets
  have zeroed : (⟨s.usbDevice, none, s.liveDevices, packet⟩ : Transfer) ∈
    (driverContextCleanup s).sent := by
    unfold driverContextCleanup
    cases s.timer with
    | none => exact mem_transferControl none issued
    | some h =>
      show _ ∈ (transferControl none (zeroLevels s.channelCount) (stopTimer h s)).sent
      exact mem_transferControl (s := stopTimer h s) none issued
  obtain ⟨usb, _, live, _⟩ := addressed _ zeroed
  rw [noDevice] at live
  cases live

theorem step_needs (s : Driver) (e : Event) (last : CleanupLast s e)
    (addressed : TransfersAddressed (step s e)) : TargetsOwnDevice s e := by
  cases e with
  | prepareHardware device env =>
    intro occurs reached
    rw [step, if_pos occurs] at addressed
    exact query_needs addressed reached
  | driverContextCleanup =>
    intro occurs
    rw [step, if_pos occurs] at addressed
    exact cleanup_needs last addressed
  | deviceAdd created interfaceCreated => trivial
  | timerFires timer env => trivial
  | deviceRemoved device => trivial

theorem driverEntry_own : OwnTarget driverEntry :=
  ⟨by simp [TransfersAddressed, driverEntry], by simp [driverEntry]⟩

/-- In every run in which the cleanup comes after the devices are deleted, every transfer
is addressed to its own existing device exactly when each preparation that queries finds
`UsbDevice` created on its device, or NULL with `Device` naming it, and the cleanup finds no
channel. -/
theorem transfers_addressed_iff {events : List Event}
    (ordered : EachStep step CleanupLast driverEntry events) :
    AllReached step TransfersAddressed driverEntry events ↔
      EachStep step TargetsOwnDevice driverEntry events :=
  allReached_iff_eachStep_of_rule (P := OwnTarget) (J := fun _ => True) (fun _ _ h => h)
    (fun _ own => own.sent) (fun s e _ own _ condition => step_own s e own condition)
    (fun s e _ _ last addressed => step_needs s e last addressed) trivial driverEntry_own ordered

/-- A panel without channels, prepared twice, removed, then the driver unloaded. -/
def emptyPanelRun : List Event :=
  [.deviceAdd true true, .prepareHardware 0 (allSucceed 0x80), .prepareHardware 0 (allSucceed 0x80),
    .deviceRemoved 0, .driverContextCleanup]

theorem transfers_addressed_emptyPanel :
    AllReached step TransfersAddressed driverEntry emptyPanelRun := by
  have ordered : EachStep step CleanupLast driverEntry emptyPanelRun :=
    ⟨trivial, trivial, trivial, trivial, rfl, trivial⟩
  refine (transfers_addressed_iff ordered).mpr ?_
  exact ⟨trivial, fun _ _ => .inl ⟨rfl, rfl⟩, fun _ _ => .inr ⟨⟨1, 0⟩, rfl, rfl⟩, trivial,
    fun _ => rfl, trivial⟩

/-- Two panels of one channel. -/
def twoPanelRun : List Event :=
  [.deviceAdd true true, .prepareHardware 0 (allSucceed 0x81), .deviceAdd true true,
    .prepareHardware 3 (allSucceed 0x81)]

/-- A second panel is queried through the first one's target; a single panel that was
removed is zeroed through its deleted target. -/
theorem shared_target_misaddresses :
    ¬ (∀ events, EachStep step CleanupLast driverEntry events →
        AllReached step TransfersAddressed driverEntry events) ∧
      (run step driverEntry
        [.deviceAdd true true, .prepareHardware 0 (allSucceed 0x81), .deviceRemoved 0,
          .driverContextCleanup]).sent.getLast? =
        some ⟨some ⟨1, 0⟩, none, [], sendUsage 0 0⟩ := by
  refine ⟨fun always => ?_, by decide⟩
  have ordered : EachStep step CleanupLast driverEntry twoPanelRun :=
    ⟨trivial, trivial, trivial, trivial, trivial⟩
  have second : (⟨some ⟨1, 0⟩, some 3, [0, 3], queryTransfer⟩ : Transfer) ∈
      (run step driverEntry twoPanelRun).sent :=
    List.mem_cons_of_mem _ (List.mem_cons_self)
  obtain ⟨usb, target, _, own⟩ := (always twoPanelRun ordered).last _ second
  have here : usb.parent = 3 := own 3 rfl
  rw [← Option.some.inj target] at here
  cases here

end PerformancePanel.Guarantees.UmdfTransfers

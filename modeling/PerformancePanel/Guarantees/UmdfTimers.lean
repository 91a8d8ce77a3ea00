import PerformancePanel.Library.Runs
import PerformancePanel.Source.UmdfDriver

/-!
# Timers of the UMDF driver

Each `EvtDevicePrepareHardware` creates a periodic timer and overwrites the one handle
the driver keeps; nothing stops the old timer, and a failed creation forgets it. The
driver has at most one active timer, and its cleanup stops every timer, in every state of
a run exactly when each preparation that runs `enter_loop` finds no timer active.
-/
set_option autoImplicit false

namespace PerformancePanel.Guarantees.UmdfTimers
open Source.Common Source.DataSources Source.Collector Source.PanelSetup Source.UmdfDriver
open Library.Runs
open Library.OwnedObjects
  (Unique deleteChildren mem_deleteChildren unique_append unique_deleteChildren)
open Library.OwnedObjects (unique_filter unique_map unique_nil length_le_one_of_handle)

/-- The timers whose ticks run `main_loop_callback`. -/
def activeTimers (s : Driver) : List WdfTimer := s.timers.filter (·.active)

/-- The property of one state: at most one active timer; a cleanup run here stops all of
them before it zeroes; once it has run, no event sends anything. -/
structure TimersSafe (s : Driver) : Prop where
  atMostOne : (activeTimers s).length ≤ 1
  stopped : activeTimers (driverContextCleanup s) = []
  quiet : s.unloaded = true → ∀ e, (step s e).sent = s.sent

/-- The condition on one event, in the state before it. -/
def LoopFindsNoTimer (s : Driver) : Event → Prop
  | .prepareHardware device env =>
    (!s.crashed && delivered s (.prepareHardware device env)) = true → ReachesLoop s env →
      activeTimers s = []
  | _ => True

/-- What a run that meets the condition keeps: `Timer` names the active timer. -/
structure SoleTimer (s : Driver) : Prop where
  unique : Unique WdfTimer.handle s.timers
  below : ∀ t ∈ s.timers, t.handle < s.nextHandle
  named : ∀ t ∈ activeTimers s, s.timer = some t.handle
  unloaded : s.unloaded = true → activeTimers s = []

theorem mem_activeTimers {s : Driver} {t : WdfTimer} :
    t ∈ activeTimers s ↔ t ∈ s.timers ∧ t.active = true := by
  simp [activeTimers]

theorem stopTimer_active (h : Handle) (s : Driver) {t : WdfTimer} :
    t ∈ activeTimers (stopTimer h s) ↔ t ∈ activeTimers s ∧ t.handle ≠ h := by
  simp only [mem_activeTimers, stopTimer, List.mem_map]
  constructor
  · rintro ⟨⟨u, existing, rfl⟩, active⟩
    by_cases stopped : u.handle = h
    · rw [if_pos stopped] at active
      cases active
    · rw [if_neg stopped] at active ⊢
      exact ⟨⟨existing, active⟩, stopped⟩
  · rintro ⟨⟨existing, active⟩, other⟩
    exact ⟨⟨t, existing, if_neg other⟩, active⟩

/-- Cleanup leaves exactly the active timers that `Timer` does not name. -/
theorem cleanup_active (s : Driver) {t : WdfTimer} :
    t ∈ activeTimers (driverContextCleanup s) ↔ t ∈ activeTimers s ∧ s.timer ≠ some t.handle := by
  cases handle : s.timer with
  | none =>
    have same : activeTimers (driverContextCleanup s) = activeTimers s := by
      simp only [activeTimers, driverContextCleanup, handle, transferControl]
    simp [same]
  | some h =>
    have same : activeTimers (driverContextCleanup s) = activeTimers (stopTimer h s) := by
      simp only [activeTimers, driverContextCleanup, handle, transferControl]
    rw [same, stopTimer_active]
    constructor
    · rintro ⟨active, other⟩
      exact ⟨active, fun equal => other (Option.some.inj equal).symm⟩
    · rintro ⟨active, other⟩
      exact ⟨active, fun equal => other (congrArg some equal.symm)⟩

theorem cleanup_stops {s : Driver} (named : ∀ t ∈ activeTimers s, s.timer = some t.handle) :
    activeTimers (driverContextCleanup s) = [] := by
  apply List.eq_nil_iff_forall_not_mem.mpr
  intro t remains
  obtain ⟨active, unnamed⟩ := (cleanup_active s).mp remains
  exact unnamed (named t active)

/-- An unloaded driver without active timers sends nothing. -/
theorem unloaded_quiet {s : Driver} (unloaded : s.unloaded = true) (quiet : activeTimers s = [])
    (e : Event) : (step s e).sent = s.sent := by
  unfold step
  split
  next occurs =>
    rw [Bool.and_eq_true] at occurs
    cases e with
    | deviceAdd created interfaceCreated => simp [delivered, unloaded] at occurs
    | prepareHardware device env => simp [delivered, unloaded] at occurs
    | timerFires timer env =>
      have fires : timer.active = true ∧ timer ∈ s.timers := by simpa [delivered] using occurs.2
      have active : timer ∈ activeTimers s := mem_activeTimers.mpr ⟨fires.2, fires.1⟩
      rw [quiet] at active
      cases active
    | deviceRemoved device => rfl
    | driverContextCleanup => simp [delivered, unloaded] at occurs
  next => rfl

theorem timersSafe_of_sole {s : Driver} (sole : SoleTimer s) : TimersSafe s := by
  refine ⟨?_, cleanup_stops sole.named, fun unloaded =>
    unloaded_quiet unloaded (sole.unloaded unloaded)⟩
  have unique : Unique WdfTimer.handle (activeTimers s) := unique_filter sole.unique _
  cases listed : activeTimers s with
  | nil => exact Nat.zero_le 1
  | cons first rest =>
    rw [← listed]
    have here : s.timer = some first.handle := sole.named first (by simp [listed])
    apply length_le_one_of_handle unique
    intro t active
    have named := sole.named t active
    rw [here] at named
    exact (Option.some.inj named).symm

/-- Events that keep the timers and `Timer` keep the invariant. -/
theorem sole_same {s s' : Driver} (sole : SoleTimer s) (timers : s'.timers = s.timers)
    (timer : s'.timer = s.timer) (later : s.nextHandle ≤ s'.nextHandle)
    (unloaded : s'.unloaded = s.unloaded) : SoleTimer s' := by
  have active : activeTimers s' = activeTimers s := by simp only [activeTimers, timers]
  refine ⟨?_, ?_, ?_, ?_⟩
  · rw [timers]
    exact sole.unique
  · intro t existing
    rw [timers] at existing
    exact lt_of_lt_of_le (sole.below t existing) later
  · intro t isActive
    rw [active] at isActive
    rw [timer]
    exact sole.named t isActive
  · intro isUnloaded
    rw [active]
    exact sole.unloaded (unloaded ▸ isUnloaded)

/-- `enter_loop` keeps the invariant when no timer is active. -/
theorem sole_enterLoop {s : Driver} (sole : SoleTimer s) {parent : Handle}
    (device : s.device = some parent) (idle : activeTimers s = []) (loaded : s.unloaded = false)
    (timerCreated : Bool) : SoleTimer (enterLoop timerCreated s) := by
  cases timerCreated with
  | true =>
    rw [enterLoop_created device]
    refine ⟨?_, ?_, ?_, ?_⟩
    · apply unique_append sole.unique
      intro other existing
      exact Nat.ne_of_lt (sole.below other existing)
    · intro t existing
      rcases List.mem_append.mp existing with existing | new
      · exact lt_of_lt_of_le (sole.below t existing) (Nat.le_succ _)
      · rw [List.mem_singleton.mp new]
        exact Nat.lt_succ_self _
    · intro t active
      obtain ⟨existing, isActive⟩ := mem_activeTimers.mp active
      rcases List.mem_append.mp existing with existing | new
      · have old : t ∈ activeTimers s := mem_activeTimers.mpr ⟨existing, isActive⟩
        rw [idle] at old
        cases old
      · rw [List.mem_singleton.mp new]
    · intro unloaded
      rw [loaded] at unloaded
      cases unloaded
  | false =>
    rw [enterLoop_failed]
    refine ⟨sole.unique, sole.below, ?_, sole.unloaded⟩
    intro t active
    have old : t ∈ activeTimers s := active
    rw [idle] at old
    cases old

theorem sole_removed {s : Driver} (sole : SoleTimer s) (device : Handle) :
    SoleTimer (deviceRemoved device s) := by
  have kept {t : WdfTimer} (active : t ∈ activeTimers (deviceRemoved device s)) :
      t ∈ activeTimers s := by
    obtain ⟨existing, isActive⟩ := mem_activeTimers.mp active
    exact mem_activeTimers.mpr ⟨(mem_deleteChildren.mp existing).1, isActive⟩
  refine ⟨unique_deleteChildren sole.unique device, ?_, fun t active =>
    sole.named t (kept active), ?_⟩
  · intro t existing
    exact sole.below t (mem_deleteChildren.mp existing).1
  · intro unloaded
    apply List.eq_nil_iff_forall_not_mem.mpr
    intro t active
    have old := kept active
    rw [sole.unloaded unloaded] at old
    cases old

theorem sole_cleanup {s : Driver} (sole : SoleTimer s) : SoleTimer (driverContextCleanup s) := by
  have idle : activeTimers (driverContextCleanup s) = [] := cleanup_stops sole.named
  have changed : (driverContextCleanup s).timers = s.timers ∨
      ∃ h, (driverContextCleanup s).timers = (stopTimer h s).timers := by
    unfold driverContextCleanup
    cases s.timer with
    | none => exact .inl rfl
    | some h => exact .inr ⟨h, rfl⟩
  have keeps (h : Handle) (t : WdfTimer) :
      (if t.handle = h then { t with active := false } else t).handle = t.handle := by
    split <;> rfl
  have next : (driverContextCleanup s).nextHandle = s.nextHandle := by
    unfold driverContextCleanup
    cases s.timer <;> rfl
  refine ⟨?_, ?_, ?_, fun _ => idle⟩
  · rcases changed with same | ⟨h, stopped⟩
    · rw [same]
      exact sole.unique
    · rw [stopped]
      exact unique_map sole.unique (keeps h)
  · rw [next]
    intro t existing
    rcases changed with same | ⟨h, stopped⟩
    · rw [same] at existing
      exact sole.below t existing
    · rw [stopped] at existing
      obtain ⟨u, old, rfl⟩ := List.mem_map.mp existing
      rw [keeps h u]
      exact sole.below u old
  · intro t active
    rw [idle] at active
    cases active

/-- A preparation that meets the condition keeps the invariant. -/
theorem sole_prepared {s : Driver} (sole : SoleTimer s) (device : Handle) (env : Preparation)
    (loaded : s.unloaded = false) (idle : ReachesLoop s env → activeTimers s = []) :
    SoleTimer (prepareHardware device env s) := by
  rcases prepareHardware_cases device env s with ⟨_, same⟩ | ⟨usb, next, later, _, prepared⟩
  · rw [same]
    exact sole
  · have early : SoleTimer { s with usbDevice := some usb, nextHandle := next } :=
      sole_same sole rfl rfl later rfl
    rcases prepared with ⟨_, stopped⟩ | ⟨_, _, hangs⟩ | ⟨reached, channelCount, looped⟩
    · rw [stopped]
      exact early
    · rw [hangs]
      exact sole_same early rfl rfl le_rfl rfl
    · rw [looped]
      have before : SoleTimer (beforeLoop device env channelCount
          { s with usbDevice := some usb, nextHandle := next }) :=
        sole_same early rfl rfl le_rfl rfl
      exact sole_enterLoop before rfl (idle reached) loaded env.timerCreated

theorem step_sole (s : Driver) (e : Event) (sole : SoleTimer s) (idle : LoopFindsNoTimer s e) :
    SoleTimer (step s e) := by
  unfold step
  split
  next occurs =>
    cases e with
    | deviceAdd created interfaceCreated =>
      simp only [callback, createDevice]
      split
      · exact sole_same sole rfl rfl (Nat.le_succ _) rfl
      · exact sole
    | prepareHardware device env =>
      have loaded : s.unloaded = false := by
        simp only [delivered, Bool.and_eq_true, Bool.not_eq_true'] at occurs
        exact occurs.2.1
      exact sole_prepared sole device env loaded (idle occurs)
    | timerFires timer env => exact sole_same sole rfl rfl le_rfl rfl
    | deviceRemoved device => exact sole_removed sole device
    | driverContextCleanup => exact sole_cleanup sole
  next => exact sole

/-- Entering the loop with a timer active breaks the property, created or not. -/
theorem enterLoop_unsafe {s : Driver} {parent : Handle} (device : s.device = some parent)
    {t : WdfTimer} (active : t ∈ activeTimers s) (timerCreated : Bool) :
    ¬ TimersSafe (enterLoop timerCreated s) := by
  intro safe
  cases timerCreated with
  | true =>
    rw [enterLoop_created device] at safe
    have many := safe.atMostOne
    simp only [activeTimers, List.filter_append, List.length_append, List.filter_cons, if_true,
      List.filter_nil, List.length_singleton] at many
    have running : 0 < (s.timers.filter (·.active)).length := List.length_pos_of_mem active
    omega
  | false =>
    rw [enterLoop_failed] at safe
    have remains : t ∈ activeTimers (driverContextCleanup { s with timer := none }) :=
      (cleanup_active _).mpr ⟨active, by simp⟩
    rw [safe.stopped] at remains
    cases remains

theorem step_needs (s : Driver) (e : Event) (safe : TimersSafe (step s e)) :
    LoopFindsNoTimer s e := by
  cases e with
  | prepareHardware device env =>
    intro occurs reached
    by_contra busy
    obtain ⟨t, active⟩ := List.exists_mem_of_ne_nil _ busy
    rw [step, if_pos occurs] at safe
    simp only [callback] at safe
    rcases prepareHardware_cases device env s with ⟨early, _⟩ | ⟨usb, next, _, _, prepared⟩
    · exact early reached.1
    · rcases prepared with ⟨early, _⟩ | ⟨_, hangs, _⟩ | ⟨_, channelCount, looped⟩
      · exact early reached.1
      · exact hangs reached
      · rw [looped] at safe
        have still : t ∈ activeTimers (beforeLoop device env channelCount
            { s with usbDevice := some usb, nextHandle := next }) := active
        exact enterLoop_unsafe rfl still env.timerCreated safe
  | deviceAdd created interfaceCreated => trivial
  | timerFires timer env => trivial
  | deviceRemoved device => trivial
  | driverContextCleanup => trivial

theorem driverEntry_sole : SoleTimer driverEntry :=
  ⟨unique_nil, by simp [driverEntry], by simp [driverEntry, activeTimers],
    by simp [driverEntry]⟩

/-- In every run, from the driver's entry through any order of events on any devices, at
most one timer is active and a cleanup stops every timer, exactly when each preparation
that runs `enter_loop` finds none active. -/
theorem timers_safe_iff (events : List Event) :
    AllReached step TimersSafe driverEntry events ↔
      EachStep step LoopFindsNoTimer driverEntry events :=
  allReached_iff_eachStep (P := SoleTimer) (J := fun _ => True) (fun _ _ h => h)
    (fun _ sole => timersSafe_of_sole sole) (fun s e _ sole idle => step_sole s e sole idle)
    (fun s e _ _ safe => step_needs s e safe) trivial driverEntry_sole events

/-- One panel prepared twice has two active timers; when the second creation fails, the
first timer outlives the cleanup. -/
theorem prepared_twice_unsafe :
    ¬ (∀ events, AllReached step TimersSafe driverEntry events) ∧
      (activeTimers (run step driverEntry
        [.deviceAdd true true, .prepareHardware 0 (allSucceed 0x81),
          .prepareHardware 0 (allSucceed 0x81)])).length = 2 ∧
      (activeTimers (run step driverEntry
        [.deviceAdd true true, .prepareHardware 0 (allSucceed 0x81),
          .prepareHardware 0 { allSucceed 0x81 with timerCreated := false },
            .driverContextCleanup])).length = 1 := by
  refine ⟨fun safe => ?_, by decide, by decide⟩
  have one := (safe [.deviceAdd true true, .prepareHardware 0 (allSucceed 0x81),
    .prepareHardware 0 (allSucceed 0x81)]).last.atMostOne
  revert one
  decide

end PerformancePanel.Guarantees.UmdfTimers

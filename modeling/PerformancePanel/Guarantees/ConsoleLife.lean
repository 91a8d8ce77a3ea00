import Mathlib.Data.Nat.Find
import PerformancePanel.Guarantees.TickDelivery
import PerformancePanel.Source.ConsoleMain

/-!
# The life of a program on libusb

The console program ignores what `open_device` returns, so its calls into libusb are in
order exactly when opening succeeds; it then gives back the interface and the handle, and
the context never. The Qt program looks at the status, so its calls always are, those of its
dialogs included, and it gives nothing back. `enter_loop` is left by the first tick in which
a transfer to a bound channel fails, and otherwise never.
-/
set_option autoImplicit false

namespace PerformancePanel.Guarantees.ConsoleLife
open Source Source.Common Source.DataSources Source.Collector Source.PanelSetup Source.FrontEnds
  Source.Tick
open Source.LibUsb Source.ConsoleMain Library
open Source.DataSourceInterface (DataSourceApi)
open Source.AdjustDialog (QtEnding)
open TickDelivery (Delivered reached_delivered boundFrom_ascending)

/-! ## Calls in order -/

/-- What a program holds that has opened the panel. -/
def opened (env : OpenEnv) : Finset Resource :=
  {.interface (selected env), .handle (selected env), .context}

/-- Transfers on a held handle leave what is held. -/
theorem transfers_uses {held : Finset Resource} {handle : DeviceHandle}
    (isHeld : .handle handle ∈ held) (transfers : List ControlTransfer) :
    Resources.acts held ((transferCalls handle transfers).flatMap Call.actions) = some held := by
  refine Resources.acts_uses fun action member => ?_
  obtain ⟨call, made, inside⟩ := List.mem_flatMap.mp member
  obtain ⟨transfer, -, rfl⟩ := List.mem_map.mp made
  exact ⟨_, isHeld, List.mem_singleton.mp inside⟩

/-- A transfer on a handle that is not held is out of order. -/
theorem transfers_unheld {held : Finset Resource} {handle : DeviceHandle}
    (notHeld : .handle handle ∉ held) {transfers : List ControlTransfer} (sent : transfers ≠ []) :
    Resources.acts held ((transferCalls handle transfers).flatMap Call.actions) = none := by
  obtain ⟨transfer, rest, rfl⟩ := List.exists_cons_of_ne_nil sent
  have first : Resources.act held (.use (.handle handle)) = none := if_neg notHeld
  show Resources.acts held ([.use (.handle handle)] ++
    (transferCalls handle rest).flatMap Call.actions) = none
  refine Resources.acts_undisciplined ?_ _
  rw [Resources.acts_cons, first, Option.bind_none]

section calls
variable (env : MainEnv) (p : Program)

/-- The calls of a program that has opened the panel are in order, whatever it has sent. -/
theorem calls_opened (success : (openDevice env.usb).status = .success)
    (transfers : List ControlTransfer) :
    heldAfter ((openDevice env.usb).calls ++
      transferCalls (openDevice env.usb).deviceHandle transfers) = some (opened env.usb) := by
  rcases openDevice_cases env.usb with ⟨-, handle, -, held⟩ | ⟨failed, -⟩ | ⟨failed, -⟩
    | ⟨failed, -⟩
  · rw [heldAfter_append, held, Option.bind_some, handle]
    exact transfers_uses (by simp) transfers
  · rw [success] at failed
    cases failed
  · rw [success] at failed
    cases failed
  · rw [success] at failed
    cases failed

/-- Closing after it gives back the interface and the handle. -/
theorem closed_opened (success : (openDevice env.usb).status = .success) :
    heldAfter (callsSoFar env p ++ closeDevice (openDevice env.usb).deviceHandle) =
      some {.context} := by
  rw [heldAfter_append, callsSoFar, calls_opened env success, Option.bind_some]
  rcases openDevice_cases env.usb with ⟨-, handle, -, -⟩ | ⟨failed, -⟩ | ⟨failed, -⟩ | ⟨failed, -⟩
  · rw [handle]
    have interface : Resource.interface (selected env.usb) ∈ opened env.usb := by simp [opened]
    have handle' : Resource.handle (selected env.usb) ∈ opened env.usb := by simp [opened]
    have still : Resource.handle (selected env.usb) ∈ (opened env.usb).erase
      (.interface (selected env.usb)) := by
      simp [opened]
    have left : ((opened env.usb).erase (.interface (selected env.usb))).erase
      (.handle (selected env.usb)) =
        {.context} := by
      ext r
      cases r <;> simp [opened]
    show Resources.acts (opened env.usb) [.use (.handle (selected env.usb)),
      .release (.interface (selected env.usb)), .release (.handle (selected env.usb))] =
        some {.context}
    simp only [Resources.acts_cons, Resources.act, if_pos handle', if_pos interface, if_pos still,
      Option.bind_some, left, Resources.acts_nil]
  · rw [success] at failed
    cases failed
  · rw [success] at failed
    cases failed
  · rw [success] at failed
    cases failed

/-- A program that has not opened the panel and closes it after a transfer makes a call on
what it does not hold. -/
theorem closed_unopened (failed : (openDevice env.usb).status ≠ .success)
    (sent : p.transfers ≠ []) :
    heldAfter (callsSoFar env p ++ closeDevice (openDevice env.usb).deviceHandle) = none := by
  rw [callsSoFar, List.append_assoc, heldAfter_append, List.flatMap_append]
  rcases openDevice_cases env.usb with ⟨success, -⟩ | ⟨-, handle, -, held⟩ | ⟨-, handle, held⟩ |
    ⟨-, handle, held⟩
  · exact absurd success failed
  · -- the handle is open, its interface not claimed
    rw [held, Option.bind_some, handle, Resources.acts_append,
      transfers_uses (by simp), Option.bind_some]
    show Resources.acts _ [.use (Resource.handle (selected env.usb)),
      .release (Resource.interface (selected env.usb)),
        .release (Resource.handle (selected env.usb))] = none
    simp [Resources.acts_cons, Resources.act]
  · rw [held, Option.bind_some, handle, Resources.acts_append, transfers_unheld (by simp) sent,
      Option.bind_none]
  · rw [held, Option.bind_some, handle, Resources.acts_append, transfers_unheld (by simp) sent,
      Option.bind_none]

end calls

/-! ## The two programs -/

theorem console_queries (env : MainEnv) : env.console.transfers = [queryTransfer] := by
  show (queryAndInitialize env.startup fun _ => true).transfers = _
  unfold queryAndInitialize
  split <;> rfl

/-- Every later state of the console program has sent the query. -/
theorem ticked_sent (envs : Nat → TickEnv) {p : Program} (sent : p.transfers ≠ []) (count : Nat) :
    (ticked envs p count).program.transfers ≠ [] := by
  induction count with
  | zero => exact sent
  | succ count ih =>
    rw [ticked_succ]
    exact List.append_ne_nil_of_left_ne_nil ih _

theorem unixMain_some {fuel : Nat} {envs : Nat → TickEnv} {env : MainEnv} {calls : List Call}
    (returned : unixMain fuel envs env = some calls) :
    ∃ k, calls = callsSoFar env (ticked envs env.console k).program ++
      closeDevice (openDevice env.usb).deviceHandle := by
  unfold unixMain at returned
  split at returned
  next =>
    split at returned
    next p ticks status left =>
      obtain ⟨k, -, -, -, reached⟩ := enterLoop_some_iff.mp left
      refine ⟨k, ?_⟩
      rw [reached]
      exact (Option.some.inj returned).symm
    next => cases returned
    next => cases returned
    next => cases returned
  next => cases returned

/-- The Qt program sends nothing without the panel. -/
theorem qt_unopened {σ ω : Type} (api : ω → DataSourceApi σ) (reader : σ) {env : MainEnv}
    (failed : (openDevice env.usb).status ≠ .success)
    (events : List (PanelTraffic.Event ω QtEnding)) : qtTransfers api reader env events = [] := by
  have returned : env.qt = ⟨false, 0, ⟨none, none⟩, SystemTimes.zero, false, false, []⟩ :=
    if_neg failed
  rw [qtTransfers, returned]
  rfl

/-- What a program holds when `open_device` has returned. -/
def heldByOpen (env : OpenEnv) : Finset Resource :=
  match (openDevice env).status with
  | .success => opened env
  | .deviceConfigurationFailed => {.handle (selected env), .context}
  | .deviceNotFound => {.context}
  | _ => ∅

theorem heldAfter_open (env : OpenEnv) :
    heldAfter (openDevice env).calls = some (heldByOpen env) := by
  rcases openDevice_cases env with ⟨status, -, -, held⟩ | ⟨status, -, -, held⟩ | ⟨status, -, held⟩ |
    ⟨status, -, held⟩
  · rw [held, heldByOpen, status]
    rfl
  · rw [held, heldByOpen, status]
  · rw [held, heldByOpen, status]
  · rw [held, heldByOpen, status]

/-- Whatever libusb answers and however the transfers go: after any number of ticks the calls
of a console program that opened the panel are in order with the handle still held; when it
returns, its calls were in order exactly if opening had succeeded, and then only the context
is left. The calls of the Qt program are in order in every run of its timer, its dialogs and
its end; it holds at the end what `open_device` left it. -/
theorem usb_calls_in_order (env : MainEnv) (envs : Nat → TickEnv) :
    ((openDevice env.usb).status = .success →
      ∀ count, heldAfter (callsSoFar env (ticked envs env.console count).program) =
        some (opened env.usb)) ∧
    (∀ fuel calls, unixMain fuel envs env = some calls →
      heldAfter calls = if (openDevice env.usb).status = .success then some {.context} else none) ∧
    ∀ {σ ω : Type} (api : ω → DataSourceApi σ) (reader : σ)
      (events : List (PanelTraffic.Event ω QtEnding)),
      heldAfter (qtCalls api reader env events) = some (heldByOpen env.usb) := by
  refine ⟨fun success count => calls_opened env success _, fun fuel calls returned => ?_,
    fun api reader events => ?_⟩
  · obtain ⟨k, rfl⟩ := unixMain_some returned
    split
    next success => exact closed_opened env _ success
    next failed =>
      have queried : env.console.transfers ≠ [] := by
        rw [console_queries]
        exact List.cons_ne_nil _ _
      exact closed_unopened env _ failed (ticked_sent envs queried k)
  · rw [qtCalls]
    by_cases success : (openDevice env.usb).status = .success
    · rw [calls_opened env success, heldByOpen, success]
    · rw [qt_unopened api reader success]
      show heldAfter ((openDevice env.usb).calls ++ []) = _
      rw [List.append_nil, heldAfter_open]

/-- Two panels; a CBC one is preferred, whose interface is free or in use elsewhere. -/
def panel (claims : Bool) : OpenEnv where
  initContext := true
  openDevice := fun pid => if pid = .cbc then 1 else 2
  claimInterface := fun _ => claims

/-- A panel of one calibration channel, answered in order. -/
def oneChannel (claims : Bool) : MainEnv where
  usb := panel claims
  setup := {
    queryStatus := .success
    queryReply := 0x81
    fuel := 0
    callbacksAllocated := true
    calibrationsAllocated := true
    boundCall := fun _ => ⟨some (some .calibration), some 0xFF, .success⟩ }

/-- The panel is unplugged before the third tick. -/
def unplugged (k : Nat) : TickEnv where
  os := fun _ => ⟨none, none, none, none, 0⟩
  transfer := fun _ => transferStatus (if k < 2 then 0 else -4)

/-- With the interface in use elsewhere the program still runs, and fails at its end. -/
theorem usb_calls_in_order_unplugged :
    (∃ calls, unixMain 3 unplugged (oneChannel true) = some calls ∧
      heldAfter calls = some {.context}) ∧
      ∃ calls, unixMain 3 unplugged (oneChannel false) = some calls ∧ heldAfter calls = none := by
  refine ⟨⟨_, rfl, ?_⟩, ⟨_, rfl, ?_⟩⟩
  · exact (usb_calls_in_order (oneChannel true) unplugged).2.1 3 _ rfl
  · exact (usb_calls_in_order (oneChannel false) unplugged).2.1 3 _ rfl

/-! ## When the loop is left -/

/-- A transfer to a bound channel fails in the tick. -/
def Fails (env : TickEnv) (t : Tables) (count : Nat) : Prop :=
  ∃ channel < count, t.callback channel ≠ none ∧ env.transfer channel ≠ .success

/-- What a tick returns that fails: the status of the lowest bound channel whose transfer does. -/
def FailsWith (env : TickEnv) (t : Tables) (count : Nat) (status : Status) : Prop :=
  ∃ channel < count, t.callback channel ≠ none ∧ env.transfer channel = status ∧ status ≠ .success ∧
    ∀ c < channel, t.callback c ≠ none → env.transfer c = .success

/-- The status of a tick, from the walk over its bound channels. -/
theorem tick_status (env : TickEnv) (t : Tables) (count : Nat) :
    (finalStatus env (boundFrom t count 0) = .success ∧ ¬ Fails env t count) ∨
      (Fails env t count ∧ FailsWith env t count (finalStatus env (boundFrom t count 0))) := by
  have ascending := boundFrom_ascending t count 0
  have member (c : Nat) (source : DataSource) : (c, source) ∈ boundFrom t count 0 ↔
      c < count ∧ t.callback c = some source := by
    rw [mem_boundFrom, Nat.zero_add]
    exact and_congr_left fun _ => and_iff_right (Nat.zero_le c)
  have delivered := reached_delivered env (boundFrom t count 0)
  generalize boundFrom t count 0 = bound at ascending member delivered ⊢
  generalize walked : reached env bound = sent at delivered
  generalize outcome : Outcome.returned (finalStatus env bound) = result at delivered
  cases delivered with
  | all ok =>
    refine Or.inl ⟨Outcome.returned.inj outcome, ?_⟩
    rintro ⟨channel, below, isBound, failed⟩
    obtain ⟨source, callback⟩ := Option.ne_none_iff_exists'.mp isBound
    exact failed (ok (channel, source) ((member channel source).mpr ⟨below, callback⟩))
  | cut earlier entry later split ok failed =>
    obtain ⟨channel, source⟩ := entry
    have inside : (channel, source) ∈ bound := by rw [split]; simp
    obtain ⟨below, callback⟩ := (member channel source).mp inside
    have isBound : t.callback channel ≠ none := by rw [callback]; simp
    refine Or.inr ⟨⟨channel, below, isBound, failed⟩,
      ⟨channel, below, isBound, (Outcome.returned.inj outcome).symm, ?_,
        fun c lower boundToo => ?_⟩⟩
    · rw [Outcome.returned.inj outcome]
      exact failed
    · -- a lower bound channel stands before the failing one in the walk
      obtain ⟨source', callback'⟩ := Option.ne_none_iff_exists'.mp boundToo
      have there := (member c source').mpr ⟨by omega, callback'⟩
      rw [split] at there ascending
      rcases List.mem_append.mp there with before | after
      · exact ok (c, source') before
      · rw [List.map_append, List.pairwise_append] at ascending
        have sorted := ascending.2.1
        rw [List.map_cons, List.pairwise_cons] at sorted
        rcases List.mem_cons.mp after with same | behind
        · have equal := (Prod.mk.inj same).1
          omega
        · have above := sorted.1 c (List.mem_map.mpr ⟨(c, source'), behind, rfl⟩)
          omega

section loop
variable {envs : Nat → TickEnv} {p : Program} {t : Tables} (arrays : p.arrays = t.arrays)
  (sized : t.Sized p.channelCount.toNat)
include arrays sized

/-- The status after a tick is the one of its walk. -/
theorem ticked_status (k : Nat) : (ticked envs p (k + 1)).status =
    .returned (finalStatus (envs k) (boundFrom t p.channelCount.toNat 0)) := by
  obtain ⟨keptArrays, keptCount⟩ := @ticked_kept envs p k
  rw [ticked_succ]
  show (mainLoopCallback (envs (ticked envs p k).ticks) (ticked envs p k).program.channelCount
    (ticked envs p k).program.arrays (ticked envs p k).program.lastTimes).outcome = _
  rw [ticked_ticks, keptArrays, keptCount, arrays]
  exact mainLoopCallback_outcome sized

theorem ticked_succeeds_iff (k : Nat) : (ticked envs p (k + 1)).status = .returned .success ↔
    ¬ Fails (envs k) t p.channelCount.toNat := by
  rw [ticked_status arrays sized, Outcome.returned.injEq]
  rcases tick_status (envs k) t p.channelCount.toNat with
    ⟨success, quiet⟩ | ⟨fails, channel, -, -, -, failed, -⟩
  · exact ⟨fun _ => quiet, fun _ => success⟩
  · exact ⟨fun success => absurd success failed, fun quiet => absurd fails quiet⟩

/-- The loop is left right after the first tick that fails. -/
theorem enterLoop_left_iff {fuel : Nat} {l : Loop} : enterLoop fuel envs p = some l ↔
    ∃ k < fuel, Fails (envs k) t p.channelCount.toNat ∧
      (∀ j < k, ¬ Fails (envs j) t p.channelCount.toNat) ∧ ticked envs p (k + 1) = l := by
  rw [enterLoop_some_iff]
  constructor
  · rintro ⟨k, inTime, before, failed, reached⟩
    cases k with
    | zero => exact absurd rfl failed
    | succ k =>
      refine ⟨k, inTime, not_not.mp fun quiet => ?_, fun j lower => ?_, reached⟩
      · exact failed ((ticked_succeeds_iff arrays sized k).mpr quiet)
      · exact (ticked_succeeds_iff arrays sized j).mp (before (j + 1) (Nat.succ_lt_succ lower))
  · rintro ⟨k, inTime, fails, before, reached⟩
    refine ⟨k + 1, inTime, fun j lower => ?_, fun success => ?_, reached⟩
    · cases j with
      | zero => rfl
      | succ j =>
        exact (ticked_succeeds_iff arrays sized j).mpr (before j (Nat.lt_of_succ_lt_succ lower))
    · exact (ticked_succeeds_iff arrays sized k).mp success fails

/-- Some number of iterations is enough exactly when some tick fails. -/
theorem enterLoop_returns_iff : (∃ fuel l, enterLoop fuel envs p = some l) ↔
    ∃ k, Fails (envs k) t p.channelCount.toNat := by
  classical
  constructor
  · rintro ⟨fuel, l, left⟩
    obtain ⟨k, -, fails, -⟩ := (enterLoop_left_iff arrays sized).mp left
    exact ⟨k, fails⟩
  · intro fails
    refine ⟨Nat.find fails + 1, ticked envs p (Nat.find fails + 1),
      (enterLoop_left_iff arrays sized).mpr ?_⟩
    exact ⟨Nat.find fails, Nat.lt_succ_self _, Nat.find_spec fails, fun j lower =>
      Nat.find_min fails lower, rfl⟩

end loop

/-- On two allocated blocks the console program returns exactly when the transfer of some
bound channel fails in some tick: with nothing bound it never does. The loop is then left
right after the first such tick, with the status of its lowest failing channel, which on
libusb is always `STATUS_DEVICE_CONFIGURATION_FAILED`; every tick before it succeeded. -/
theorem console_returns_iff (envs : Nat → TickEnv) (env : MainEnv) {t : Tables}
    (running : env.console.running = true) (arrays : env.console.arrays = t.arrays)
    (sized : t.Sized env.console.channelCount.toNat) :
    ((∃ fuel calls, unixMain fuel envs env = some calls) ↔
      ∃ k, Fails (envs k) t env.console.channelCount.toNat) ∧
    ∀ fuel l, enterLoop fuel envs env.console = some l → ∃ k status,
      l.ticks = k + 1 ∧ l.status = .returned status ∧
      FailsWith (envs k) t env.console.channelCount.toNat status ∧
      (∀ j < k, ¬ Fails (envs j) t env.console.channelCount.toNat) ∧
      ((∀ c, ∃ ret, (envs k).transfer c = transferStatus ret) →
        status = .deviceConfigurationFailed) := by
  constructor
  · rw [← enterLoop_returns_iff arrays sized]
    constructor
    · rintro ⟨fuel, calls, returned⟩
      unfold unixMain at returned
      rw [if_pos running] at returned
      cases left : enterLoop fuel envs env.console with
      | none =>
        rw [left] at returned
        cases returned
      | some l => exact ⟨fuel, l, left⟩
    · rintro ⟨fuel, l, left⟩
      obtain ⟨k, -, -, -, rfl⟩ := (enterLoop_left_iff arrays sized).mp left
      have status := @ticked_status envs _ t arrays sized k
      refine ⟨fuel, callsSoFar env (ticked envs env.console (k + 1)).program ++
        closeDevice (openDevice env.usb).deviceHandle, ?_⟩
      unfold unixMain
      rw [if_pos running, left]
      generalize ticked envs env.console (k + 1) = l at status
      obtain ⟨program, ticks, outcome⟩ := l
      dsimp only at status
      subst status
      rfl
  · intro fuel l left
    obtain ⟨k, -, fails, before, rfl⟩ := (enterLoop_left_iff arrays sized).mp left
    rcases tick_status (envs k) t env.console.channelCount.toNat with ⟨-, quiet⟩ | ⟨-, failsWith⟩
    · exact absurd fails quiet
    · refine ⟨k, _, ticked_ticks (k + 1), ticked_status arrays sized k, failsWith, before,
        fun libusb => ?_⟩
      obtain ⟨channel, -, -, same, failed, -⟩ := failsWith
      obtain ⟨ret, returned⟩ := libusb channel
      rw [returned] at same
      rw [← same] at failed ⊢
      unfold transferStatus at failed ⊢
      split
      next => rfl
      next positive =>
        rw [if_neg positive] at failed
        exact absurd rfl failed

theorem console_returns_unplugged :
    ∃ fuel calls, unixMain fuel unplugged (oneChannel true) = some calls := by
  have returns := @console_returns_iff unplugged (oneChannel true) ⟨[some .calibration], [0xFF]⟩ rfl
    rfl ⟨rfl, rfl⟩
  refine returns.1.mpr ⟨2, 0, by decide, ?_, by decide⟩
  have bound : (⟨[some .calibration], [0xFF]⟩ : Tables).callback 0 = some .calibration := rfl
  rw [bound]
  simp

end PerformancePanel.Guarantees.ConsoleLife

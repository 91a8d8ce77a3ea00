import PerformancePanel.Guarantees.AdjustPreview
import PerformancePanel.Source.PanelTraffic

/-!
# What the panel shows

A channel of the panel shows what the last event that got a packet through to it had it
show: a tick the scaled reading of its source, if no transfer to a bound channel up to it
failed; the adjust dialog of the channel the value of its slider; the end of the program
zero. The program never notices which of its packets were lost.
-/
set_option autoImplicit false

namespace PerformancePanel.Guarantees.PanelLevels
open Source Source.Common Source.DataSources Source.Collector Source.DataSourceInterface
open Source.AdjustDialog hiding step
open Source.PanelSetup Source.PanelTraffic Source.Tick Source.JsonLibrary Library
open Source.LinuxReader (Linux)
open Source.WindowsReader (Windows RegistryEnv)
open SetterAtomicity (linuxApiWith windowsApiWith)
open BindingRestored (firstWindows firstWindows_started)
open LinuxRestart (allDone firstStart)
open AdjustPreview (ArrayEffects Opens Cleared)

/-! ## What one event shows -/

/-- The MFC dialog opens without a packet. -/
def mfcPreview (_ : UInt8) (_ : Nat → Status) : Option UInt8 := none

/-- The Qt dialog sends the calibration once, and before that through its slider unless it
is zero. -/
def qtPreview (value : UInt8) (status : Nat → Status) : Option UInt8 :=
  if status 0 = .success ∨ (value ≠ 0 ∧ status 1 = .success) then some value else none

section shows
variable {σ ω Ending : Type} (tables : σ → Tables) (preview : UInt8 → (Nat → Status) → Option UInt8)
  (channelCount : UInt8) (channel : Nat)

def sessionShows (s : Session σ) (status : Nat → Status) : AdjustDialog.Event Ending → Option UInt8
  | .tick env => tickShows env (tables s.reader) s.lastTimes channelCount channel
  | .openDialog other =>
    if (s.dialog.isNone ∧ other < channelCount.toNat) ∧ other = channel then
      preview ((tables s.reader).calibration channel) status
    else none
  | .slide value =>
    if s.dialog.map Dialog.channel = some channel ∧ status 0 = .success then some value else none
  | .selectName _ => none
  | .endDialog _ => none

/-- The level an event has the channel show; `none` leaves it. -/
def eventShows (p : Control σ) : PanelTraffic.Event ω Ending → Option UInt8
  | .session _ event status =>
    if p.running then sessionShows tables preview channelCount channel p.session status event
      else none
  | .leave status =>
    if p.running ∧ channel < channelCount.toNat ∧ status channel = .success then some 0 else none

end shows

/-! ## Transfers whose status is ignored -/

theorem mem_exchanged {status : Nat → Status} {packets : List ControlTransfer} {x : Exchange} :
    x ∈ exchanged status packets ↔ ∃ i, packets[i]? = some x.packet ∧ x.status = status i := by
  unfold exchanged
  rw [List.mem_map]
  constructor
  · rintro ⟨⟨packet, i⟩, member, rfl⟩
    exact ⟨i, List.mem_zipIdx_iff_getElem?.mp member, rfl⟩
  · rintro ⟨i, at_i, same⟩
    exact ⟨(x.packet, i), List.mem_zipIdx_iff_getElem?.mpr at_i, by rw [← same]⟩

/-- One level sent to one channel any number of times. -/
theorem repeated_levels {status : Nat → Status} (before : Nat → UInt8) {target : Nat}
    (small : target < 256) (value : UInt8) (times channel : Nat) :
    levels before (exchanged status (List.replicate times (sendUsage (UInt8.ofNat target) value)))
      channel =
      if target = channel ∧ ∃ i < times, status i = .success then value else before channel := by
  have its : (sendUsage (UInt8.ofNat target) value).channel.toNat = target := by
    rw [sendUsage_channel, UInt8.toNat_ofNat_of_lt' small]
  have packets : ∀ x ∈ exchanged status
      (List.replicate times (sendUsage (UInt8.ofNat target) value)),
      ∃ i < times, x.packet = sendUsage (UInt8.ofNat target) value ∧ x.status = status i := by
    intro x member
    obtain ⟨i, at_i, same⟩ := mem_exchanged.mp member
    rw [List.getElem?_replicate] at at_i
    obtain ⟨below, packet⟩ := Option.ite_none_right_eq_some.mp at_i
    exact ⟨i, below, (Option.some.inj packet).symm, same⟩
  split
  next through =>
    obtain ⟨rfl, i, below, ok⟩ := through
    have member : (⟨sendUsage (UInt8.ofNat target) value, status i⟩ : Exchange) ∈
        exchanged status (List.replicate times (sendUsage (UInt8.ofNat target) value)) :=
      mem_exchanged.mpr ⟨i, by rw [List.getElem?_replicate, if_pos below], rfl⟩
    refine levels_agree member (accepted_some.mpr ⟨ok, rfl, its, sendUsage_level _ _⟩)
      fun y inside _ _ => ?_
    obtain ⟨_, -, packet, -⟩ := packets y inside
    rw [packet, sendUsage_level]
  next lost =>
    refine levels_untouched fun x member ok here => ?_
    obtain ⟨i, below, packet, same⟩ := packets x member
    rw [packet, its] at here
    exact lost ⟨here, i, below, same ▸ ok⟩

/-- The zero levels sent at the end. -/
theorem zeroLevels_levels (status : Nat → Status) (before : Nat → UInt8) (channelCount : UInt8)
    (channel : Nat) :
    levels before (exchanged status (zeroLevels channelCount)) channel =
      if channel < channelCount.toNat ∧ status channel = .success then 0 else before channel := by
  have small := channelCount.toNat_lt
  have at_iff (i : Nat) (packet : ControlTransfer) : (zeroLevels channelCount)[i]? = some packet ↔
      i < channelCount.toNat ∧ packet = sendUsage (UInt8.ofNat i) 0 := by
    rw [zeroLevels, List.getElem?_map]
    by_cases below : i < channelCount.toNat
    · rw [List.getElem?_range below]
      simp [below, eq_comm]
    · rw [List.getElem?_eq_none (by rw [List.length_range]; omega)]
      simp [below]
  have its {i : Nat} (below : i < channelCount.toNat) :
      (sendUsage (UInt8.ofNat i) 0).channel.toNat = i := by
    rw [sendUsage_channel, UInt8.toNat_ofNat_of_lt' (lt_trans below small)]
  split
  next through =>
    obtain ⟨below, ok⟩ := through
    have member : (⟨sendUsage (UInt8.ofNat channel) 0, status channel⟩ : Exchange) ∈
        exchanged status (zeroLevels channelCount) :=
      mem_exchanged.mpr ⟨channel, (at_iff channel _).mpr ⟨below, rfl⟩, rfl⟩
    refine levels_agree member (accepted_some.mpr ⟨ok, rfl, its below, sendUsage_level _ _⟩)
      fun y inside _ _ => ?_
    obtain ⟨i, at_i, -⟩ := mem_exchanged.mp inside
    rw [((at_iff i _).mp at_i).2, sendUsage_level]
  next lost =>
    refine levels_untouched fun x member ok here => ?_
    obtain ⟨i, at_i, same⟩ := mem_exchanged.mp member
    obtain ⟨below, packet⟩ := (at_iff i _).mp at_i
    rw [packet, its below] at here
    subst here
    exact lost ⟨below, same ▸ ok⟩

/-! ## What the dialogs send -/

/-- Opening a dialog of the toolkit sends its channel one level, if anything. -/
def Sends {σ Ending : Type} (tables : σ → Tables) (preview : UInt8 → (Nat → Status) → Option UInt8)
    (T : Toolkit σ Ending) : Prop :=
  ∀ count channel s, (tables s.reader).Sized count → channel < count →
    ∃ times, (T.opens channel s).sent = s.sent ++
        List.replicate times
          (sendUsage (UInt8.ofNat channel) ((tables s.reader).calibration channel)) ∧
      ∀ status, preview ((tables s.reader).calibration channel) status =
        if ∃ i < times, status i = .success then some ((tables s.reader).calibration channel)
          else none

section sends
variable {σ : Type} {tables : σ → Tables} {api : DataSourceApi σ}

theorem mfc_sends : Sends tables mfcPreview (mfc api) := by
  intro count channel s _ _
  refine ⟨0, (List.append_nil _).symm, fun status => (if_neg ?_).symm⟩
  rintro ⟨i, below, -⟩
  exact absurd below (Nat.not_lt_zero i)

theorem qt_sends (effects : ArrayEffects tables api) : Sends tables qtPreview (qt api) := by
  intro count channel s sized below
  have same := effects.same
  subst same
  by_cases zero : (api.tables s.reader).calibration channel = 0
  · have cleared := (AdjustPreview.cacheAndClear_opens effects count channel s sized below).2.2.1
    refine ⟨1, ?_, fun status => ?_⟩
    · show (adjustDialog api channel s).sent = _
      simp only [adjustDialog, if_pos zero, cleared]
      rfl
    · simp [qtPreview, zero]
  · have sized' := (@AdjustPreview.calibrate_keeps σ api.tables api effects count s.reader channel
      ((api.tables s.reader).calibration channel)).1.mpr sized
    have kept := AdjustPreview.calibrate_same effects sized below
    have cleared := (AdjustPreview.cacheAndClear_opens effects count channel
      (onSlide api channel ((api.tables s.reader).calibration channel) s) sized' below).2.2.1
    have shown : (api.tables (cacheAndClear api channel (onSlide api channel
        ((api.tables s.reader).calibration channel) s)).reader).calibration channel =
        (api.tables s.reader).calibration channel := cleared.trans kept
    refine ⟨2, ?_, fun status => ?_⟩
    · show (adjustDialog api channel s).sent = _
      simp only [adjustDialog, if_neg zero, shown]
      exact List.append_assoc _ _ _
    · simp only [qtPreview, ne_eq, zero, not_false_eq_true, true_and]
      refine if_congr ⟨?_, ?_⟩ rfl rfl
      · rintro (ok | ok)
        · exact ⟨0, by decide, ok⟩
        · exact ⟨1, by decide, ok⟩
      · rintro ⟨i, small, ok⟩
        have cases : i = 0 ∨ i = 1 := by omega
        rcases cases with rfl | rfl
        · exact Or.inl ok
        · exact Or.inr ok

end sends

/-! ## One event of a program -/

section step
variable {σ ω Ending : Type} {tables : σ → Tables} {api : ω → DataSourceApi σ}
  (effects : ∀ w, ArrayEffects tables (api w)) {toolkit : DataSourceApi σ → Toolkit σ Ending}
  (opening : ∀ w, Opens tables (toolkit (api w)) (api w))
  {preview : UInt8 → (Nat → Status) → Option UInt8}
    (sends : ∀ w, Sends tables preview (toolkit (api w)))
  {channelCount : UInt8}

/-- What one event sends. -/
theorem fresh_of_sent {s after : Session σ} {packets : List ControlTransfer}
    (sent : after.sent = s.sent ++ packets) : fresh s after = packets := by
  rw [fresh, sent, List.drop_left]

include effects sends in
/-- An event of a session leaves on each channel what it has it show. -/
theorem session_levels {s : Session σ} (cleared : Cleared tables channelCount.toNat s) (storage : ω)
    (event : AdjustDialog.Event Ending) (status : Nat → Status) (before : Nat → UInt8)
    (channel : Nat) :
    levels before (exchangesOf status
      (fresh s (AdjustDialog.step (api storage) (toolkit (api storage))
        channelCount s event)) event) channel =
      (sessionShows tables preview channelCount channel s status event).getD (before channel) := by
  have small := channelCount.toNat_lt
  cases event with
  | tick env =>
    rw [fresh_of_sent (AdjustPreview.tick_sent (effects storage) env)]
    exact tick_levels cleared.sized before channel
  | openDialog target =>
    simp only [AdjustDialog.step, sessionShows, exchangesOf]
    by_cases allowed : s.dialog.isNone ∧ target < channelCount.toNat
    · obtain ⟨times, sent, previewed⟩ :=
        sends storage channelCount.toNat target s cleared.sized allowed.2
      rw [if_pos allowed, fresh_of_sent sent, repeated_levels before (by omega)]
      by_cases here : target = channel
      · subst here
        simp only [allowed, previewed, true_and]
        split <;> rfl
      · simp only [here, and_false, false_and, if_false, Option.getD_none]
    · rw [if_neg allowed, if_neg fun both => allowed both.1, fresh_of_sent (List.append_nil _).symm]
      rfl
  | slide value =>
    simp only [AdjustDialog.step, sessionShows, exchangesOf]
    cases isOpen : s.dialog with
    | none =>
      rw [fresh_of_sent (List.append_nil _).symm]
      rfl
    | some d =>
      have sent : (onSlide (api storage) d.channel value s).sent =
          s.sent ++ List.replicate 1 (sendUsage (UInt8.ofNat d.channel) value) := rfl
      have below := (cleared.dialog d isOpen).1
      rw [fresh_of_sent sent, repeated_levels before (by omega)]
      simp only [Option.map_some, Option.some.injEq, Nat.lt_one_iff, exists_eq_left]
      split <;> rfl
  | selectName name =>
    have sent : (AdjustDialog.step (api storage) (toolkit (api storage)) channelCount s
        (.selectName name)).sent = s.sent ++ [] := by
      rw [List.append_nil]
      simp only [AdjustDialog.step]
      cases s.dialog with
      | none => rfl
      | some d =>
        dsimp only
        split <;> rfl
    rw [fresh_of_sent sent]
    rfl
  | endDialog ending =>
    have sent : (AdjustDialog.step (api storage) (toolkit (api storage)) channelCount s
        (.endDialog ending)).sent = s.sent ++ [] := by
      rw [List.append_nil]
      simp only [AdjustDialog.step]
      cases s.dialog <;> rfl
    rw [fresh_of_sent sent]
    rfl

include effects sends in
/-- So does every event of a program. -/
theorem step_levels {p : Control σ} (cleared : Cleared tables channelCount.toNat p.session)
    (e : PanelTraffic.Event ω Ending) (before : Nat → UInt8) (channel : Nat) :
    levels before (step api toolkit channelCount p e).exchanges channel =
      (eventShows tables preview channelCount channel p e).getD
      (levels before p.exchanges channel) := by
  cases e with
  | session storage event status =>
    simp only [step, eventShows]
    by_cases running : p.running = true
    · rw [if_pos running, if_pos running, levels_append]
      exact session_levels effects sends cleared storage event status _ channel
    · rw [if_neg running, if_neg running]
      rfl
  | leave status =>
    simp only [step, eventShows]
    by_cases running : p.running = true
    · rw [if_pos running, levels_append, zeroLevels_levels]
      simp only [running, true_and]
      split <;> rfl
    · rw [if_neg running, if_neg fun all => running all.1]
      rfl

include effects opening in
theorem step_cleared {p : Control σ} (cleared : Cleared tables channelCount.toNat p.session)
    (e : PanelTraffic.Event ω Ending) :
    Cleared tables channelCount.toNat (step api toolkit channelCount p e).session := by
  cases e with
  | session storage event status =>
    simp only [step]
    split
    next => exact AdjustPreview.step_cleared (effects storage) (opening storage) cleared event
    next => exact cleared
  | leave status =>
    simp only [step]
    split <;> exact cleared

/-! ## Whole runs -/

/-- No event of the run has the channel show anything. -/
abbrev Quiet (tables : σ → Tables) (api : ω → DataSourceApi σ)
    (toolkit : DataSourceApi σ → Toolkit σ Ending)
    (preview : UInt8 → (Nat → Status) → Option UInt8) (channelCount : UInt8) (channel : Nat) :
    Control σ → List (PanelTraffic.Event ω Ending) → Prop :=
  Runs.EachStep (step api toolkit channelCount) fun p e =>
    eventShows tables preview channelCount channel p e = none

include effects opening in
theorem run_cleared {p : Control σ} (cleared : Cleared tables channelCount.toNat p.session)
    (events : List (PanelTraffic.Event ω Ending)) :
    Cleared tables channelCount.toNat (Runs.run (step api toolkit channelCount) p events).session :=
  (Runs.allReached_of_invariant
    (P := fun p : Control σ => Cleared tables channelCount.toNat p.session)
    (fun _ e before => step_cleared effects opening before e) cleared events).last

include effects opening sends in
/-- A channel that nothing has show anything keeps its level. -/
theorem quiet_keeps {p : Control σ} (cleared : Cleared tables channelCount.toNat p.session)
    {events : List (PanelTraffic.Event ω Ending)} {before : Nat → UInt8} {channel : Nat}
    (quiet : Quiet tables api toolkit preview channelCount channel p events) :
    levels before (Runs.run (step api toolkit channelCount) p events).exchanges channel =
      levels before p.exchanges channel := by
  have keeps : ∀ q e, (Cleared tables channelCount.toNat q.session ∧
        levels before q.exchanges channel = levels before p.exchanges channel) →
      eventShows tables preview channelCount channel q e = none →
      Cleared tables channelCount.toNat (step api toolkit channelCount q e).session ∧
        levels before (step api toolkit channelCount q e).exchanges channel =
          levels before p.exchanges channel := by
    rintro q e ⟨sound, same⟩ nothing
    refine ⟨step_cleared effects opening sound e, ?_⟩
    rw [step_levels effects sends sound, nothing, Option.getD_none, same]
  have kept := (Runs.allReached_of_steps keeps ⟨cleared, rfl⟩ quiet).last
  exact kept.2

include effects opening sends in
/-- The last event that has a channel show a level determines it. -/
theorem last_shown {p : Control σ} (cleared : Cleared tables channelCount.toNat p.session)
    {first rest : List (PanelTraffic.Event ω Ending)} {e : PanelTraffic.Event ω Ending}
    {before : Nat → UInt8} {channel : Nat} {level : UInt8}
    (shows : eventShows tables preview channelCount channel
      (Runs.run (step api toolkit channelCount) p first) e =
      some level)
    (quiet : Quiet tables api toolkit preview channelCount channel
      (Runs.run (step api toolkit channelCount) p (first ++ [e])) rest) :
    levels before (Runs.run (step api toolkit channelCount) p (first ++ e :: rest)).exchanges
      channel = level := by
  have reached := run_cleared effects opening cleared first
  have sound := run_cleared effects opening cleared (first ++ [e])
  have split : first ++ e :: rest = (first ++ [e]) ++ rest := by simp
  rw [split, Runs.run_append, quiet_keeps effects opening sends sound quiet, Runs.run_append]
  exact (step_levels effects sends reached e before channel).trans (by rw [shows]; rfl)

end step

/-! ## What follows for a program -/

section program
variable {σ ω Ending : Type} (tables : σ → Tables) (api : ω → DataSourceApi σ)
  (toolkit : DataSourceApi σ → Toolkit σ Ending) (preview : UInt8 → (Nat → Status) → Option UInt8)
  (channelCount : UInt8)

/-- Every channel shows what it was last given, and one that was given nothing what the panel
showed at first. Channels that the panel has not are given nothing. -/
structure ShowsLast (p : Control σ) : Prop where
  last : ∀ before channel level (first : List (PanelTraffic.Event ω Ending)) e rest,
    eventShows tables preview channelCount channel
      (Runs.run (step api toolkit channelCount) p first) e = some level →
    Quiet tables api toolkit preview channelCount channel
      (Runs.run (step api toolkit channelCount) p (first ++ [e])) rest →
    levels before (Runs.run (step api toolkit channelCount) p (first ++ e :: rest)).exchanges
      channel = level
  never : ∀ before channel events, Quiet tables api toolkit preview channelCount channel p events →
    levels before (Runs.run (step api toolkit channelCount) p events).exchanges channel =
      before channel
  beyond : ∀ channel events, channelCount.toNat ≤ channel →
    Quiet tables api toolkit preview channelCount channel p events

/-- The event has no packet of its own for the higher channel, and a tick fails at the lower,
which is bound. -/
def Starves (low high : Nat) (p : Control σ) : PanelTraffic.Event ω Ending → Prop
  | .session _ (.tick env) _ =>
    (tables p.session.reader).callback low ≠ none ∧ env.transfer low ≠ .success
  | .session _ (.openDialog channel) _ => channel ≠ high
  | .session _ (.slide _) _ => ∀ d, p.session.dialog = some d → d.channel ≠ high
  | .session _ (.selectName _) _ => True
  | .session _ (.endDialog _) _ => True
  | .leave _ => False

/-- One failing channel freezes every channel above it for as long as it fails, and the first
tick without a failure has every bound channel show its reading. -/
structure Frozen (p : Control σ) : Prop where
  freezes : ∀ before low high, low < high → ∀ events,
    Runs.EachStep (step api toolkit channelCount) (Starves tables low high) p events →
    levels before (Runs.run (step api toolkit channelCount) p events).exchanges high =
      levels before p.exchanges high
  thaws : ∀ before storage env status channel source, p.running = true →
    (∀ c, env.transfer c = .success) → channel < channelCount.toNat →
    (tables p.session.reader).callback channel = some source →
    levels before (step api toolkit channelCount p (.session storage (.tick env) status)).exchanges
      channel =
      calibrated (readingFor env (tables p.session.reader) p.session.lastTimes source channel)
        ((tables p.session.reader).calibration channel)

end program

section program
variable {σ ω Ending : Type} {tables : σ → Tables} {api : ω → DataSourceApi σ}
  (effects : ∀ w, ArrayEffects tables (api w)) {toolkit : DataSourceApi σ → Toolkit σ Ending}
  (opening : ∀ w, Opens tables (toolkit (api w)) (api w))
  {preview : UInt8 → (Nat → Status) → Option UInt8}
    (sends : ∀ w, Sends tables preview (toolkit (api w)))
  {channelCount : UInt8}

theorem eventShows_beyond {p : Control σ} (cleared : Cleared tables channelCount.toNat p.session)
    {channel : Nat} (beyond : channelCount.toNat ≤ channel) (e : PanelTraffic.Event ω Ending) :
    eventShows tables preview channelCount channel p e = none := by
  cases e with
  | session storage event status =>
    simp only [eventShows]
    split
    next =>
      cases event with
      | tick env => exact if_neg fun served => absurd served.1 (by omega)
      | openDialog other => exact if_neg fun opened => absurd opened.1.2 (by omega)
      | slide value =>
        refine if_neg fun slid => ?_
        obtain ⟨d, isOpen, here⟩ := Option.map_eq_some_iff.mp slid.1
        have below := (cleared.dialog d isOpen).1
        omega
      | selectName name => rfl
      | endDialog ending => rfl
    next => rfl
  | leave status => exact if_neg fun sent => absurd sent.2.1 (by omega)

theorem eventShows_starved {p : Control σ} {low high : Nat} (above : low < high)
    {e : PanelTraffic.Event ω Ending} (starves : Starves tables low high p e) :
    eventShows tables preview channelCount high p e = none := by
  cases e with
  | session storage event status =>
    simp only [eventShows]
    split
    next =>
      cases event with
      | tick env =>
        obtain ⟨bound, fails⟩ := starves
        exact if_neg fun served => fails (served.2 low (by omega) bound)
      | openDialog other => exact if_neg fun opened => starves opened.2
      | slide value =>
        refine if_neg fun slid => ?_
        obtain ⟨d, isOpen, here⟩ := Option.map_eq_some_iff.mp slid.1
        exact starves d isOpen here
      | selectName name => rfl
      | endDialog ending => rfl
    next => rfl
  | leave status => exact starves.elim

include effects opening sends

theorem shows_last {reader : σ} (sized : (tables reader).Sized channelCount.toNat) :
    ShowsLast tables api toolkit preview channelCount (begun reader) := by
  have cleared : Cleared tables channelCount.toNat (begun reader).session :=
    AdjustPreview.running_cleared sized
  refine ⟨fun before channel level first e rest shows quiet => ?_,
    fun before channel events quiet => ?_, fun channel events beyond => ?_⟩
  · exact last_shown effects opening sends cleared shows quiet
  · exact quiet_keeps effects opening sends cleared quiet
  · exact Runs.eachStep_of_invariant
      (P := fun p : Control σ => Cleared tables channelCount.toNat p.session)
      (fun _ e before => step_cleared effects opening before e)
      (fun _ e before => eventShows_beyond before beyond e) cleared events

theorem frozen {p : Control σ} (cleared : Cleared tables channelCount.toNat p.session) :
    Frozen tables api toolkit channelCount p := by
  refine ⟨fun before low high above events starved => ?_,
    fun before storage env status channel source running ok below bound => ?_⟩
  · exact quiet_keeps effects opening sends cleared
      (starved.mono fun _ _ starves => eventShows_starved above starves)
  · have served : channel < channelCount.toNat ∧ Passable env (tables p.session.reader) channel :=
      ⟨below, fun c _ _ => ok c⟩
    rw [step_levels effects sends cleared]
    simp only [eventShows, running, if_true, sessionShows, tickShows, served, and_self, bound,
      Option.map_some, Option.getD_some]

/-- Leaving sets to zero the channels whose packet arrives; nothing is sent after it. -/
theorem left_dark {p : Control σ} (cleared : Cleared tables channelCount.toNat p.session)
    (running : p.running = true) (status : Nat → Status)
    (later : List (PanelTraffic.Event ω Ending)) (before : Nat → UInt8) (channel : Nat) :
    levels before (Runs.run (step api toolkit channelCount) p (.leave status :: later)).exchanges
      channel =
      if channel < channelCount.toNat ∧ status channel = .success then 0
      else levels before p.exchanges channel := by
  have left := step_levels effects sends cleared (.leave status : PanelTraffic.Event ω Ending)
    before channel
  have ended : (step api toolkit channelCount p (.leave status)).running = false := by
    simp only [step, running, if_true]
  have silent : Quiet tables api toolkit preview channelCount channel
      (step api toolkit channelCount p (.leave status)) later := by
    refine Runs.eachStep_of_invariant (P := fun q : Control σ => q.running = false)
      (fun q e stopped => ?_) (fun q e stopped => ?_) ended later
    · cases e with
      | session storage event status => simp only [step, stopped, Bool.false_eq_true, if_false]
      | leave status => simp only [step, stopped, Bool.false_eq_true, if_false]
    · cases e with
      | session storage event status =>
          simp only [eventShows, stopped, Bool.false_eq_true, if_false]
      | leave status => simp only [eventShows, stopped, Bool.false_eq_true, false_and, if_false]
  have sound := step_cleared effects opening cleared (.leave status : PanelTraffic.Event ω Ending)
  rw [Runs.run_cons, quiet_keeps effects opening sends sound silent, left]
  simp only [eventShows, running, true_and]
  split <;> rfl

end program

/-! ## The two programs -/

/-- MFC on the registry reader, from its first event to its end. -/
abbrev mfcStep (nvidiaGpuFound : Bool) (channelCount : UInt8) :
    Control Windows → PanelTraffic.Event Bool MfcEnding → Control Windows :=
  step (windowsApiWith nvidiaGpuFound) mfc channelCount

/-- Qt on the config.json reader. -/
abbrev qtStep (J : JsonC) (channelCount : UInt8) :
    Control Linux → PanelTraffic.Event SaveOutcome QtEnding → Control Linux :=
  step (linuxApiWith J) qt channelCount

section programs
variable (J : JsonC) (nvidiaGpuFound : Bool) (channelCount : UInt8)
  {envs : Nat → RegistryEnv} {registry : Registry.RegistryKey} {windows : Windows}
    {windowsOutcome : Outcome}
  (windowsStarted : WindowsReader.start nvidiaGpuFound envs channelCount.toNat registry =
    .bound windows windowsOutcome)
  {saves : Nat → SaveOutcome × SaveOutcome} {file : ConfigFile} {linux : Linux}
    {linuxOutcome : Outcome}
  (linuxStarted : LinuxReader.start J saves channelCount.toNat file = .bound linux linuxOutcome)
include windowsStarted linuxStarted

/-- From any start, through any run and whichever packets are lost: each channel shows the
level of the last event that got a packet through to it, and what the panel showed at first
if there was none. -/
theorem panel_shows_last :
    ShowsLast Windows.tables (windowsApiWith nvidiaGpuFound) mfc mfcPreview channelCount
      (begun windows) ∧
      ShowsLast Linux.tables (linuxApiWith J) qt qtPreview channelCount (begun linux) :=
  ⟨shows_last (AdjustPreview.windows_effects nvidiaGpuFound)
    (AdjustPreview.mfc_opensWindows nvidiaGpuFound)
      (fun _ => mfc_sends) (WindowsLoad.start_sized windowsStarted),
    shows_last (AdjustPreview.linux_effects J) (AdjustPreview.qt_opensLinux J)
      (fun save => qt_sends (AdjustPreview.linux_effects J save))
        (LinuxLoad.start_sized linuxStarted)⟩

/-- In every state that a run reaches from a start: while the transfers to a bound channel
fail, no tick changes any channel above it, whatever else goes on; one tick without a
failure brings every bound channel back to its reading. -/
theorem failing_channel_freezes (mfcEvents : List (PanelTraffic.Event Bool MfcEnding))
    (qtEvents : List (PanelTraffic.Event SaveOutcome QtEnding)) :
    @Frozen Windows Bool MfcEnding Windows.tables (windowsApiWith nvidiaGpuFound) mfc channelCount
        (Runs.run (mfcStep nvidiaGpuFound channelCount) (begun windows) mfcEvents) ∧
      @Frozen Linux SaveOutcome QtEnding Linux.tables (linuxApiWith J) qt channelCount
        (Runs.run (qtStep J channelCount) (begun linux) qtEvents) :=
  ⟨frozen (AdjustPreview.windows_effects nvidiaGpuFound)
    (AdjustPreview.mfc_opensWindows nvidiaGpuFound)
      (fun _ => mfc_sends) (run_cleared (AdjustPreview.windows_effects nvidiaGpuFound)
        (AdjustPreview.mfc_opensWindows nvidiaGpuFound)
        (AdjustPreview.running_cleared (WindowsLoad.start_sized windowsStarted)) mfcEvents),
    frozen (AdjustPreview.linux_effects J) (AdjustPreview.qt_opensLinux J)
      (fun save => qt_sends (AdjustPreview.linux_effects J save))
      (run_cleared (AdjustPreview.linux_effects J) (AdjustPreview.qt_opensLinux J)
        (AdjustPreview.running_cleared (LinuxLoad.start_sized linuxStarted)) qtEvents)⟩

/-- However a run ends, the end leaves zero on exactly the channels whose last packet
arrives, the level before it on all others, and nothing changes a level after it. -/
theorem panel_goes_dark (mfcEvents mfcLater : List (PanelTraffic.Event Bool MfcEnding))
    (qtEvents qtLater : List (PanelTraffic.Event SaveOutcome QtEnding)) (status : Nat → Status)
    (before : Nat → UInt8) (channel : Nat) :
    (∀ p, Runs.run (mfcStep nvidiaGpuFound channelCount) (begun windows) mfcEvents = p →
      p.running = true →
      levels before (Runs.run (mfcStep nvidiaGpuFound channelCount) p
        (.leave status :: mfcLater)).exchanges channel =
        if channel < channelCount.toNat ∧ status channel = .success then 0
        else levels before p.exchanges channel) ∧
    (∀ p, Runs.run (qtStep J channelCount) (begun linux) qtEvents = p → p.running = true →
      levels before (Runs.run (qtStep J channelCount) p (.leave status :: qtLater)).exchanges
        channel =
        if channel < channelCount.toNat ∧ status channel = .success then 0
        else levels before p.exchanges channel) := by
  constructor
  · rintro p rfl running
    exact left_dark (AdjustPreview.windows_effects nvidiaGpuFound)
      (AdjustPreview.mfc_opensWindows nvidiaGpuFound) (fun _ => mfc_sends)
      (run_cleared (AdjustPreview.windows_effects nvidiaGpuFound)
        (AdjustPreview.mfc_opensWindows nvidiaGpuFound)
        (AdjustPreview.running_cleared (WindowsLoad.start_sized windowsStarted)) mfcEvents)
      running status mfcLater before channel
  · rintro p rfl running
    exact left_dark (AdjustPreview.linux_effects J) (AdjustPreview.qt_opensLinux J)
      (fun save => qt_sends (AdjustPreview.linux_effects J save))
      (run_cleared (AdjustPreview.linux_effects J) (AdjustPreview.qt_opensLinux J)
        (AdjustPreview.running_cleared (LinuxLoad.start_sized linuxStarted)) qtEvents)
      running status qtLater before channel

end programs

/-- Every transfer arrives, and none does. -/
def arrive (_ : Nat) : Status := .success

def lost (_ : Nat) : Status := .transferFailed

theorem firstStart_started : LinuxReader.start plain allDone (1 : UInt8).toNat .absent =
    .bound firstStart (.returned .success) := rfl

/-- A slider value that arrives outlives a later one that does not. -/
theorem panel_shows_slid :
    levels (fun _ => 7) (Runs.run (mfcStep true 1) (begun firstWindows)
      ([.session true (.openDialog 0) arrive] ++ .session true (.slide 200) arrive ::
        [.session true (.slide 10) lost, .leave lost])).exchanges 0 = 200 := by
  obtain ⟨shows, -⟩ := panel_shows_last plain true 1 firstWindows_started firstStart_started
  refine shows.last (fun _ => 7) 0 200 _ _ _ rfl ⟨?_, ?_, trivial⟩
  · rfl
  · rfl

/-- Two channels on a fresh store. -/
def pairLinux : Linux :=
  match LinuxReader.start plain allDone 2 .absent with
  | .bound linux _ => linux
  | .unallocated _ => firstStart

def pairWindows : Windows :=
  match WindowsReader.start true WindowsRestart.quietEnv 2 WindowsRestart.emptyKey with
  | .bound windows _ => windows
  | .unallocated _ => firstWindows

/-- Channel 0 is bound, channel 1 shown 90 through its dialog. -/
def boundThenShown : List (PanelTraffic.Event SaveOutcome QtEnding) :=
  [.openDialog 0, .selectName Names.calibration, .endDialog .closeEvent, .openDialog 1, .slide 90,
    .endDialog .closeEvent].map fun e => .session .done e arrive

/-- A tick whose transfers all fail. -/
def deadTick : PanelTraffic.Event SaveOutcome QtEnding :=
  .session .done (.tick ⟨fun _ => ⟨none, none, none, none, 0⟩, lost⟩) lost

theorem failing_channel_freezes_shown :
    levels (fun _ => 7) (Runs.run (qtStep plain 2) (Runs.run (qtStep plain 2) (begun pairLinux)
      boundThenShown) [deadTick, deadTick]).exchanges 1 = 90 := by
  have windowsStarted : WindowsReader.start true WindowsRestart.quietEnv (2 : UInt8).toNat
      WindowsRestart.emptyKey = .bound pairWindows (.returned .success) := rfl
  have linuxStarted : LinuxReader.start plain allDone (2 : UInt8).toNat .absent =
      .bound pairLinux (.returned .success) := rfl
  obtain ⟨-, frozen⟩ :=
    failing_channel_freezes plain true 2 windowsStarted linuxStarted [] boundThenShown
  have bound : (Runs.run (qtStep plain 2) (begun pairLinux)
      boundThenShown).session.reader.tables.callback 0 ≠ none := by
    have callback : (Runs.run (qtStep plain 2) (begun pairLinux)
        boundThenShown).session.reader.tables.callback 0 = some .calibration := rfl
    rw [callback]
    simp
  have dead : lost 0 ≠ .success := by decide
  rw [frozen.freezes (fun _ => 7) 0 1
    (by decide) [deadTick, deadTick] ⟨⟨bound, dead⟩, ⟨bound, dead⟩, trivial⟩]
  rfl

theorem panel_goes_dark_slid :
    levels (fun _ => 7) (Runs.run (mfcStep true 1)
      (Runs.run (mfcStep true 1) (begun firstWindows)
        [.session true (.openDialog 0) arrive, .session true (.slide 200) arrive])
      [.leave arrive]).exchanges 0 = 0 := by
  have dark := panel_goes_dark plain true 1 firstWindows_started firstStart_started
    [.session true (.openDialog 0) arrive, .session true (.slide 200) arrive] [] [] [] arrive
      (fun _ => 7) 0
  exact dark.1 _ rfl rfl

end PerformancePanel.Guarantees.PanelLevels

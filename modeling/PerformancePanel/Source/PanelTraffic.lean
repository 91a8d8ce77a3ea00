import PerformancePanel.Library.Registers
import PerformancePanel.Source.AdjustDialog
import PerformancePanel.Source.FrontEnds
import PerformancePanel.Source.Tick

/-!
# What reaches the panel

Source: datasource/collector.c (`send_usage`, `main_loop_callback`) with the programs that
call it: the timers, the two adjust dialogs, the end of `InitInstance` in
control/mfc/control_panel.cpp and `~ControlPanelDialog` in control/qt/control_panel_dialog.cpp.
Each transfer is kept with the status it returned: a tick stops at the first that fails, all
others ignore it. The panel shows for each channel the level of the last `SET_USAGE` that
succeeded.
-/
set_option autoImplicit false

namespace PerformancePanel.Source.PanelTraffic
open Common DataSources Collector DataSourceInterface PanelSetup Tick Library

/-- One control transfer and what it returned. -/
structure Exchange where
  packet : ControlTransfer
  status : Status
  deriving DecidableEq, Repr

/-- The transfers of a tick, whose outcomes are indexed by the channel they address. -/
def tickExchanges (env : TickEnv) (packets : List ControlTransfer) : List Exchange :=
  packets.map fun packet => ⟨packet, env.transfer packet.channel.toNat⟩

/-- Transfers made one after the other, `status i` being what the one at `i` returns. -/
def exchanged (status : Nat → Status) (packets : List ControlTransfer) : List Exchange :=
  packets.zipIdx.map fun numbered => ⟨numbered.1, status numbered.2⟩

def Exchange.accepted (x : Exchange) : Option (Nat × UInt8) :=
  if x.status = .success ∧ x.packet.command = .setUsage then
    some (x.packet.channel.toNat, x.packet.level)
  else none

/-- The level of every channel after some transfers. -/
def levels (before : Nat → UInt8) (exchanges : List Exchange) : Nat → UInt8 :=
  Registers.writes before (exchanges.filterMap Exchange.accepted)

/-! ## A control program from its first event to its end -/

/-- `running` until the program leaves its message loop. -/
structure Control (σ : Type) where
  session : AdjustDialog.Session σ
  running : Bool
  exchanges : List Exchange

/-- What is sent has not been sent before. -/
def fresh {σ : Type} (before after : AdjustDialog.Session σ) : List ControlTransfer :=
  after.sent.drop before.sent.length

/-- An event of a session with the statuses its transfers return, or the end of the program
with those of the zero levels. -/
inductive Event (ω Ending : Type) where
  | session (storage : ω) (event : AdjustDialog.Event Ending) (status : Nat → Status)
  | leave (status : Nat → Status)

def exchangesOf {Ending : Type} (status : Nat → Status) (packets : List ControlTransfer) :
    AdjustDialog.Event Ending → List Exchange
  | .tick env => tickExchanges env packets
  | .openDialog _ => exchanged status packets
  | .slide _ => exchanged status packets
  | .selectName _ => exchanged status packets
  | .endDialog _ => exchanged status packets

section program
variable {σ ω Ending : Type} (api : ω → DataSourceApi σ)
  (toolkit : DataSourceApi σ → AdjustDialog.Toolkit σ Ending) (channelCount : UInt8)

/-- One event of a program; one that has left its message loop has none. -/
def step (p : Control σ) : Event ω Ending → Control σ
  | .session storage event status =>
    if p.running then
      let after := AdjustDialog.step (api storage)
        (toolkit (api storage)) channelCount p.session event
      { p with
        session := after
        exchanges := p.exchanges ++ exchangesOf status (fresh p.session after) event }
    else p
  | .leave status =>
    if p.running then
      { p with
        running := false
        exchanges := p.exchanges ++ exchanged status (zeroLevels channelCount) }
    else p

end program

/-- A program with its windows built. -/
def begun {σ : Type} (reader : σ) : Control σ := ⟨AdjustDialog.running reader, true, []⟩

/-! ## What transfers leave on a channel -/

theorem levels_append (before : Nat → UInt8) (first rest : List Exchange) :
    levels before (first ++ rest) = levels (levels before first) rest := by
  rw [levels, List.filterMap_append, Registers.writes_append]
  rfl

theorem accepted_some {x : Exchange} {channel : Nat} {level : UInt8} :
    x.accepted = some (channel, level) ↔ x.status = .success ∧ x.packet.command = .setUsage ∧
      x.packet.channel.toNat = channel ∧ x.packet.level = level := by
  unfold Exchange.accepted
  split
  next accepted => simp [accepted]
  next refused =>
    refine ⟨fun found => (by cases found), fun taken => ?_⟩
    exact absurd ⟨taken.1, taken.2.1⟩ refused

/-- A channel that no successful packet addresses keeps its level. -/
theorem levels_untouched {before : Nat → UInt8} {exchanges : List Exchange} {channel : Nat}
    (untouched : ∀ x ∈ exchanges, x.status = .success → x.packet.channel.toNat ≠ channel) :
    levels before exchanges channel = before channel := by
  refine Registers.writes_untouched fun w written here => ?_
  obtain ⟨x, member, taken⟩ := List.mem_filterMap.mp written
  obtain ⟨ok, -, addressed, -⟩ := accepted_some.mp taken
  exact untouched x member ok (addressed.trans here)

/-- A channel whose successful packets all carry one level shows it. -/
theorem levels_agree {before : Nat → UInt8} {exchanges : List Exchange} {channel : Nat}
    {level : UInt8}
    {x : Exchange} (member : x ∈ exchanges) (taken : x.accepted = some (channel, level))
    (agree : ∀ y ∈ exchanges, y.status = .success → y.packet.channel.toNat = channel →
      y.packet.level = level) :
    levels before exchanges channel = level := by
  refine Registers.writes_agree (List.mem_filterMap.mpr ⟨x, member, taken⟩) fun w written here => ?_
  obtain ⟨y, inside, kept⟩ := List.mem_filterMap.mp written
  obtain ⟨ok, -, addressed, carried⟩ := accepted_some.mp kept
  exact carried.symm.trans (agree y inside ok (addressed.trans here))

/-! ## One tick -/

section tick
variable {env : TickEnv} {t : Tables} {last : SystemTimes}

/-- No transfer to a bound channel up to this one fails. -/
def Passable (env : TickEnv) (t : Tables) (channel : Nat) : Prop :=
  ∀ c ≤ channel, t.callback c ≠ none → env.transfer c = .success

instance (env : TickEnv) (t : Tables) (channel : Nat) : Decidable (Passable env t channel) :=
  inferInstanceAs (Decidable (∀ c ≤ channel, _))

/-- A walk gets a packet through to the bound channels that no failure comes before. -/
theorem mem_reached_ok {remaining i channel : Nat} {source : DataSource} :
    ((channel, source) ∈ reached env (boundFrom t remaining i) ∧ env.transfer channel = .success) ↔
      (i ≤ channel ∧ channel < i + remaining) ∧ t.callback channel = some source ∧
        ∀ c, i ≤ c → c ≤ channel → t.callback c ≠ none → env.transfer c = .success := by
  induction remaining generalizing i with
  | zero =>
    constructor
    · rintro ⟨member, -⟩
      exact absurd member List.not_mem_nil
    · rintro ⟨⟨low, high⟩, -⟩
      omega
  | succ remaining ih =>
    rw [boundFrom_succ]
    cases bound : t.callback i with
    | none =>
      rw [Option.map_none, Option.toList_none, List.nil_append, ih]
      constructor
      · rintro ⟨inside, here, before⟩
        refine ⟨by omega, here, fun c low high unbound => ?_⟩
        by_cases first : c = i
        · exact absurd (first ▸ bound) unbound
        · exact before c (by omega) high unbound
      · rintro ⟨inside, here, before⟩
        have later : i ≠ channel := by
          rintro rfl
          rw [bound] at here
          cases here
        exact ⟨by omega, here, fun c low high unbound => before c (by omega) high unbound⟩
    | some source' =>
      simp only [Option.map_some, Option.toList_some, List.cons_append, List.nil_append, reached]
      by_cases ok : env.transfer i = .success
      · rw [if_pos ok, List.mem_cons, or_and_right, ih]
        constructor
        · rintro (⟨same, sent⟩ | ⟨inside, here, before⟩)
          · rw [Prod.mk.injEq] at same
            obtain ⟨rfl, rfl⟩ := same
            refine ⟨by omega, bound, fun c low high _ => ?_⟩
            have only : c = channel := by omega
            rw [only, ok]
          · refine ⟨by omega, here, fun c low high unbound => ?_⟩
            by_cases first : c = i
            · rw [first, ok]
            · exact before c (by omega) high unbound
        · rintro ⟨inside, here, before⟩
          by_cases first : channel = i
          · subst first
            rw [bound, Option.some.injEq] at here
            exact Or.inl ⟨by rw [here], ok⟩
          · exact Or.inr ⟨by omega, here, fun c low high unbound =>
              before c (by omega) high unbound⟩
      · rw [if_neg ok, List.mem_singleton]
        constructor
        · rintro ⟨same, sent⟩
          rw [(Prod.mk.inj same).1] at sent
          exact absurd sent ok
        · rintro ⟨inside, here, before⟩
          exact absurd (before i (Nat.le_refl i) inside.1 (by rw [bound]; simp)) ok

/-- The level a tick has a channel show; `none` leaves it. -/
def tickShows (env : TickEnv) (t : Tables) (last : SystemTimes) (channelCount : UInt8)
    (channel : Nat) :
    Option UInt8 :=
  if channel < channelCount.toNat ∧ Passable env t channel then
    (t.callback channel).map fun source =>
      calibrated (readingFor env t last source channel) (t.calibration channel)
  else none

/-- The packets of a tick write each channel that they get through to, and no other. -/
theorem tick_levels {channelCount : UInt8} (sized : t.Sized channelCount.toNat)
    (before : Nat → UInt8) (channel : Nat) :
    levels before (tickExchanges env (mainLoopCallback env channelCount t.arrays last).transfers)
      channel =
      (tickShows env t last channelCount channel).getD (before channel) := by
  have small := channelCount.toNat_lt
  rw [mainLoopCallback_transfers sized, tickExchanges, List.map_map]
  -- a successful packet to the channel is the one of its source, and gets through
  have through : ∀ x ∈ (reached env (boundFrom t channelCount.toNat 0)).map
      ((fun packet => (⟨packet, env.transfer packet.channel.toNat⟩ : Exchange)) ∘
        fun entry => packetFor env t last entry.2 entry.1),
      x.status = .success → x.packet.channel.toNat = channel →
        ∃ source, t.callback channel = some source ∧ channel < channelCount.toNat ∧
          Passable env t channel ∧ x.packet = packetFor env t last source channel := by
    intro x member ok addressed
    obtain ⟨⟨c, source⟩, walked, rfl⟩ := List.mem_map.mp member
    have below := ((mem_boundFrom t).mp (reached_subset walked)).1
    have its := @packetFor_channel env t last source c (by omega)
    have same : c = channel := its.symm.trans addressed
    subst same
    have sent : env.transfer c = .success := (congrArg env.transfer its).symm.trans ok
    obtain ⟨inside, bound, passable⟩ := mem_reached_ok.mp ⟨walked, sent⟩
    exact ⟨source, bound, by omega, fun c' high => passable c' (Nat.zero_le c') high, rfl⟩
  by_cases served : channel < channelCount.toNat ∧ Passable env t channel
  · rw [tickShows, if_pos served]
    cases bound : t.callback channel with
    | none =>
      refine levels_untouched fun x member ok addressed => ?_
      obtain ⟨source, here, -⟩ := through x member ok addressed
      rw [bound] at here
      cases here
    | some source =>
      have its := @packetFor_channel env t last source channel (by omega)
      have walked : (channel, source) ∈ reached env (boundFrom t channelCount.toNat 0) ∧
          env.transfer channel = .success :=
        mem_reached_ok.mpr ⟨by omega, bound, fun c _ high => served.2 c high⟩
      refine levels_agree (List.mem_map.mpr ⟨_, walked.1, rfl⟩) (accepted_some.mpr ?_)
        fun y member ok addressed => ?_
      · exact ⟨(congrArg env.transfer its).trans walked.2, rfl, its, packetFor_level⟩
      · obtain ⟨source', here, -, -, packet⟩ := through y member ok addressed
        rw [bound, Option.some.injEq] at here
        rw [packet, ← here]
        exact packetFor_level
  · rw [tickShows, if_neg served]
    refine levels_untouched fun x member ok addressed => ?_
    obtain ⟨source, -, below, passable, -⟩ := through x member ok addressed
    exact served ⟨below, passable⟩

end tick

end PerformancePanel.Source.PanelTraffic

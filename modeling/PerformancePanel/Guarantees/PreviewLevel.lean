import PerformancePanel.Guarantees.AdjustPreview

/-!
# The previewed level and the steady one

The slider sends its raw value; a tick sends the full-scale reading 255 of the calibration
source times the same value, shifted right by 8. The shift divides by 256, so the steady
level is one below the previewed one for every value but 0. The value reaches the tick
through `calibration_values`, which a session leaves at the last slider value unless the
stored calibration refuses it.
-/
set_option autoImplicit false

namespace PerformancePanel.Guarantees.PreviewLevel
open Source Source.Common Source.DataSources Source.Collector Source.DataSourceInterface
open Source.AdjustDialog hiding step
open Source.Tick Source.JsonLibrary Library AdjustPreview
open Source.LinuxReader (Linux)
open Source.WindowsReader (Windows RegistryEnv)
open SetterAtomicity (linuxApiWith windowsApiWith)
open BindingRestored (firstWindows firstWindows_started)
open LinuxRestart (allDone firstStart)

/-- A whole session whose storage calls go as `ok` says. -/
def session {ω Ending : Type} (ok : ω) (channel : Nat) (during : List (Event Ending))
    (ending : Ending) :
    List (ω × Event Ending) :=
  (ok, .openDialog channel) :: (during.map (Prod.mk ok) ++ [(ok, .endDialog ending)])

/-- The channel's binding and calibration are those of `after`. -/
def SameSettings {σ : Type} (tables : σ → Tables) (channel : Nat) (after s : Session σ) : Prop :=
  (tables s.reader).callback channel = (tables after.reader).callback channel ∧
    (tables s.reader).calibration channel = (tables after.reader).calibration channel

/-- The property: until the channel's binding or calibration changes, every packet a tick
sends to it has the level. -/
def Agrees {σ ε : Type} (step : Session σ → ε → Session σ) (tables : σ → Tables)
    (channelCount : UInt8) (channel : Nat) (level : UInt8) (after : Session σ) : Prop :=
  ∀ later, Runs.AllReached step (SameSettings tables channel after) after later →
    ∀ env, (∀ c, env.transfer c = .success) →
      ∀ packet ∈ toChannel channel
          (tickPackets tables channelCount env (Runs.run step after later)),
        packet.level = level

/-! ## Full scale -/

/-- Only at 0 does the full-scale reading show the calibration itself. -/
theorem fullScale_eq_iff (value : UInt8) : calibrated 0xFF value = value ↔ value = 0 := by
  constructor
  · intro same
    by_contra nonzero
    have lower := calibrated_lt_calibration 0xFF nonzero
    rw [same] at lower
    exact absurd lower (UInt8.lt_irrefl value)
  · rintro rfl
    rfl

/-- A tick sends a channel bound to the calibration source one packet, at full scale. -/
theorem calibration_packet {σ : Type} {tables : σ → Tables} {channelCount : UInt8} {s : Session σ}
    (sized : (tables s.reader).Sized channelCount.toNat) {channel : Nat}
    (below : channel < channelCount.toNat)
    (bound : (tables s.reader).callback channel = some .calibration) {env : TickEnv}
    (ok : ∀ c, env.transfer c = .success) :
    ∃ packet, toChannel channel (tickPackets tables channelCount env s) = [packet] ∧
      packet.level = calibrated 0xFF ((tables s.reader).calibration channel) := by
  have packets := @transfers_toChannel env (tables s.reader) s.lastTimes channelCount sized ok
    channel below
  rw [bound] at packets
  exact ⟨_, packets, packetFor_level⟩

/-! ## How a session leaves the calibration -/

/-- A reader whose storage works: `takes` says whether the stored calibration accepts a
new value. -/
structure Calibrates {σ : Type} (tables : σ → Tables) (api : DataSourceApi σ)
    (takes : σ → Nat → Bool) :
    Prop where
  calibrates : ∀ s channel value, tables (api.setChannelCalibration channel value s).1 =
    if takes s channel then (tables s).setCalibration channel value else tables s
  keeps : ∀ s channel value, takes (api.setChannelCalibration channel value s).1 channel =
    takes s channel
  clears : ∀ s channel, takes (api.clearBinding channel s).1 channel = takes s channel

/-- Opening a dialog does not change whether the calibration is accepted. -/
def OpensTaking {σ Ending : Type} (T : Toolkit σ Ending) (takes : σ → Nat → Bool) : Prop :=
  ∀ channel s, takes (T.opens channel s).reader channel = takes s.reader channel

/-- The calibration that slider values up to `value` leave. -/
def leftCalibration (taken : Bool) (before : UInt8) (value : Option UInt8) : UInt8 :=
  if taken then value.getD before else before

/-- What holds of the reader through a session that found the channel with the calibration
`before`. -/
structure Holding {σ : Type} (tables : σ → Tables) (takes : σ → Nat → Bool) (channel : Nat)
    (taken : Bool) (before : UInt8) (value : Option UInt8) (s : Session σ) : Prop where
  accepts : takes s.reader channel = taken
  calibration : (tables s.reader).calibration channel = leftCalibration taken before value

section session
variable {σ ω Ending : Type} {tables : σ → Tables} {takes : σ → Nat → Bool} {api : DataSourceApi σ}
  (calibrates : Calibrates tables api takes) {T : Toolkit σ Ending} {channelCount : UInt8}
  {channel : Nat} {taken : Bool} {before : UInt8}
include calibrates

theorem mfc_opensTaking : OpensTaking (mfc api) takes := fun channel s =>
  calibrates.clears s.reader channel

theorem qt_opensTaking : OpensTaking (qt api) takes := by
  intro channel s
  show takes (adjustDialog api channel s).reader channel = _
  by_cases zero : (api.tables s.reader).calibration channel = 0
  · simp only [adjustDialog, if_pos zero]
    exact calibrates.clears s.reader channel
  · simp only [adjustDialog, if_neg zero]
    exact (calibrates.clears _ channel).trans (calibrates.keeps s.reader channel _)

/-- One event of the session. -/
theorem step_holding {value : Option UInt8} {s : Session σ}
    (cleared : Cleared tables channelCount.toNat s)
    (isOpen : IsOpen channel s) (holding : Holding tables takes channel taken before value s)
    (e : Event Ending) (stays : Stays e) :
    Holding tables takes channel taken before (shown value e)
      (AdjustDialog.step api T channelCount s e) := by
  obtain ⟨name, dialog⟩ := isOpen
  have below := (cleared.dialog _ dialog).1
  cases e with
  | tick env => exact ⟨holding.accepts, holding.calibration⟩
  | openDialog other =>
    rw [step_openDialog api T channelCount ⟨name, dialog⟩ other]
    exact holding
  | slide value' =>
    simp only [AdjustDialog.step, dialog]
    refine ⟨(calibrates.keeps s.reader channel value').trans holding.accepts, ?_⟩
    show (tables (api.setChannelCalibration channel value' s.reader).1).calibration channel = _
    rw [calibrates.calibrates, holding.accepts]
    cases taken with
    | true => exact Tables.calibration_setCalibration_self cleared.sized below value'
    | false => exact holding.calibration
  | selectName selected =>
    simp only [AdjustDialog.step, dialog]
    split
    next => exact ⟨holding.accepts, holding.calibration⟩
    next => exact ⟨holding.accepts, holding.calibration⟩
  | endDialog ending => exact stays.elim

end session

section runs
variable {σ ω Ending : Type} {tables : σ → Tables} {api : ω → DataSourceApi σ}
  (effects : ∀ w, ArrayEffects tables (api w)) {toolkit : DataSourceApi σ → Toolkit σ Ending}
  (opening : ∀ w, Opens tables (toolkit (api w)) (api w)) {takes : σ → Nat → Bool} {ok : ω}
  (calibrates : Calibrates tables (api ok) takes) (taking : OpensTaking (toolkit (api ok)) takes)
  {channelCount : UInt8}
include effects opening calibrates

/-- Through the events of a session. -/
theorem run_holding {channel : Nat} {taken : Bool} {before : UInt8} {value : Option UInt8}
    {s : Session σ} (cleared : Cleared tables channelCount.toNat s) (isOpen : IsOpen channel s)
    (holding : Holding tables takes channel taken before value s) {during : List (Event Ending)}
    (stays : ∀ e ∈ during, Stays e) :
    Holding tables takes channel taken before (lastValue value during)
      (Runs.run (step api toolkit channelCount) s (during.map (Prod.mk ok))) := by
  induction during generalizing s value with
  | nil => exact holding
  | cons e during ih =>
    have here : Stays e := stays e List.mem_cons_self
    have next : Cleared tables channelCount.toNat (step api toolkit channelCount s (ok, e)) :=
      step_cleared (effects ok) (opening ok) cleared e
    have stillOpen : IsOpen channel (step api toolkit channelCount s (ok, e)) :=
      (@step_during σ Ending tables (api ok) (effects ok) (toolkit (api ok)) channelCount s cleared
        channel isOpen e here).1
    have held : Holding tables takes channel taken before (shown value e)
        (step api toolkit channelCount s (ok, e)) :=
          step_holding calibrates cleared isOpen holding e here
    exact ih next stillOpen held fun e' member => stays e' (List.mem_cons_of_mem e member)

include taking in
/-- A whole session leaves the last slider value, or the old calibration where it is refused;
a first value shown by the opening is the old calibration too. -/
theorem session_calibration {s : Session σ} (cleared : Cleared tables channelCount.toNat s)
    (closed : s.dialog = none) {channel : Nat} (below : channel < channelCount.toNat)
    {first : Option UInt8} (old : first.getD ((tables s.reader).calibration channel) =
      (tables s.reader).calibration channel)
    {during : List (Event Ending)} (stays : ∀ e ∈ during, Stays e) (ending : Ending) {value : UInt8}
    (slid : lastValue first during = some value) {after : Session σ}
    (ended : Runs.run (step api toolkit channelCount) s (session ok channel during ending) =
      after) :
    (tables after.reader).calibration channel =
      if takes s.reader channel then value else (tables s.reader).calibration channel := by
  obtain ⟨opens, isOpen⟩ := opening_event opening ok cleared closed below
  have opened : Cleared tables channelCount.toNat
    (step api toolkit channelCount s (ok, .openDialog channel)) :=
    step_cleared (effects ok) (opening ok) cleared _
  have start : Holding tables takes channel (takes s.reader channel)
      ((tables s.reader).calibration channel) first
      (step api toolkit channelCount s (ok, .openDialog channel)) := by
    rw [opens]
    refine ⟨taking channel s, ?_⟩
    rw [((opening ok).opens _ channel s cleared.sized below).2.2.1, leftCalibration, old, ite_self]
  have held := run_holding effects opening calibrates opened isOpen start stays
  have last : Runs.run (step api toolkit channelCount) s (session ok channel during ending) =
      step api toolkit channelCount (Runs.run (step api toolkit channelCount)
        (step api toolkit channelCount s (ok, .openDialog channel)) (during.map (Prod.mk ok)))
        (ok, .endDialog ending) := by
    rw [session, Runs.run_cons, Runs.run_append, Runs.run_cons, Runs.run_nil]
  generalize Runs.run (step api toolkit channelCount)
    (step api toolkit channelCount s (ok, .openDialog channel)) (during.map (Prod.mk ok)) =
      t at held last
  have kept : (tables after.reader).calibration = (tables t.reader).calibration := by
    rw [← ended, last]
    simp only [step, AdjustDialog.step]
    cases t.dialog with
    | none => rfl
    | some d =>
      dsimp only
      rcases (opening ok).ends ending d t.reader with left | restored
      · rw [left]
      · rw [restored]
        exact (@bind_keeps σ tables (api ok) (effects ok) 0 t.reader d.channel d.cachedChannel).2
  rw [kept, held.calibration, slid]
  rfl

end runs

/-! ## Agreement -/

/-- Agreement is the full-scale level of the calibration that is left. -/
theorem agrees_iff {σ ω Ending : Type} {tables : σ → Tables} {api : ω → DataSourceApi σ}
    (effects : ∀ w, ArrayEffects tables (api w)) {toolkit : DataSourceApi σ → Toolkit σ Ending}
    (opening : ∀ w, Opens tables (toolkit (api w)) (api w)) {channelCount : UInt8}
    {after : Session σ} (cleared : Cleared tables channelCount.toNat after) {channel : Nat}
    (below : channel < channelCount.toNat)
    (bound : (tables after.reader).callback channel = some .calibration) (level : UInt8) :
    Agrees (step api toolkit channelCount) tables channelCount channel level after ↔
      calibrated 0xFF ((tables after.reader).calibration channel) = level := by
  constructor
  · intro agrees
    let env : TickEnv := ⟨fun _ => ⟨none, none, none, none, 0⟩, fun _ => .success⟩
    obtain ⟨packet, sent, steady⟩ :=
      @calibration_packet σ tables channelCount after cleared.sized channel below bound env
        fun _ => rfl
    have member : packet ∈ toChannel channel (tickPackets tables channelCount env after) := by
      rw [sent]
      exact List.mem_singleton_self packet
    exact steady.symm.trans (agrees [] ⟨rfl, rfl⟩ env (fun _ => rfl) packet member)
  · intro same later settings env ok packet member
    obtain ⟨callback, calibration⟩ := settings.last
    have sized := (run_cleared effects opening cleared later).sized
    obtain ⟨packet', sent, steady⟩ := calibration_packet sized below (callback.trans bound) ok
    rw [sent, List.mem_singleton] at member
    rw [member, steady, calibration, same]

/-- The condition, given whether the stored calibration accepts the slider values. -/
def Reproduced (taken : Bool) (before value : UInt8) : Prop :=
  if taken then value = 0 else calibrated 0xFF before = value

theorem reproduced_iff (taken : Bool) (before value : UInt8) :
    calibrated 0xFF (if taken then value else before) = value ↔ Reproduced taken before value := by
  cases taken with
  | true => exact fullScale_eq_iff value
  | false => exact Iff.rfl

/-- For any program: a session that leaves the channel bound to the calibration source. -/
theorem session_agrees_iff {σ ω Ending : Type} {tables : σ → Tables} {api : ω → DataSourceApi σ}
    (effects : ∀ w, ArrayEffects tables (api w)) {toolkit : DataSourceApi σ → Toolkit σ Ending}
    (opening : ∀ w, Opens tables (toolkit (api w)) (api w)) {takes : σ → Nat → Bool} {ok : ω}
    (calibrates : Calibrates tables (api ok) takes) (taking : OpensTaking (toolkit (api ok)) takes)
    {channelCount : UInt8} {s : Session σ} (cleared : Cleared tables channelCount.toNat s)
    (closed : s.dialog = none) {channel : Nat} (below : channel < channelCount.toNat)
    {first : Option UInt8} (old : first.getD ((tables s.reader).calibration channel) =
      (tables s.reader).calibration channel)
    {during : List (Event Ending)} (stays : ∀ e ∈ during, Stays e) (ending : Ending) {value : UInt8}
    (slid : lastValue first during = some value) {after : Session σ}
    (ended : Runs.run (step api toolkit channelCount) s (session ok channel during ending) = after)
    (bound : (tables after.reader).callback channel = some .calibration) :
    Agrees (step api toolkit channelCount) tables channelCount channel value after ↔
      Reproduced (takes s.reader channel) ((tables s.reader).calibration channel) value := by
  have left := session_calibration effects opening calibrates taking cleared closed below old stays
    ending slid ended
  have cleared' : Cleared tables channelCount.toNat after := by
    rw [← ended]
    exact run_cleared effects opening cleared _
  rw [agrees_iff effects opening cleared' below bound, left, reproduced_iff]

/-! ## The two programs -/

/-- The cached document has an int for the channel's calibration. -/
def takesCalibration (s : Linux) (channel : Nat) : Bool :=
  match s.member? (LinuxReader.calibrationKey channel) with
  | some value => Settings.LinuxStored.isInt value
  | none => false

/-- `set_channel_calibration` whose save succeeds. -/
theorem setChannelCalibration_done (J : JsonC) (s : Linux) (channel : Nat) (value : UInt8) :
    (LinuxReader.setChannelCalibration J .done channel value s).1 = s ∧
    takesCalibration s channel = false ∨
      takesCalibration s channel = true ∧
        (LinuxReader.setChannelCalibration J .done channel value s).1.tables =
          s.tables.setCalibration channel value ∧
        takesCalibration (LinuxReader.setChannelCalibration J .done channel value s).1 channel =
          true := by
  unfold takesCalibration
  cases found : s.member? (LinuxReader.calibrationKey channel) with
  | none =>
    refine Or.inl ⟨?_, rfl⟩
    unfold LinuxReader.setChannelCalibration LinuxReader.setMember
    rw [found]
    rfl
  | some stored =>
    obtain ⟨d, r, root, member, put, -⟩ :=
      SetterAtomicity.withMember?_of_member? found (.int value.toNat)
    have update := Settings.LinuxStored.setInt?_eq stored value.toNat
    cases accepted : Settings.LinuxStored.isInt stored with
    | false =>
      rw [accepted, if_neg Bool.false_ne_true] at update
      have refused : (d.get? (LinuxReader.calibrationKey channel)).bind (·.setInt? value.toNat) =
        none := by
        rw [member]
        exact update
      exact Or.inl ⟨LinuxLoad.setMember_refused root refused, accepted⟩
    | true =>
      rw [accepted, if_pos rfl] at update
      have taken : (d.get? (LinuxReader.calibrationKey channel)).bind (·.setInt? value.toNat) =
          some (.int value.toNat) := by
        rw [member]
        exact update
      have replaced : (LinuxReader.setChannelCalibration J .done channel value s).1 =
          ⟨some r, .text (some r), s.tables.setCalibration channel value⟩ :=
        LinuxLoad.setMember_replaced root taken put
      have stays := get?_put?_self put
      refine Or.inr ⟨accepted, ?_, ?_⟩
      · rw [replaced]
      · rw [replaced]
        simp only [Linux.member?, Option.bind_some, stays]
        rfl

theorem linux_calibrates (J : JsonC) :
    Calibrates Linux.tables (linuxApiWith J .done) takesCalibration where
  calibrates := fun s channel value => by
    rcases setChannelCalibration_done J s channel value with ⟨same, refused⟩ | ⟨taken, changed, -⟩
    · rw [refused, if_neg Bool.false_ne_true]
      exact congrArg Linux.tables same
    · rw [taken, if_pos rfl]
      exact changed
  keeps := fun s channel value => by
    rcases setChannelCalibration_done J s channel value with ⟨same, -⟩ | ⟨taken, -, still⟩
    · exact congrArg (takesCalibration · channel) same
    · exact still.trans taken.symm
  clears := fun _ _ => rfl

theorem windows_calibrates (nvidiaGpuFound : Bool) :
    Calibrates Windows.tables (windowsApiWith nvidiaGpuFound true) fun _ _ => true where
  calibrates := fun _ _ _ => WindowsReader.setValue_tables _ _ _ _
  keeps := fun _ _ _ => rfl
  clears := fun _ _ => rfl

/-- For every session, opened in any state that a run reaches from a start, in which the
slider shows a value and which leaves the channel bound to the calibration source: until
binding or calibration change again, every tick sends the channel the level that was last
previewed, exactly when this level is 0. On Linux a stored calibration that is no int
refuses the slider; then the level must be the full-scale one of the old calibration. -/
theorem preview_agrees_iff (J : JsonC) (nvidiaGpuFound : Bool) (channelCount : UInt8)
    {envs : Nat → RegistryEnv} {registry : Registry.RegistryKey} {windows : Windows}
    {windowsOutcome : Outcome}
    (windowsStarted : WindowsReader.start nvidiaGpuFound envs channelCount.toNat registry =
      .bound windows windowsOutcome)
    {saves : Nat → SaveOutcome × SaveOutcome} {file : ConfigFile} {linux : Linux}
    {linuxOutcome : Outcome}
    (linuxStarted : LinuxReader.start J saves channelCount.toNat file = .bound linux linuxOutcome)
    {channel : Nat} (below : channel < channelCount.toNat)
    (mfcBefore : List (Bool × Event MfcEnding)) (mfcDuring : List (Event MfcEnding))
    (mfcStays : ∀ e ∈ mfcDuring, Stays e) (mfcEnding : MfcEnding)
    (qtBefore : List (SaveOutcome × Event QtEnding)) (qtDuring : List (Event QtEnding))
    (qtStays : ∀ e ∈ qtDuring, Stays e) (qtEnding : QtEnding) (value : UInt8) :
    (∀ s after, Runs.run (mfcStep nvidiaGpuFound channelCount) (running windows) mfcBefore = s →
      s.dialog = none →
      Runs.run (mfcStep nvidiaGpuFound channelCount) s (session true channel mfcDuring mfcEnding) =
        after →
      after.reader.tables.callback channel = some .calibration →
        lastValue none mfcDuring = some value →
      (Agrees (mfcStep nvidiaGpuFound channelCount) Windows.tables channelCount channel value
          after ↔
        value = 0)) ∧
    (∀ s after, Runs.run (qtStep J channelCount) (running linux) qtBefore = s → s.dialog = none →
      Runs.run (qtStep J channelCount) s (session .done channel qtDuring qtEnding) = after →
      after.reader.tables.callback channel = some .calibration →
      lastValue (some (s.reader.tables.calibration channel)) qtDuring = some value →
      (Agrees (qtStep J channelCount) Linux.tables channelCount channel value after ↔
        Reproduced (takesCalibration s.reader channel)
          (s.reader.tables.calibration channel) value)) := by
  constructor
  · rintro s after rfl closed ended bound slid
    have calibrates := windows_calibrates nvidiaGpuFound
    exact session_agrees_iff (windows_effects nvidiaGpuFound) (mfc_opensWindows nvidiaGpuFound)
      calibrates (mfc_opensTaking calibrates) (mfcRun_cleared windowsStarted mfcBefore) closed
      below rfl mfcStays
      mfcEnding slid ended bound
  · rintro s after rfl closed ended bound slid
    have calibrates := linux_calibrates J
    exact session_agrees_iff (linux_effects J) (qt_opensLinux J) calibrates
      (qt_opensTaking calibrates)
      (qtRun_cleared linuxStarted qtBefore) closed below rfl qtStays qtEnding slid ended bound

/-- `Calibration` is selected and the slider moved to a value. -/
def calibrate {Ending : Type} (value : UInt8) : List (Event Ending) :=
  [.selectName Names.calibration, .slide value]

theorem calibrate_stays {Ending : Type} (value : UInt8) :
    ∀ e ∈ (calibrate value : List (Event Ending)), Stays e := by
  intro e member
  simp only [calibrate, List.mem_cons, List.not_mem_nil, or_false] at member
  rcases member with rfl | rfl <;> trivial

theorem preview_agrees_zero :
    Agrees (mfcStep true 1) Windows.tables 1 0 0 (Runs.run (mfcStep true 1) (running firstWindows)
        (session true 0 (calibrate 0) .onCancel)) ∧
      Agrees (qtStep plain 1) Linux.tables 1 0 0 (Runs.run (qtStep plain 1) (running firstStart)
        (session .done 0 (calibrate 0) .closeEvent)) := by
  have linuxStarted : LinuxReader.start plain allDone 1 .absent =
      .bound firstStart (.returned .success) := rfl
  have agrees := preview_agrees_iff plain true 1 firstWindows_started linuxStarted Nat.zero_lt_one
    [] (calibrate 0) (calibrate_stays 0) .onCancel [] (calibrate 0) (calibrate_stays 0)
      .closeEvent 0
  exact ⟨(agrees.1 _ _ rfl rfl rfl rfl rfl).mpr rfl, (agrees.2 _ _ rfl rfl rfl rfl rfl).mpr rfl⟩

/-- A slider left at 200 previews 200; every tick then sends 199. -/
theorem preview_one_higher :
    latest 0 (Runs.run (mfcStep true 1) (running firstWindows)
        (session true 0 (calibrate 200) .onCancel)).sent = some 200 ∧
      ¬ Agrees (mfcStep true 1) Windows.tables 1 0 200
        (Runs.run (mfcStep true 1) (running firstWindows)
        (session true 0 (calibrate 200) .onCancel)) ∧
      latest 0 (Runs.run (qtStep plain 1) (running firstStart)
        (session .done 0 (calibrate 200) .closeEvent)).sent = some 200 ∧
      ¬ Agrees (qtStep plain 1) Linux.tables 1 0 200 (Runs.run (qtStep plain 1) (running firstStart)
        (session .done 0 (calibrate 200) .closeEvent)) := by
  let env : TickEnv := ⟨fun _ => ⟨none, none, none, none, 0⟩, fun _ => .success⟩
  have member {t : Tables} (packets : toChannel 0 (mainLoopCallback env 1 t.arrays
      SystemTimes.zero).transfers = [sendUsage 0 199]) :
      sendUsage 0 199 ∈ toChannel 0
        (mainLoopCallback env 1 t.arrays SystemTimes.zero).transfers := by
    rw [packets]
    exact List.mem_singleton_self _
  refine ⟨rfl, fun agrees => ?_, rfl, fun agrees => ?_⟩
  · have level : (sendUsage 0 199).level = 200 :=
      agrees [] ⟨rfl, rfl⟩ env (fun _ => rfl) _ (member (by decide))
    exact absurd level (by decide)
  · have level : (sendUsage 0 199).level = 200 :=
      agrees [] ⟨rfl, rfl⟩ env (fun _ => rfl) _ (member (by decide))
    exact absurd level (by decide)

end PerformancePanel.Guarantees.PreviewLevel

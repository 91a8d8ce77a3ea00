import PerformancePanel.Guarantees.BindingRestored
import PerformancePanel.Guarantees.SetterAtomicity
import PerformancePanel.Source.Tick

/-!
# Ticks and the preview of an adjust dialog

While its dialog is open a channel is cleared, so the ticks that run inside the modal loop
pass it over and serve every other bound channel; the slider alone addresses it. Nothing of
this depends on the storage: the setters change the arrays or leave them, and each event
carries how the storage takes it.
-/
set_option autoImplicit false

namespace PerformancePanel.Guarantees.AdjustPreview
open Source Source.Common Source.DataSources Source.Collector Source.DataSourceInterface
open Source.AdjustDialog Source.Tick Source.JsonLibrary Library
open Source.LinuxReader (Linux)
open Source.WindowsReader (Windows RegistryEnv)
open SetterAtomicity (linuxApiWith windowsApiWith)
open BindingRestored (firstWindows firstWindows_started)
open LinuxRestart (allDone firstStart)

section system
variable {σ ω Ending : Type} (api : ω → DataSourceApi σ)
  (toolkit : DataSourceApi σ → Toolkit σ Ending) (channelCount : UInt8)

/-- One event of the control program, and how the storage takes what it sets. -/
def step (s : Session σ) (event : ω × Event Ending) : Session σ :=
  AdjustDialog.step (api event.1) (toolkit (api event.1)) channelCount s event.2

end system

/-- The level of the last packet that addressed the channel. -/
def latest (channel : Nat) (sent : List ControlTransfer) : Option UInt8 :=
  (toChannel channel sent).getLast?.map ControlTransfer.level

/-- The slider value after an event. -/
def shown {Ending : Type} (before : Option UInt8) : Event Ending → Option UInt8
  | .slide value => some value
  | _ => before

/-- The slider value after the events of a session; `before` is what opening it showed. -/
def lastValue {Ending : Type} (before : Option UInt8) : List (Event Ending) → Option UInt8
  | [] => before
  | event :: events => lastValue (shown before event) events

/-- The dialog stays open. -/
def Stays {Ending : Type} : Event Ending → Prop
  | .endDialog _ => False
  | _ => True

/-- The packets that a tick adds to those sent. -/
def tickPackets {σ : Type} (tables : σ → Tables) (channelCount : UInt8) (env : TickEnv)
    (s : Session σ) : List ControlTransfer :=
  (mainLoopCallback env channelCount (tables s.reader).arrays s.lastTimes).transfers

/-- The property, at one moment of a session on the channel, with the slider value then. -/
structure Previewed {σ : Type} (tables : σ → Tables) (channelCount : UInt8) (channel : Nat)
    (value : Option UInt8) (s : Session σ) : Prop where
  quiet : ∀ env, toChannel channel (tickPackets tables channelCount env s) = []
  others : ∀ env, (∀ c, env.transfer c = .success) → ∀ other < channelCount.toNat,
    (tables s.reader).callback other ≠ none →
    (toChannel other (tickPackets tables channelCount env s)).length = 1
  previewed : ∀ v, value = some v → latest channel s.sent = some v

/-! ## What the calls do to the arrays -/

/-- A setter changes its entry or nothing; clearing always clears. -/
structure ArrayEffects {σ : Type} (tables : σ → Tables) (api : DataSourceApi σ) : Prop where
  same : api.tables = tables
  binds : ∀ s channel name, tables (api.setChannelSourceBinding channel name s).1 = tables s ∨
    ∃ callback, tables (api.setChannelSourceBinding channel name s).1 =
      (tables s).setCallback channel callback
  clears : ∀ s channel, tables (api.clearBinding channel s).1 = (tables s).setCallback channel none
  calibrates : ∀ s channel value,
    tables (api.setChannelCalibration channel value s).1 = tables s ∨
      tables (api.setChannelCalibration channel value s).1 = (tables s).setCalibration channel value

theorem setMember_tables (J : JsonC) (save : SaveOutcome) (key : String)
    (update : Json → Option Json) (commit : Tables → Tables) (s : Linux) :
    (LinuxReader.setMember J save key update commit s).1.tables = s.tables ∨
      (LinuxReader.setMember J save key update commit s).1.tables = commit s.tables := by
  unfold LinuxReader.setMember
  cases ((s.member? key).bind update).bind (s.withMember? key) with
  | none => exact Or.inl rfl
  | some root =>
    cases save with
    | done => exact Or.inr rfl
    | failed written => exact Or.inl rfl
    | stopped written => exact Or.inl rfl

theorem linux_effects (J : JsonC) (save : SaveOutcome) :
    ArrayEffects Linux.tables (linuxApiWith J save) where
  same := rfl
  binds := fun s channel name => (setMember_tables J save (LinuxReader.channelKey channel)
    (·.setString? name) (·.setCallback channel (LinuxReader.nameStringToCallback name)) s).imp_right
      fun changed => ⟨_, changed⟩
  clears := fun _ _ => rfl
  calibrates := fun s channel value => setMember_tables J save (LinuxReader.calibrationKey channel)
    (·.setInt? value.toNat) (·.setCalibration channel value) s

theorem windows_effects (nvidiaGpuFound succeeds : Bool) :
    ArrayEffects Windows.tables (windowsApiWith nvidiaGpuFound succeeds) where
  same := rfl
  binds := fun _ _ _ => Or.inr ⟨_, WindowsReader.setValue_tables _ _ _ _⟩
  clears := fun _ _ => rfl
  calibrates := fun _ _ _ => Or.inr (WindowsReader.setValue_tables _ _ _ _)

section effects
variable {σ : Type} {tables : σ → Tables} {api : DataSourceApi σ}
  (effects : ArrayEffects tables api) {count : Nat} {reader : σ}
include effects

theorem bind_keeps (channel : Nat) (name : Name) :
    ((tables (api.setChannelSourceBinding channel name reader).1).Sized count ↔
        (tables reader).Sized count) ∧
      (tables (api.setChannelSourceBinding channel name reader).1).calibration =
        (tables reader).calibration := by
  rcases effects.binds reader channel name with same | ⟨callback, changed⟩
  · rw [same]
    exact ⟨Iff.rfl, rfl⟩
  · rw [changed]
    exact ⟨Tables.setCallback_sized _ _ _ _, rfl⟩

theorem calibrate_keeps (channel : Nat) (value : UInt8) :
    ((tables (api.setChannelCalibration channel value reader).1).Sized count ↔
        (tables reader).Sized count) ∧
      (tables (api.setChannelCalibration channel value reader).1).callback =
        (tables reader).callback := by
  rcases effects.calibrates reader channel value with same | changed
  · rw [same]
    exact ⟨Iff.rfl, rfl⟩
  · rw [changed]
    exact ⟨Tables.setCalibration_sized _ _ _ _, rfl⟩

/-- Setting the value a channel has leaves it, whether the storage takes it or not. -/
theorem calibrate_same (sized : (tables reader).Sized count) {channel : Nat}
    (below : channel < count) :
    (tables (api.setChannelCalibration channel ((tables reader).calibration channel)
      reader).1).calibration
        channel = (tables reader).calibration channel := by
  rcases effects.calibrates reader channel ((tables reader).calibration channel) with same | changed
  · rw [same]
  · rw [changed, Tables.calibration_setCalibration_self sized below]

end effects

/-! ## What every run keeps -/

/-- The arrays have their length and the channel of an open dialog is cleared. -/
structure Cleared {σ : Type} (tables : σ → Tables) (count : Nat) (s : Session σ) : Prop where
  sized : (tables s.reader).Sized count
  dialog : ∀ d, s.dialog = some d → d.channel < count ∧ (tables s.reader).callback d.channel = none

/-- A dialog on the channel is open. -/
def IsOpen {σ : Type} (channel : Nat) (s : Session σ) : Prop :=
  ∃ name, s.dialog = some ⟨channel, name⟩

/-- What a session needs of a toolkit: opening clears the channel and leaves its
calibration; an ending sets a binding or nothing. -/
structure Opens {σ Ending : Type} (tables : σ → Tables) (T : Toolkit σ Ending)
    (api : DataSourceApi σ) :
    Prop where
  opens : ∀ count channel s, (tables s.reader).Sized count → channel < count →
    (tables (T.opens channel s).reader).Sized count ∧
      (tables (T.opens channel s).reader).callback channel = none ∧
      (tables (T.opens channel s).reader).calibration channel =
        (tables s.reader).calibration channel ∧
      IsOpen channel (T.opens channel s)
  ends : ∀ ending d reader, T.ends ending d reader = reader ∨
    T.ends ending d reader = restoreBinding api d reader

section toolkits
variable {σ : Type} {tables : σ → Tables} {api : DataSourceApi σ}
  (effects : ArrayEffects tables api)
include effects

theorem cacheAndClear_opens (count channel : Nat) (s : Session σ)
    (sized : (tables s.reader).Sized count) (below : channel < count) :
    (tables (cacheAndClear api channel s).reader).Sized count ∧
      (tables (cacheAndClear api channel s).reader).callback channel = none ∧
      (tables (cacheAndClear api channel s).reader).calibration channel =
        (tables s.reader).calibration channel ∧
      IsOpen channel (cacheAndClear api channel s) := by
  have cleared : tables (cacheAndClear api channel s).reader =
    (tables s.reader).setCallback channel none :=
    effects.clears s.reader channel
  rw [cleared]
  exact ⟨(Tables.setCallback_sized _ _ _ _).mpr sized,
    Tables.callback_setCallback_self sized below none, rfl, ⟨_, rfl⟩⟩

theorem mfc_opens : Opens tables (mfc api) api where
  opens := cacheAndClear_opens effects
  ends := fun ending d reader => by
    cases ending with
    | onOK => exact Or.inl rfl
    | onCancel => exact Or.inr rfl

/-- What the Qt constructor does is `cacheAndClear` after its own slider event, if any, and
a preview of the calibration, which that event leaves as it was. -/
theorem adjustDialog_spec {count channel : Nat} {s : Session σ}
    (sized : (tables s.reader).Sized count) (below : channel < count) :
    ∃ s', adjustDialog api channel s =
        previewUsage channel ((tables s.reader).calibration channel)
          (cacheAndClear api channel s') ∧
      (tables s'.reader).Sized count ∧
      (tables s'.reader).calibration channel = (tables s.reader).calibration channel := by
  have same := effects.same
  subst same
  by_cases zero : (api.tables s.reader).calibration channel = 0
  · have cleared := (cacheAndClear_opens effects count channel s sized below).2.2.1
    refine ⟨s, ?_, sized, rfl⟩
    simp only [adjustDialog, if_pos zero, cleared]
  · have sized' := (@calibrate_keeps σ api.tables api effects count s.reader channel
      ((api.tables s.reader).calibration channel)).1.mpr sized
    have kept := calibrate_same effects sized below
    have cleared := (cacheAndClear_opens effects count channel
      (onSlide api channel ((api.tables s.reader).calibration channel) s) sized' below).2.2.1
    refine ⟨onSlide api channel ((api.tables s.reader).calibration channel) s, ?_, sized', kept⟩
    simp only [adjustDialog, if_neg zero, cleared]
    exact congrArg (fun level => previewUsage channel level _) kept

theorem qt_opens : Opens tables (qt api) api where
  opens := fun count channel s sized below => by
    obtain ⟨s', opened, sized', calibration⟩ := adjustDialog_spec effects sized below
    rw [← calibration]
    show (tables (adjustDialog api channel s).reader).Sized count ∧
      (tables (adjustDialog api channel s).reader).callback channel = none ∧
      (tables (adjustDialog api channel s).reader).calibration channel = _ ∧
      IsOpen channel (adjustDialog api channel s)
    rw [opened]
    exact cacheAndClear_opens effects count channel s' sized' below
  ends := fun ending d reader => by
    cases ending with
    | closeEvent => exact Or.inr rfl
    | accept => exact Or.inl rfl
    | reject => exact Or.inl rfl

/-- The Qt dialog opens with the channel showing its calibration. -/
theorem qt_latest {count channel : Nat} {s : Session σ} (sized : (tables s.reader).Sized count)
    (below : channel < count) (small : channel < 256) :
    latest channel ((qt api).opens channel s).sent =
      some ((tables s.reader).calibration channel) := by
  obtain ⟨s', opened, -, -⟩ := adjustDialog_spec effects sized below
  show latest channel (adjustDialog api channel s).sent = _
  rw [opened]
  show latest channel (s'.sent ++ [sendUsage (UInt8.ofNat channel) _]) = _
  simp [latest, toChannel_preview small]

end toolkits

/-- A second dialog cannot be opened. -/
theorem step_openDialog {σ Ending : Type} (api : DataSourceApi σ) (T : Toolkit σ Ending)
    (channelCount : UInt8) {s : Session σ} {channel : Nat} (isOpen : IsOpen channel s)
    (other : Nat) :
    AdjustDialog.step api T channelCount s (.openDialog other) = s := by
  obtain ⟨name, dialog⟩ := isOpen
  simp [AdjustDialog.step, dialog]

section events
variable {σ Ending : Type} {tables : σ → Tables} {api : DataSourceApi σ}
  (effects : ArrayEffects tables api)
  {T : Toolkit σ Ending} (opening : Opens tables T api) {channelCount : UInt8} {s : Session σ}
  (cleared : Cleared tables channelCount.toNat s)
include effects

theorem tick_sent (env : TickEnv) : (AdjustDialog.step api T channelCount s (.tick env)).sent =
    s.sent ++ tickPackets tables channelCount env s := by
  have same := effects.same
  subst same
  rfl

include opening cleared in
/-- Every event, however the storage takes it and the dialog ends, keeps the arrays and
the open channel cleared. -/
theorem step_cleared (e : Event Ending) :
    Cleared tables channelCount.toNat (AdjustDialog.step api T channelCount s e) := by
  cases e with
  | tick env => exact ⟨cleared.sized, cleared.dialog⟩
  | openDialog channel =>
    simp only [AdjustDialog.step]
    split
    next allowed =>
      obtain ⟨sized, callback, -, name, dialog⟩ :=
        opening.opens channelCount.toNat channel s cleared.sized allowed.2
      refine ⟨sized, fun d isOpen => ?_⟩
      rw [dialog, Option.some.injEq] at isOpen
      rw [← isOpen]
      exact ⟨allowed.2, callback⟩
    next => exact cleared
  | slide value =>
    simp only [AdjustDialog.step]
    cases isOpen : s.dialog with
    | none => exact cleared
    | some d =>
      have kept := @calibrate_keeps σ tables api effects channelCount.toNat s.reader d.channel value
      refine ⟨kept.1.mpr cleared.sized, fun d' isOpen' => ?_⟩
      obtain ⟨below, callback⟩ := cleared.dialog d' isOpen'
      exact ⟨below, (congrFun kept.2 d'.channel).trans callback⟩
  | selectName name =>
    simp only [AdjustDialog.step]
    cases isOpen : s.dialog with
    | none => exact cleared
    | some d =>
      dsimp only
      split
      next =>
        refine ⟨cleared.sized, fun d' isOpen' => ?_⟩
        rw [← Option.some.inj isOpen']
        exact cleared.dialog d isOpen
      next => exact cleared
  | endDialog ending =>
    simp only [AdjustDialog.step]
    cases isOpen : s.dialog with
    | none => exact cleared
    | some d =>
      refine ⟨?_, fun _ isOpen' => by cases isOpen'⟩
      rcases opening.ends ending d s.reader with left | restored
      · dsimp only
        rw [left]
        exact cleared.sized
      · dsimp only
        rw [restored]
        exact (bind_keeps effects d.channel d.cachedChannel).1.mpr cleared.sized

include cleared in
/-- An event of the session leaves the dialog open, and only the slider addresses its channel. -/
theorem step_during {channel : Nat} (isOpen : IsOpen channel s) (e : Event Ending)
    (stays : Stays e) :
    IsOpen channel (AdjustDialog.step api T channelCount s e) ∧
      latest channel (AdjustDialog.step api T channelCount s e).sent =
        shown (latest channel s.sent) e := by
  obtain ⟨name, dialog⟩ := isOpen
  obtain ⟨below, callback⟩ := cleared.dialog _ dialog
  have small := channelCount.toNat_lt
  cases e with
  | tick env =>
    refine ⟨⟨name, dialog⟩, ?_⟩
    have nothing : toChannel channel (tickPackets tables channelCount env s) = [] :=
      transfers_toUnbound cleared.sized callback
    rw [tick_sent effects, latest, toChannel_append, nothing, List.append_nil]
    rfl
  | openDialog other =>
    rw [step_openDialog api T channelCount ⟨name, dialog⟩ other]
    exact ⟨⟨name, dialog⟩, rfl⟩
  | slide value =>
    simp only [AdjustDialog.step, dialog]
    refine ⟨⟨name, dialog⟩, ?_⟩
    show latest channel (s.sent ++ [sendUsage (UInt8.ofNat channel) value]) = some value
    have small : channel < 256 := by
      have inside : channel < channelCount.toNat := below
      omega
    simp [latest, toChannel_preview small]
  | selectName selected =>
    simp only [AdjustDialog.step, dialog]
    split
    next => exact ⟨⟨selected, rfl⟩, rfl⟩
    next => exact ⟨⟨name, dialog⟩, rfl⟩
  | endDialog ending => exact stays.elim

end events

section runs
variable {σ ω Ending : Type} {tables : σ → Tables} {api : ω → DataSourceApi σ}
  (effects : ∀ w, ArrayEffects tables (api w)) {toolkit : DataSourceApi σ → Toolkit σ Ending}
  (opening : ∀ w, Opens tables (toolkit (api w)) (api w)) {channelCount : UInt8}
include effects opening

theorem run_cleared {s : Session σ} (cleared : Cleared tables channelCount.toNat s)
    (events : List (ω × Event Ending)) :
    Cleared tables channelCount.toNat (Runs.run (step api toolkit channelCount) s events) := by
  have keeps : ∀ s e, Cleared tables channelCount.toNat s →
      Cleared tables channelCount.toNat (step api toolkit channelCount s e) :=
    fun _ e before => step_cleared (effects e.1) (opening e.1) before e.2
  exact (Runs.allReached_of_invariant keeps cleared events).last

/-- Through a session the last packet to its channel carries the last slider value. -/
theorem run_during {s : Session σ} (cleared : Cleared tables channelCount.toNat s) {channel : Nat}
    (isOpen : IsOpen channel s) {during : List (ω × Event Ending)}
    (stays : ∀ e ∈ during, Stays e.2) :
    IsOpen channel (Runs.run (step api toolkit channelCount) s during) ∧
      latest channel (Runs.run (step api toolkit channelCount) s during).sent =
        lastValue (latest channel s.sent) (during.map Prod.snd) := by
  induction during generalizing s with
  | nil => exact ⟨isOpen, rfl⟩
  | cons e during ih =>
    have here : Stays e.2 := stays e List.mem_cons_self
    obtain ⟨stillOpen, level⟩ :=
      @step_during σ Ending tables (api e.1) (effects e.1) (toolkit (api e.1)) channelCount
        s cleared channel isOpen e.2 here
    have next : Cleared tables channelCount.toNat (step api toolkit channelCount s e) :=
      step_cleared (effects e.1) (opening e.1) cleared e.2
    have rest := ih next stillOpen fun e' member => stays e' (List.mem_cons_of_mem e member)
    refine ⟨rest.1, rest.2.trans ?_⟩
    exact congrArg (lastValue · (during.map Prod.snd)) level

end runs

/-- A slider value of the events alone is the last one, whatever was shown before. -/
theorem lastValue_of_none {Ending : Type} {events : List (Event Ending)} {value : UInt8}
    (before : Option UInt8) (slid : lastValue none events = some value) :
    lastValue before events = some value := by
  induction events generalizing before with
  | nil => cases slid
  | cons e events ih =>
    simp only [lastValue] at slid ⊢
    cases e with
    | slide value' => exact slid
    | tick env => exact ih before slid
    | openDialog channel => exact ih before slid
    | selectName name => exact ih before slid
    | endDialog ending => exact ih before slid

/-- A cleared channel is passed over and every other bound one served. -/
theorem previewed_of_cleared {σ : Type} {tables : σ → Tables} {channelCount : UInt8} {s : Session σ}
    (cleared : Cleared tables channelCount.toNat s) {channel : Nat} (isOpen : IsOpen channel s)
    {value : Option UInt8} (level : ∀ v, value = some v → latest channel s.sent = some v) :
    Previewed tables channelCount channel value s where
  quiet := fun env => by
    obtain ⟨name, dialog⟩ := isOpen
    exact transfers_toUnbound cleared.sized (cleared.dialog _ dialog).2
  others := fun env ok other below bound => by
    obtain ⟨source, callback⟩ := Option.ne_none_iff_exists'.mp bound
    have packets := @transfers_toChannel env (tables s.reader) s.lastTimes channelCount
      cleared.sized ok other below
    rw [tickPackets, packets, callback]
    rfl
  previewed := level

/-- A session opened in a state without a dialog. -/
theorem opening_event {σ ω Ending : Type} {tables : σ → Tables} {api : ω → DataSourceApi σ}
    {toolkit : DataSourceApi σ → Toolkit σ Ending} {channelCount : UInt8} {s : Session σ}
    (opening : ∀ w, Opens tables (toolkit (api w)) (api w)) (w : ω)
    (cleared : Cleared tables channelCount.toNat s) (closed : s.dialog = none) {channel : Nat}
    (below : channel < channelCount.toNat) :
    step api toolkit channelCount s (w, .openDialog channel) = (toolkit (api w)).opens channel s ∧
      IsOpen channel (step api toolkit channelCount s (w, .openDialog channel)) := by
  have allowed : s.dialog.isNone ∧ channel < channelCount.toNat :=
    ⟨Option.isNone_iff_eq_none.mpr closed, below⟩
  have opened : step api toolkit channelCount s (w, .openDialog channel) =
      (toolkit (api w)).opens channel s := if_pos allowed
  rw [opened]
  exact ⟨rfl, ((opening w).opens _ channel s cleared.sized below).2.2.2⟩

/-- For any program: every moment of a session, given what its opening has the channel show. -/
theorem session_previewed {σ ω Ending : Type} {tables : σ → Tables} {api : ω → DataSourceApi σ}
    (effects : ∀ w, ArrayEffects tables (api w)) {toolkit : DataSourceApi σ → Toolkit σ Ending}
    (opening : ∀ w, Opens tables (toolkit (api w)) (api w)) {channelCount : UInt8} {s : Session σ}
    (cleared : Cleared tables channelCount.toNat s) (closed : s.dialog = none) {channel : Nat}
    (below : channel < channelCount.toNat) (w : ω) {during : List (ω × Event Ending)}
    (stays : ∀ e ∈ during, Stays e.2) {value : Option UInt8}
    (shows : ∀ v, value = some v → lastValue
      (latest channel ((toolkit (api w)).opens channel s).sent) (during.map Prod.snd) = some v) :
    Previewed tables channelCount channel value
      (Runs.run (step api toolkit channelCount) s ((w, .openDialog channel) :: during)) := by
  obtain ⟨opens, isOpen⟩ := opening_event opening w cleared closed below
  have opened : Cleared tables channelCount.toNat
      (step api toolkit channelCount s (w, .openDialog channel)) :=
    step_cleared (effects w) (opening w) cleared _
  obtain ⟨stillOpen, level⟩ := run_during effects opening opened isOpen stays
  rw [opens] at level
  rw [Runs.run_cons]
  refine previewed_of_cleared (run_cleared effects opening opened during) stillOpen
    fun v given => ?_
  rw [opens]
  exact level.trans (shows v given)

/-! ## The two programs -/

/-- MFC on the registry reader; each event says whether `RegSetValueEx` succeeds. -/
abbrev mfcStep (nvidiaGpuFound : Bool) (channelCount : UInt8) :
    Session Windows → Bool × Event MfcEnding → Session Windows :=
  step (windowsApiWith nvidiaGpuFound) mfc channelCount

/-- Qt on the config.json reader; each event says how its save goes. -/
abbrev qtStep (J : JsonC) (channelCount : UInt8) :
    Session Linux → SaveOutcome × Event QtEnding → Session Linux :=
  step (linuxApiWith J) qt channelCount

theorem mfc_opensWindows (nvidiaGpuFound succeeds : Bool) : Opens Windows.tables
    (mfc (windowsApiWith nvidiaGpuFound succeeds)) (windowsApiWith nvidiaGpuFound succeeds) :=
  mfc_opens (windows_effects nvidiaGpuFound succeeds)

theorem qt_opensLinux (J : JsonC) (save : SaveOutcome) :
    Opens Linux.tables (qt (linuxApiWith J save)) (linuxApiWith J save) :=
  qt_opens (linux_effects J save)

theorem running_cleared {σ : Type} {tables : σ → Tables} {reader : σ} {count : Nat}
    (sized : (tables reader).Sized count) : Cleared tables count (running reader) :=
  ⟨sized, fun _ isOpen => by cases isOpen⟩

/-! From any start, however it ends, every run keeps the arrays and an open channel cleared. -/

theorem mfcRun_cleared {nvidiaGpuFound : Bool} {channelCount : UInt8} {envs : Nat → RegistryEnv}
    {registry : Registry.RegistryKey} {windows : Windows} {outcome : Outcome}
    (started : WindowsReader.start nvidiaGpuFound envs channelCount.toNat registry =
      .bound windows outcome) (events : List (Bool × Event MfcEnding)) :
    Cleared Windows.tables channelCount.toNat
      (Runs.run (mfcStep nvidiaGpuFound channelCount) (running windows) events) :=
  run_cleared (windows_effects nvidiaGpuFound) (mfc_opensWindows nvidiaGpuFound)
    (running_cleared (WindowsLoad.start_sized started)) events

theorem qtRun_cleared {J : JsonC} {channelCount : UInt8} {saves : Nat → SaveOutcome × SaveOutcome}
    {file : ConfigFile} {linux : Linux} {outcome : Outcome}
    (started : LinuxReader.start J saves channelCount.toNat file = .bound linux outcome)
    (events : List (SaveOutcome × Event QtEnding)) :
    Cleared Linux.tables channelCount.toNat
      (Runs.run (qtStep J channelCount) (running linux) events) :=
  run_cleared (linux_effects J) (qt_opensLinux J)
    (running_cleared (LinuxLoad.start_sized started)) events

/-- In a session on any channel, opened in any state that a run reaches from a start, and
under every order of the events, whatever the storage does: no tick sends a packet to the
channel, every tick whose transfers succeed sends one to each other bound channel, and the
last packet sent to the channel carries the last slider value. In Qt this holds from the
opening on, which shows the calibration. -/
theorem adjust_previews (J : JsonC) (nvidiaGpuFound : Bool) (channelCount : UInt8)
    {envs : Nat → RegistryEnv} {registry : Registry.RegistryKey} {windows : Windows}
    {windowsOutcome : Outcome}
    (windowsStarted : WindowsReader.start nvidiaGpuFound envs channelCount.toNat registry =
      .bound windows windowsOutcome)
    {saves : Nat → SaveOutcome × SaveOutcome} {file : ConfigFile} {linux : Linux}
    {linuxOutcome : Outcome}
    (linuxStarted : LinuxReader.start J saves channelCount.toNat file = .bound linux linuxOutcome)
    {channel : Nat} (below : channel < channelCount.toNat)
    (mfcBefore mfcDuring : List (Bool × Event MfcEnding)) (mfcStays : ∀ e ∈ mfcDuring, Stays e.2)
    (qtBefore qtDuring : List (SaveOutcome × Event QtEnding))
    (qtStays : ∀ e ∈ qtDuring, Stays e.2) :
    (∀ s succeeds, Runs.run (mfcStep nvidiaGpuFound channelCount) (running windows) mfcBefore = s →
      s.dialog = none →
      Previewed Windows.tables channelCount channel (lastValue none (mfcDuring.map Prod.snd))
        (Runs.run (mfcStep nvidiaGpuFound channelCount) s
          ((succeeds, .openDialog channel) :: mfcDuring))) ∧
    (∀ s save, Runs.run (qtStep J channelCount) (running linux) qtBefore = s → s.dialog = none →
      Previewed Linux.tables channelCount channel
        (lastValue (some (s.reader.tables.calibration channel)) (qtDuring.map Prod.snd))
        (Runs.run (qtStep J channelCount) s ((save, .openDialog channel) :: qtDuring))) := by
  constructor
  · rintro s succeeds rfl closed
    exact session_previewed (windows_effects nvidiaGpuFound) (mfc_opensWindows nvidiaGpuFound)
      (mfcRun_cleared windowsStarted mfcBefore) closed below succeeds mfcStays
      fun v slid => lastValue_of_none _ slid
  · rintro s save rfl closed
    have cleared := qtRun_cleared linuxStarted qtBefore
    refine session_previewed (linux_effects J) (qt_opensLinux J) cleared closed below save qtStays
      fun v slid => ?_
    have small : channel < 256 := by
      have most := channelCount.toNat_lt
      omega
    rw [qt_latest (linux_effects J save) cleared.sized below small]
    exact slid

/-- The slider is moved after a name was selected, and moved again. -/
def slidTwice {ω Ending : Type} (w : ω) : List (ω × Event Ending) :=
  [(w, .selectName Names.calibration), (w, .slide 40), (w, .slide 200)]

theorem slidTwice_stays {ω Ending : Type} (w : ω) :
    ∀ e ∈ (slidTwice w : List (ω × Event Ending)), Stays e.2 := by
  intro e member
  simp only [slidTwice, List.mem_cons, List.not_mem_nil, or_false] at member
  rcases member with rfl | rfl | rfl <;> trivial

theorem adjust_previews_slidTwice :
    Previewed Windows.tables 1 0 (some 200) (Runs.run (mfcStep true 1) (running firstWindows)
        ((true, .openDialog 0) :: slidTwice true)) ∧
      Previewed Linux.tables 1 0 (some 200) (Runs.run (qtStep plain 1) (running firstStart)
        ((.failed .untouched, .openDialog 0) :: slidTwice (.failed .untouched))) := by
  have linuxStarted : LinuxReader.start plain allDone 1 .absent =
      .bound firstStart (.returned .success) := rfl
  have previews := adjust_previews plain true 1 firstWindows_started linuxStarted Nat.zero_lt_one
    [] (slidTwice true) (slidTwice_stays true) [] (slidTwice (.failed .untouched))
      (slidTwice_stays _)
  exact ⟨previews.1 _ true rfl rfl, previews.2 _ (.failed .untouched) rfl rfl⟩

end PerformancePanel.Guarantees.AdjustPreview

import PerformancePanel.Guarantees.LinuxRestart
import PerformancePanel.Guarantees.WindowsRestart
import PerformancePanel.Source.AdjustDialog

/-!
# Bindings after an adjust dialog

Opening the dialog clears the channel's callback and relies on one way of ending to set
it again: `OnCancel` in MFC, `closeEvent` in Qt. A dialog ended otherwise leaves NULL in
the array while the store keeps the name. In every run the arrays follow the store,
whenever no dialog is open, exactly when each dialog that ends otherwise was open on a
channel whose stored name has no source.
-/
set_option autoImplicit false

namespace PerformancePanel.Guarantees.BindingRestored
open Source.Common Source.DataSources Source.Collector Source.DataSourceInterface
open Source.AdjustDialog Settings Library
open Library.WriteThrough (Cells InSync Settled drop write drop_other settled_write write_inSync)

/-! ## Any toolkit on any stored reader -/

/-- What the proof needs of a toolkit: opening drops the channel's cell and caches an
advertised name; an ending restores the binding or leaves the reader alone. -/
structure Adjusts {σ B C Ending : Type} (R : StoredReader σ B C) (T : Toolkit σ Ending) where
  restores : Ending → Bool
  opens : ∀ channel s, R.Loaded s.reader → channel < R.count →
    R.Loaded (T.opens channel s).reader ∧
    R.bindingCells (T.opens channel s).reader = drop R.bindings (R.bindingCells s.reader) channel ∧
    ∃ name ∈ R.api.dataSourceNames, (T.opens channel s).dialog = some ⟨channel, name⟩
  ends : ∀ ending d reader, T.ends ending d reader =
    if restores ending then restoreBinding R.api d reader else reader

section session
variable {σ B C Ending : Type} {R : StoredReader σ B C} {T : Toolkit σ Ending}
  (A : Adjusts R T) {channelCount : UInt8}

/-- The channel's array entry is the source of its stored binding. -/
def Follows (R : StoredReader σ B C) (s : Session σ) (channel : Nat) : Prop :=
  (R.api.tables s.reader).callback channel = R.bindings.decode (R.storedBinding s.reader channel)

/-- The property: without a dialog every channel follows its stored binding. -/
def Restored (R : StoredReader σ B C) (s : Session σ) : Prop :=
  s.dialog = none → ∀ channel < R.count, Follows R s channel

/-- Only the channel of an open dialog may deviate. -/
def OthersFollow (R : StoredReader σ B C) (s : Session σ) : Prop :=
  ∀ channel < R.count, (∀ d, s.dialog = some d → channel ≠ d.channel) → Follows R s channel

/-- What every run keeps: a loaded reader, and the dialog's channel cleared. -/
structure Sound (R : StoredReader σ B C) (s : Session σ) : Prop where
  loaded : R.Loaded s.reader
  below : ∀ d, s.dialog = some d → d.channel < R.count
  cleared : ∀ d, s.dialog = some d → (R.api.tables s.reader).callback d.channel = none
  cached : ∀ d, s.dialog = some d → R.fits d.cachedChannel

/-- The condition on one event, in the state before it. -/
def EndsRestoring (R : StoredReader σ B C) (restores : Ending → Bool) (s : Session σ) :
    Event Ending → Prop
  | .endDialog ending => ∀ d, s.dialog = some d → restores ending = false →
      R.bindings.decode (R.storedBinding s.reader d.channel) = none
  | _ => True

theorem setCalibration_cells {reader : σ} (loaded : R.Loaded reader) {channel : Nat}
    (below : channel < R.count) (value : UInt8) :
    R.Loaded (R.api.setChannelCalibration channel value reader).1 ∧
      R.bindingCells (R.api.setChannelCalibration channel value reader).1 =
        R.bindingCells reader := by
  have refined := R.refines reader (.setChannelCalibration channel value) loaded below
  exact ⟨refined.1, refined.2.1⟩

theorem clear_cells {reader : σ} (loaded : R.Loaded reader) {channel : Nat}
    (below : channel < R.count) :
    R.Loaded (R.api.clearBinding channel reader).1 ∧
      R.bindingCells (R.api.clearBinding channel reader).1 =
        drop R.bindings (R.bindingCells reader) channel := by
  have refined := R.refines reader (.clearBinding channel) loaded below
  exact ⟨refined.1, refined.2.1⟩

theorem restore_cells {reader : σ} (loaded : R.Loaded reader) {d : Dialog}
    (below : d.channel < R.count) (fits : R.fits d.cachedChannel) :
    R.Loaded (restoreBinding R.api d reader) ∧
      R.bindingCells (restoreBinding R.api d reader) =
        write R.bindings (R.bindingCells reader) d.channel d.cachedChannel := by
  have refined := R.refines reader (.setChannelSourceBinding d.channel d.cachedChannel) loaded
    ⟨below, fits⟩
  exact ⟨refined.1, refined.2.1⟩

/-- Following is a property of the binding cells. -/
theorem follows_iff (s : Session σ) (channel : Nat) :
    Follows R s channel ↔ InSync R.bindings (R.bindingCells s.reader) channel := Iff.rfl

theorem cleared_of_drop {reader reader' : σ} {channel : Nat}
    (cells : R.bindingCells reader' = drop R.bindings (R.bindingCells reader) channel) :
    (R.api.tables reader').callback channel = none := by
  have cached := congrArg (fun c => c.cached channel) cells
  exact cached.trans (R.dropped_none (R.bindingCells reader) channel)

/-- Without a dialog a loaded reader is all there is to keep. -/
theorem sound_closed {s : Session σ} (loaded : R.Loaded s.reader) (closed : s.dialog = none) :
    Sound R s := by
  have absurdDialog {d : Dialog} (isOpen : s.dialog = some d) : False := by
    rw [closed] at isOpen
    cases isOpen
  exact ⟨loaded, fun _ isOpen => (absurdDialog isOpen).elim,
    fun _ isOpen => (absurdDialog isOpen).elim, fun _ isOpen => (absurdDialog isOpen).elim⟩

/-! One lemma for what each event does to a sound session. -/

include A in
theorem opened_sound {s : Session σ} (sound : Sound R s) {channel : Nat}
    (below : channel < R.count) :
    Sound R (T.opens channel s) := by
  obtain ⟨loaded, cells, name, listed, dialog⟩ := A.opens channel s sound.loaded below
  have isDialog : ∀ d, (T.opens channel s).dialog = some d → d = ⟨channel, name⟩ := by
    intro d isOpen
    rw [dialog, Option.some.injEq] at isOpen
    exact isOpen.symm
  refine ⟨loaded, fun d isOpen => ?_, fun d isOpen => ?_, fun d isOpen => ?_⟩
  · rw [isDialog d isOpen]
    exact below
  · rw [isDialog d isOpen]
    exact cleared_of_drop cells
  · rw [isDialog d isOpen]
    exact R.listed_fits name listed

theorem slid_sound {s : Session σ} (sound : Sound R s) {d : Dialog} (isOpen : s.dialog = some d)
    (value : UInt8) : Sound R (onSlide R.api d.channel value s) := by
  obtain ⟨loaded, cells⟩ := setCalibration_cells sound.loaded (sound.below d isOpen) value
  have callbacks := congrArg Cells.cached cells
  refine ⟨loaded, sound.below, fun d' isOpen' => ?_, sound.cached⟩
  exact (congrFun callbacks d'.channel).trans (sound.cleared d' isOpen')

theorem selected_sound {s : Session σ} (sound : Sound R s) {d : Dialog} (isOpen : s.dialog = some d)
    {name : Name} (listed : name ∈ R.api.dataSourceNames) :
    Sound R { s with dialog := some { d with cachedChannel := name } } := by
  have isDialog : ∀ d', some { d with cachedChannel := name } = some d' →
      d' = { d with cachedChannel := name } := fun d' equal => (Option.some.inj equal).symm
  refine ⟨sound.loaded, fun d' equal => ?_, fun d' equal => ?_, fun d' equal => ?_⟩
  · rw [isDialog d' equal]
    exact sound.below d isOpen
  · rw [isDialog d' equal]
    exact sound.cleared d isOpen
  · rw [isDialog d' equal]
    exact R.listed_fits name listed

include A in
theorem ended_sound {s : Session σ} (sound : Sound R s) {d : Dialog} (isOpen : s.dialog = some d)
    (ending : Ending) : Sound R { s with reader := T.ends ending d s.reader, dialog := none } := by
  have loaded : R.Loaded (T.ends ending d s.reader) := by
    rw [A.ends]
    split
    · exact (restore_cells sound.loaded (sound.below d isOpen) (sound.cached d isOpen)).1
    · exact sound.loaded
  exact sound_closed loaded rfl

include A in
/-- Every event, however dialogs end, keeps the session sound. -/
theorem step_sound (same : R.count = channelCount.toNat) (s : Session σ) (e : Event Ending)
    (sound : Sound R s) : Sound R (step R.api T channelCount s e) := by
  cases e with
  | tick env => exact ⟨sound.loaded, sound.below, sound.cleared, sound.cached⟩
  | openDialog channel =>
    simp only [step]
    split
    next allowed => exact opened_sound A sound (by rw [same]; exact allowed.2)
    next => exact sound
  | slide value =>
    simp only [step]
    cases isOpen : s.dialog with
    | none => exact sound
    | some d => exact slid_sound sound isOpen value
  | selectName name =>
    simp only [step]
    cases isOpen : s.dialog with
    | none => exact sound
    | some d =>
      dsimp only
      split
      next listed => exact selected_sound sound isOpen listed
      next => exact sound
  | endDialog ending =>
    simp only [step]
    cases isOpen : s.dialog with
    | none => exact sound
    | some d => exact ended_sound A sound isOpen ending

/-- A channel beside the open dialog's already follows. -/
theorem follows_beside {s : Session σ} (before : OthersFollow R s) {d : Dialog}
    (isOpen : s.dialog = some d) {other : Nat} (below : other < R.count)
    (apart : other ≠ d.channel) :
    Follows R s other := by
  refine before other below fun d' isOpen' => ?_
  rw [isOpen, Option.some.injEq] at isOpen'
  rw [← isOpen']
  exact apart

include A in
theorem opened_othersFollow {s : Session σ} (sound : Sound R s) (before : OthersFollow R s)
    (closed : s.dialog = none) {channel : Nat} (inside : channel < R.count) :
    OthersFollow R (T.opens channel s) := by
  obtain ⟨_, cells, name, _, dialog⟩ := A.opens channel s sound.loaded inside
  intro other below apart
  have different : other ≠ channel := apart ⟨channel, name⟩ dialog
  rw [follows_iff, cells, InSync, drop_other _ different]
  refine before other below fun d isOpen => ?_
  rw [closed] at isOpen
  cases isOpen

theorem slid_othersFollow {s : Session σ} (sound : Sound R s) (before : OthersFollow R s)
    {d : Dialog} (isOpen : s.dialog = some d) (value : UInt8) :
    OthersFollow R (onSlide R.api d.channel value s) := by
  have cells := (setCalibration_cells sound.loaded (sound.below d isOpen) value).2
  intro other below apart
  rw [follows_iff]
  show InSync R.bindings (R.bindingCells (R.api.setChannelCalibration d.channel value s.reader).1)
    other
  rw [cells]
  exact before other below apart

/-- Restoring writes the cached name to the cleared channel: it follows again. -/
theorem restored_inSync {s : Session σ} (sound : Sound R s) (before : OthersFollow R s) {d : Dialog}
    (isOpen : s.dialog = some d) {other : Nat} (below : other < R.count) :
    InSync R.bindings (R.bindingCells (restoreBinding R.api d s.reader)) other := by
  rw [(restore_cells sound.loaded (sound.below d isOpen) (sound.cached d isOpen)).2]
  by_cases here : other = d.channel
  · have settled : Settled R.bindings (R.bindingCells s.reader) d.channel true := by
      show (R.api.tables s.reader).callback d.channel = R.bindings.absent
      rw [R.absent_none]
      exact sound.cleared d isOpen
    rw [here]
    exact settled_write R.refused_absent settled d.cachedChannel
  · have follows := (follows_iff s other).mp (follows_beside before isOpen below here)
    exact write_inSync follows d.channel d.cachedChannel

theorem ended_othersFollow {s : Session σ} (sound : Sound R s) (before : OthersFollow R s)
    {d : Dialog} (isOpen : s.dialog = some d) {ending : Ending}
    (condition : EndsRestoring R A.restores s (.endDialog ending)) :
    OthersFollow R { s with reader := T.ends ending d s.reader, dialog := none } := by
  intro other below _
  show InSync R.bindings (R.bindingCells (T.ends ending d s.reader)) other
  rw [A.ends]
  split
  next => exact restored_inSync sound before isOpen below
  next leaving =>
    by_cases here : other = d.channel
    · have sourceless := condition d isOpen (by simpa using leaving)
      rw [here]
      exact (sound.cleared d isOpen).trans sourceless.symm
    · exact follows_beside before isOpen below here

/-- Under the condition an event keeps every channel but the dialog's following. -/
theorem step_othersFollow (same : R.count = channelCount.toNat) (s : Session σ) (e : Event Ending)
    (sound : Sound R s) (before : OthersFollow R s) (condition : EndsRestoring R A.restores s e) :
    OthersFollow R (step R.api T channelCount s e) := by
  cases e with
  | tick env => exact before
  | openDialog channel =>
    simp only [step]
    split
    next allowed =>
      have closed : s.dialog = none := Option.isNone_iff_eq_none.mp allowed.1
      exact opened_othersFollow A sound before closed (by rw [same]; exact allowed.2)
    next => exact before
  | slide value =>
    simp only [step]
    cases isOpen : s.dialog with
    | none => exact before
    | some d => exact slid_othersFollow sound before isOpen value
  | selectName name =>
    simp only [step]
    cases isOpen : s.dialog with
    | none => exact before
    | some d =>
      dsimp only
      split
      next =>
        intro other below apart
        exact follows_beside before isOpen below (apart { d with cachedChannel := name } rfl)
      next => exact before
  | endDialog ending =>
    simp only [step]
    cases isOpen : s.dialog with
    | none => exact before
    | some d => exact ended_othersFollow A sound before isOpen condition

/-- An event after which the property holds met the condition. -/
theorem endsRestoring_of_restored (s : Session σ) (e : Event Ending) (sound : Sound R s)
    (after : Restored R (step R.api T channelCount s e)) : EndsRestoring R A.restores s e := by
  cases e with
  | endDialog ending =>
    intro d isOpen leaving
    simp only [step, isOpen] at after
    have follows := after rfl d.channel (sound.below d isOpen)
    have reader : T.ends ending d s.reader = s.reader := by
      rw [A.ends, leaving]
      exact if_neg Bool.false_ne_true
    unfold Follows at follows
    dsimp only at follows
    rw [reader, sound.cleared d isOpen] at follows
    exact follows.symm
  | tick env => trivial
  | openDialog channel => trivial
  | slide value => trivial
  | selectName name => trivial

/-- Over runs: the arrays follow the store whenever no dialog is open exactly when each
ending meets the condition. -/
theorem restored_iff (same : R.count = channelCount.toNat) {reader : σ} (loaded : R.Loaded reader)
    (synced : ∀ channel < R.count, InSync R.bindings (R.bindingCells reader) channel)
    (events : List (Event Ending)) :
    Runs.AllReached (step R.api T channelCount) (Restored R) (running reader) events ↔
      Runs.EachStep (step R.api T channelCount) (EndsRestoring R A.restores)
        (running reader) events := by
  have sound : Sound R (running reader) := sound_closed loaded rfl
  have follow : OthersFollow R (running reader) := fun channel below _ => synced channel below
  refine Runs.allReached_iff_eachStep (P := OthersFollow R) (J := Sound R)
    (step_sound A same) ?_ (step_othersFollow A same) ?_ sound follow events
  · intro s others closed channel below
    refine others channel below fun d isOpen => ?_
    rw [closed] at isOpen
    cases isOpen
  · intro s e sound _ after
    exact endsRestoring_of_restored A s e sound after

end session

/-! ## The two toolkits -/

section toolkits
variable {σ B C : Type} (R : StoredReader σ B C)

theorem cacheAndClear_opens (channel : Nat) (s : Session σ) (loaded : R.Loaded s.reader)
    (below : channel < R.count) :
    R.Loaded (cacheAndClear R.api channel s).reader ∧
      R.bindingCells (cacheAndClear R.api channel s).reader =
        drop R.bindings (R.bindingCells s.reader) channel ∧
      ∃ name ∈ R.api.dataSourceNames,
        (cacheAndClear R.api channel s).dialog = some ⟨channel, name⟩ := by
  obtain ⟨loaded', cells⟩ := clear_cells loaded below
  exact ⟨loaded', cells, _, R.listed _, rfl⟩

/-- `OnCancel` restores, `OnOK` does not. -/
def mfcAdjusts : Adjusts R (mfc R.api) where
  restores := fun ending => ending == .onCancel
  opens := cacheAndClear_opens R
  ends := fun ending d reader => by cases ending <;> rfl

/-- `closeEvent` restores, `accept` and `reject` do not. The constructor's slider event
rewrites the calibration it reads, which leaves the bindings alone. -/
def qtAdjusts : Adjusts R (qt R.api) where
  restores := fun ending => ending == .closeEvent
  opens := by
    intro channel s loaded below
    have slid : R.Loaded (if (R.api.tables s.reader).calibration channel = 0 then s
          else onSlide R.api channel ((R.api.tables s.reader).calibration channel) s).reader ∧
        R.bindingCells (if (R.api.tables s.reader).calibration channel = 0 then s
          else onSlide R.api channel ((R.api.tables s.reader).calibration channel) s).reader =
            R.bindingCells s.reader := by
      split
      · exact ⟨loaded, rfl⟩
      · exact setCalibration_cells loaded below _
    obtain ⟨loaded', cells, opened⟩ := cacheAndClear_opens R channel _ slid.1 below
    refine ⟨loaded', ?_, opened⟩
    rw [slid.2] at cells
    exact cells
  ends := fun ending d reader => by cases ending <;> rfl

end toolkits

open Source.JsonLibrary Source.Registry Settings.LinuxStored Settings.WindowsStored
open LinuxRestart WindowsRestart

/-- MFC on the registry and Qt on config.json: from a successful start, the callbacks are
those of the stored names whenever no dialog is open exactly when every dialog ended by
`OnOK`, `accept` or `reject` was open on a channel whose stored name has no source. -/
theorem bindings_restored_iff (J : JsonC) (nvidiaGpuFound : Bool) (channelCount : UInt8)
    {file : ConfigFile} {linux : Source.LinuxReader.Linux}
    (linuxStarted : Source.LinuxReader.start J allDone channelCount.toNat file =
      .bound linux (.returned .success))
    {registry : RegistryKey} {envs : Nat → Source.WindowsReader.RegistryEnv}
    {windows : Source.WindowsReader.Windows}
    (succeeds : ∀ c < channelCount.toNat, Source.WindowsLoad.EnvSucceeds (envs c))
    (terminated : ∀ c < channelCount.toNat,
      Source.WindowsLoad.Terminated (registry (Source.WindowsReader.channelKey c)))
    (windowsStarted : Source.WindowsReader.start nvidiaGpuFound envs channelCount.toNat registry =
      .bound windows (.returned .success))
    (mfcEvents : List (Event MfcEnding)) (qtEvents : List (Event QtEnding)) :
    (Runs.AllReached (step (windowsApi nvidiaGpuFound)
      (mfc (windowsApi nvidiaGpuFound)) channelCount)
        (Restored (windowsStored nvidiaGpuFound channelCount.toNat)) (running windows) mfcEvents ↔
      Runs.EachStep (step (windowsApi nvidiaGpuFound)
        (mfc (windowsApi nvidiaGpuFound)) channelCount)
        (EndsRestoring (windowsStored nvidiaGpuFound channelCount.toNat)
          fun ending => ending == .onCancel) (running windows) mfcEvents) ∧
    (Runs.AllReached (step (linuxApi J) (qt (linuxApi J)) channelCount)
        (Restored (linuxStored J channelCount.toNat)) (running linux) qtEvents ↔
      Runs.EachStep (step (linuxApi J) (qt (linuxApi J)) channelCount)
        (EndsRestoring (linuxStored J channelCount.toNat)
          fun ending => ending == .closeEvent) (running linux) qtEvents) := by
  constructor
  · have entries := Source.WindowsLoad.start_loaded succeeds terminated windowsStarted
    obtain ⟨loaded, callbacks⟩ := WindowsStored.loaded_of_start entries
    exact restored_iff (mfcAdjusts (windowsStored nvidiaGpuFound channelCount.toNat)) rfl loaded
      callbacks mfcEvents
  · obtain ⟨loaded, synced⟩ := start_inSync linuxStarted
    exact restored_iff (qtAdjusts (linuxStored J channelCount.toNat)) rfl loaded
      (fun channel below => (synced channel below).1) qtEvents

/-- The registry after the first start of a one-channel panel. -/
def firstWindows : Source.WindowsReader.Windows where
  opened := true
  registry := regSetValueEx
    (regSetValueEx emptyKey (Source.WindowsReader.channelKey 0)
      (Source.WindowsReader.stored Source.Names.unallocated))
    (Source.WindowsReader.calibrationKey 0) (dword 0x80)
  tables := ⟨[none], [0x80]⟩

theorem firstWindows_started : Source.WindowsReader.start true quietEnv 1 emptyKey =
    .bound firstWindows (.returned .success) := rfl

/-- A channel is bound in one session and only looked at in the next. -/
def bindThenLeave {Ending : Type} (restoring leaving : Ending) : List (Event Ending) :=
  [.openDialog 0, .selectName Source.Names.calibration, .slide 200, .endDialog restoring,
    .openDialog 0, .endDialog leaving]

theorem bindings_restored_firstPanel :
    (Runs.AllReached (step (windowsApi true) (mfc (windowsApi true)) 1)
        (Restored (windowsStored true 1)) (running firstWindows)
        (bindThenLeave MfcEnding.onCancel .onCancel) ↔
      Runs.EachStep (step (windowsApi true) (mfc (windowsApi true)) 1)
        (EndsRestoring (windowsStored true 1) fun ending => ending == .onCancel)
        (running firstWindows) (bindThenLeave MfcEnding.onCancel .onCancel)) ∧
    (Runs.AllReached (step (linuxApi plain) (qt (linuxApi plain)) 1)
        (Restored (linuxStored plain 1)) (running firstStart)
        (bindThenLeave QtEnding.closeEvent .closeEvent) ↔
      Runs.EachStep (step (linuxApi plain) (qt (linuxApi plain)) 1)
        (EndsRestoring (linuxStored plain 1) fun ending => ending == .closeEvent)
        (running firstStart) (bindThenLeave QtEnding.closeEvent .closeEvent)) := by
  have linuxStarted : Source.LinuxReader.start plain allDone 1 .absent =
      .bound firstStart (.returned .success) := rfl
  have terminated : ∀ c < 1,
      Source.WindowsLoad.Terminated (emptyKey (Source.WindowsReader.channelKey c)) :=
    fun _ _ _ absent => by cases absent
  exact bindings_restored_iff plain true 1 linuxStarted (quietEnv_succeeds 1) terminated
    firstWindows_started _ _

/-- Left by `OnOK` or by `reject`, the second session loses the callback. -/
theorem left_dialog_loses_binding :
    ¬ Runs.AllReached (step (windowsApi true) (mfc (windowsApi true)) 1)
        (Restored (windowsStored true 1)) (running firstWindows)
        (bindThenLeave MfcEnding.onCancel .onOK) ∧
      ¬ Runs.AllReached (step (linuxApi plain) (qt (linuxApi plain)) 1)
        (Restored (linuxStored plain 1)) (running firstStart)
        (bindThenLeave QtEnding.closeEvent .reject) := by
  constructor
  · intro reached
    have lost : (none : Callback) = some .calibration := reached.last rfl 0 (by decide)
    cases lost
  · intro reached
    have lost : (none : Callback) = some .calibration := reached.last rfl 0 (by decide)
    cases lost

end PerformancePanel.Guarantees.BindingRestored

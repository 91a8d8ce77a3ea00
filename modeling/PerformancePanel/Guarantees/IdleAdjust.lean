import PerformancePanel.Guarantees.BindingRestored

/-!
# An adjust dialog opened and cancelled

A dialog in which nothing is touched caches the name that is reported for the channel,
clears the binding and, ended by `OnCancel` or `closeEvent`, sets the cached name again. The
callback and the calibration come back. The stored name is replaced by the reported one,
which is `Unallocated` whenever the stored name has no source here: it stays only if it is
the reported name already, or if the stored value refuses the write.
-/
set_option autoImplicit false

namespace PerformancePanel.Guarantees.IdleAdjust
open Source.Common Source.DataSources Source.Collector Source.DataSourceInterface
open Source.AdjustDialog Settings Library BindingRestored
open Library.WriteThrough (Cells Op drop write write_accepted write_refused write_other drop_other)

/-- The dialog is opened, some ticks pass, and it is ended. -/
def idleSession {Ending : Type} (channel : Nat) (ticks : List TickEnv) (ending : Ending) :
    List (Event Ending) :=
  .openDialog channel :: (ticks.map .tick ++ [.endDialog ending])

/-- The channel's callback, its calibration and its stored name are as before. The stored
calibration is left out: the Qt dialog may store its low byte. -/
structure Unchanged {σ B C : Type} (R : StoredReader σ B C) (nameOf : B → Option Name)
    (channel : Nat) (before after : σ) : Prop where
  callback : (R.api.tables after).callback channel = (R.api.tables before).callback channel
  calibration : (R.api.tables after).calibration channel = (R.api.tables before).calibration channel
  name : nameOf (R.storedBinding after channel) = nameOf (R.storedBinding before channel)

/-! ## Any toolkit on any stored reader -/

/-- The name reported for the callback has it as its source. -/
def LeadsBack {σ : Type} (api : DataSourceApi σ) (callback : Callback) : Prop :=
  api.nameStringToCallback (api.callbackToNameString callback) = callback

/-- What the proof needs of a reader: stored forms spell their names and are decoded by
them, and every callback a name can have is reported by a name that leads back to it. -/
structure Reports {σ B C : Type} (R : StoredReader σ B C) (nameOf : B → Option Name) : Prop where
  spells : ∀ name, R.fits name → nameOf (R.bindings.encode name) = some name
  decodes : ∀ name, R.fits name →
    R.bindings.decode (R.bindings.encode name) = R.api.nameStringToCallback name
  leadsBack : ∀ name, LeadsBack R.api (R.api.nameStringToCallback name)
  unallocated : LeadsBack R.api none
  calibrations : ∀ value, R.calibrations.decode (R.calibrations.encode value) = value

/-- What it needs of a toolkit: opening caches the reported name and leaves the calibration. -/
def OpensIdle {σ B C Ending : Type} (R : StoredReader σ B C) (T : Toolkit σ Ending) : Prop :=
  ∀ channel s, R.Loaded s.reader → channel < R.count →
    (T.opens channel s).dialog = some ⟨channel, R.api.getSourceBindingName s.reader channel⟩ ∧
      (R.api.tables (T.opens channel s).reader).calibration channel =
        (R.api.tables s.reader).calibration channel

/-- The channel's entry is the source of the name reported for it; a stored value that
refuses writes has none. -/
structure Reportable {σ B C : Type} (R : StoredReader σ B C) (cells : Cells Nat B Callback)
    (channel : Nat) : Prop where
  leadsBack : LeadsBack R.api (cells.cached channel)
  refused : R.bindings.accepts (cells.stored channel) = false → cells.cached channel = none

section session
variable {σ B C Ending : Type} {R : StoredReader σ B C} {nameOf : B → Option Name}
  (reports : Reports R nameOf) {T : Toolkit σ Ending} (A : Adjusts R T) {channelCount : UInt8}

include reports in
theorem write_reportable {cells : Cells Nat B Callback} {channel : Nat}
    (before : Reportable R cells channel) (other : Nat) {name : Name} (fits : R.fits name) :
    Reportable R (write R.bindings cells other name) channel := by
  by_cases here : channel = other
  · subst here
    cases accepted : R.bindings.accepts (cells.stored channel) with
    | true =>
      have both := write_accepted accepted name
      constructor
      · rw [both.2, reports.decodes name fits]
        exact reports.leadsBack name
      · intro refused
        rw [both.1] at refused
        rw [both.2]
        exact R.refused_none _ refused
    | false =>
      rw [write_refused accepted]
      exact before
  · have untouched := write_other (K := R.bindings) cells here name
    constructor
    · rw [untouched.2]
      exact before.leadsBack
    · rw [untouched.1, untouched.2]
      exact before.refused

include reports in
theorem drop_reportable {cells : Cells Nat B Callback} {channel : Nat}
    (before : Reportable R cells channel) (other : Nat) :
    Reportable R (drop R.bindings cells other) channel := by
  by_cases here : channel = other
  · subst here
    have absent := R.dropped_none cells channel
    constructor
    · rw [absent]
      exact reports.unallocated
    · intro _
      exact absent
  · have untouched := drop_other (K := R.bindings) cells here
    constructor
    · rw [untouched]
      exact before.leadsBack
    · rw [untouched]
      exact before.refused

include reports A in
/-- Every event, however dialogs end, leaves a sound session's channels reportable. -/
theorem step_reportable (same : R.count = channelCount.toNat) {s : Session σ} (sound : Sound R s)
    {channel : Nat} (before : Reportable R (R.bindingCells s.reader) channel) (e : Event Ending) :
    Reportable R (R.bindingCells (step R.api T channelCount s e).reader) channel := by
  cases e with
  | tick env => exact before
  | openDialog opened =>
    simp only [step]
    split
    next allowed =>
      have cells := (A.opens opened s sound.loaded (by rw [same]; exact allowed.2)).2.1
      rw [cells]
      exact drop_reportable reports before opened
    next => exact before
  | slide value =>
    simp only [step]
    cases isOpen : s.dialog with
    | none => exact before
    | some d =>
      have cells := (setCalibration_cells sound.loaded (sound.below d isOpen) value).2
      exact cells ▸ before
  | selectName name =>
    simp only [step]
    cases isOpen : s.dialog with
    | none => exact before
    | some d =>
      dsimp only
      split <;> exact before
  | endDialog ending =>
    simp only [step]
    cases isOpen : s.dialog with
    | none => exact before
    | some d =>
      dsimp only
      rw [A.ends]
      split
      · have fits := sound.cached d isOpen
        rw [(restore_cells sound.loaded (sound.below d isOpen) fits).2]
        exact write_reportable reports before d.channel fits
      · exact before

include reports A in
/-- So they are in every state a run reaches. -/
theorem run_reportable (same : R.count = channelCount.toNat) (s : Session σ) (sound : Sound R s)
    (channel : Nat) (before : Reportable R (R.bindingCells s.reader) channel)
    (events : List (Event Ending)) :
    Sound R (Runs.run (step R.api T channelCount) s events) ∧
      Reportable R (R.bindingCells (Runs.run (step R.api T channelCount) s events).reader)
        channel := by
  have keeps : ∀ s e, (Sound R s ∧ Reportable R (R.bindingCells s.reader) channel) →
      Sound R (step R.api T channelCount s e) ∧
        Reportable R (R.bindingCells (step R.api T channelCount s e).reader) channel :=
    fun s e before => ⟨step_sound A same s e before.1,
      step_reportable reports A same before.1 before.2 e⟩
  exact (Runs.allReached_of_invariant keeps ⟨sound, before⟩ events).last

theorem ticks_keep (api : DataSourceApi σ) (T : Toolkit σ Ending) (channelCount : UInt8)
    (s : Session σ) (ticks : List TickEnv) :
    (Runs.run (step api T channelCount) s (ticks.map .tick)).reader = s.reader ∧
      (Runs.run (step api T channelCount) s (ticks.map .tick)).dialog = s.dialog := by
  induction ticks generalizing s with
  | nil => exact ⟨rfl, rfl⟩
  | cons env ticks ih => exact ih (step api T channelCount s (.tick env))

include A in
/-- What such a session does: the reported name is set on the channel that opening cleared. -/
theorem idleSession_reader (same : R.count = channelCount.toNat) (opensIdle : OpensIdle R T)
    {s : Session σ} (sound : Sound R s) (closed : s.dialog = none) {channel : Nat}
    (below : channel < R.count) (ticks : List TickEnv) {ending : Ending}
    (restoring : A.restores ending = true) :
    (Runs.run (step R.api T channelCount) s (idleSession channel ticks ending)).reader =
      restoreBinding R.api ⟨channel, R.api.getSourceBindingName s.reader channel⟩
        (T.opens channel s).reader := by
  have allowed : s.dialog.isNone ∧ channel < channelCount.toNat :=
    ⟨Option.isNone_iff_eq_none.mpr closed, by rw [← same]; exact below⟩
  have opened : step R.api T channelCount s (.openDialog channel) = T.opens channel s :=
    if_pos allowed
  have dialog := (opensIdle channel s sound.loaded below).1
  have kept := ticks_keep R.api T channelCount (T.opens channel s) ticks
  rw [idleSession, Runs.run_cons, opened, Runs.run_append, Runs.run_cons, Runs.run_nil]
  simp only [step, kept.2, dialog, kept.1]
  rw [A.ends, restoring]
  exact if_pos rfl

include A in
/-- Its channel is dropped and then written with the reported name; the calibration stays. -/
theorem idleSession_cells (same : R.count = channelCount.toNat) (opensIdle : OpensIdle R T)
    {s : Session σ} (sound : Sound R s) (closed : s.dialog = none) {channel : Nat}
    (below : channel < R.count) (ticks : List TickEnv) {ending : Ending}
    (restoring : A.restores ending = true) {reader : σ}
    (left : (Runs.run (step R.api T channelCount) s (idleSession channel ticks ending)).reader =
      reader) :
    R.bindingCells reader =
      write R.bindings (drop R.bindings (R.bindingCells s.reader) channel) channel
        (R.api.getSourceBindingName s.reader channel) ∧
      (R.api.tables reader).calibration channel = (R.api.tables s.reader).calibration channel := by
  rw [idleSession_reader A same opensIdle sound closed below ticks restoring] at left
  subst left
  have fits : R.fits (R.api.getSourceBindingName s.reader channel) := R.listed_fits _ (R.listed _)
  obtain ⟨loaded, dropped, -⟩ := A.opens channel s sound.loaded below
  obtain ⟨-, bindings, calibrations⟩ := R.refines (T.opens channel s).reader
    (.setChannelSourceBinding channel (R.api.getSourceBindingName s.reader channel)) loaded
      ⟨below, fits⟩
  constructor
  · rw [← dropped]
    exact bindings
  · exact (congrArg (fun c => c.cached channel) calibrations).trans
      (opensIdle channel s sound.loaded below).2

include reports A in
/-- It changes nothing exactly when the stored value refuses the write or spells the
reported name. -/
theorem idleSession_iff (same : R.count = channelCount.toNat) (opensIdle : OpensIdle R T)
    {s : Session σ} (sound : Sound R s) (closed : s.dialog = none) {channel : Nat}
    (below : channel < R.count) (reportable : Reportable R (R.bindingCells s.reader) channel)
    (ticks : List TickEnv) {ending : Ending} (restoring : A.restores ending = true) :
    Unchanged R nameOf channel s.reader
        (Runs.run (step R.api T channelCount) s (idleSession channel ticks ending)).reader ↔
      (R.bindings.accepts (R.storedBinding s.reader channel) = true →
        nameOf (R.storedBinding s.reader channel) =
          some (R.api.getSourceBindingName s.reader channel)) := by
  have fits : R.fits (R.api.getSourceBindingName s.reader channel) := R.listed_fits _ (R.listed _)
  obtain ⟨cells, calibration⟩ :=
    idleSession_cells A same opensIdle sound closed below ticks restoring rfl
  have stored := congrArg (fun c => c.stored channel) cells
  have cached := congrArg (fun c => c.cached channel) cells
  cases accepted : R.bindings.accepts (R.storedBinding s.reader channel) with
  | true =>
    have both := @write_accepted Nat B Name Callback _ R.bindings
      (drop R.bindings (R.bindingCells s.reader) channel) channel accepted
      (R.api.getSourceBindingName s.reader channel)
    have name := (congrArg nameOf (stored.trans both.1)).trans (reports.spells _ fits)
    constructor
    · intro unchanged _
      exact unchanged.name.symm.trans name
    · intro spelled
      refine ⟨?_, calibration, name.trans (spelled rfl).symm⟩
      exact (cached.trans both.2).trans ((reports.decodes _ fits).trans reportable.leadsBack)
  | false =>
    have nothing := @write_refused Nat B Name Callback _ R.bindings
      (drop R.bindings (R.bindingCells s.reader) channel) channel accepted
      (R.api.getSourceBindingName s.reader channel)
    rw [nothing] at stored cached
    have absent := R.dropped_none (R.bindingCells s.reader) channel
    refine ⟨fun _ impossible => (Bool.false_ne_true impossible).elim, fun _ =>
      ⟨?_, calibration, ?_⟩⟩
    · exact (cached.trans absent).trans (reportable.refused accepted).symm
    · exact congrArg nameOf stored

end session

/-! ## The two toolkits -/

section toolkits
variable {σ B C : Type} (R : StoredReader σ B C)

theorem clear_calibration {reader : σ} (loaded : R.Loaded reader) {channel : Nat}
    (below : channel < R.count) :
    (R.api.tables (R.api.clearBinding channel reader).1).calibration channel =
      (R.api.tables reader).calibration channel :=
  congrArg (fun c => c.cached channel) (R.refines reader (.clearBinding channel) loaded below).2.2

theorem mfc_opensIdle : OpensIdle R (mfc R.api) := fun _ _ loaded below =>
  ⟨rfl, clear_calibration R loaded below⟩

/-- A calibration set to the value it has stays, whether the stored value takes it or not. -/
theorem sameCalibration_stays {nameOf : B → Option Name} (reports : Reports R nameOf) {reader : σ}
    (loaded : R.Loaded reader) {channel : Nat} (below : channel < R.count) :
    (R.api.tables (R.api.setChannelCalibration channel
        ((R.api.tables reader).calibration channel) reader).1).calibration channel =
      (R.api.tables reader).calibration channel := by
  have cells := (R.refines reader
    (.setChannelCalibration channel ((R.api.tables reader).calibration channel)) loaded below).2.2
  refine (congrArg (fun c => c.cached channel) cells).trans ?_
  show (write R.calibrations (R.calibrationCells reader) channel
    ((R.api.tables reader).calibration channel)).cached channel = _
  cases accepted : R.calibrations.accepts ((R.calibrationCells reader).stored channel) with
  | true => exact (write_accepted accepted _).2.trans (reports.calibrations _)
  | false =>
    rw [write_refused accepted]
    rfl

/-- The constructor's slider event writes the calibration the channel has. -/
theorem qt_opensIdle {nameOf : B → Option Name} (reports : Reports R nameOf) :
    OpensIdle R (qt R.api) := by
  intro channel s loaded below
  by_cases zero : (R.api.tables s.reader).calibration channel = 0
  · have opened : (qt R.api).opens channel s =
        previewUsage channel
          ((R.api.tables (cacheAndClear R.api channel s).reader).calibration channel)
          (cacheAndClear R.api channel s) := by
      show adjustDialog R.api channel s = _
      simp only [adjustDialog, if_pos zero]
    rw [opened]
    exact ⟨rfl, clear_calibration R loaded below⟩
  · have opened : (qt R.api).opens channel s = previewUsage channel
        ((R.api.tables (cacheAndClear R.api channel (onSlide R.api channel
          ((R.api.tables s.reader).calibration channel) s)).reader).calibration channel)
        (cacheAndClear R.api channel (onSlide R.api channel
          ((R.api.tables s.reader).calibration channel) s)) := by
      show adjustDialog R.api channel s = _
      simp only [adjustDialog, if_neg zero]
    obtain ⟨loaded', cells⟩ :=
      setCalibration_cells loaded below ((R.api.tables s.reader).calibration channel)
    have callback := congrArg (fun c => R.api.callbackToNameString (c.cached channel)) cells
    rw [opened]
    refine ⟨congrArg (fun name => some (Dialog.mk channel name)) callback, ?_⟩
    exact (clear_calibration R loaded' below).trans (sameCalibration_stays R reports loaded below)

end toolkits

/-! ## The two readers -/

open Source.JsonLibrary Source.Registry Settings.LinuxStored Settings.WindowsStored
open LinuxRestart (allDone firstStart start_inSync)
open WindowsRestart (emptyKey quietEnv quietEnv_succeeds)

/-- The name that a value of the key spells. -/
def spelledName (value : Option (List UInt8)) : Option Name :=
  value.map fun data => Name.ofBuffer (units data)

theorem windows_leadsBack (nvidiaGpuFound : Bool) (name : Name) :
    LeadsBack (windowsApi nvidiaGpuFound)
      (Source.WindowsReader.nameStringToCallback nvidiaGpuFound name) := by
  cases bound : Source.WindowsReader.nameStringToCallback nvidiaGpuFound name with
  | none => exact Source.WindowsLoad.nameStringToCallback_unallocated nvidiaGpuFound
  | some source =>
    refine (congrArg (Source.WindowsReader.nameStringToCallback nvidiaGpuFound) ?_).trans bound
    exact Source.WindowsLoad.name_of_source bound

theorem windows_reports (nvidiaGpuFound : Bool) (count : Nat) :
    Reports (windowsStored nvidiaGpuFound count) spelledName where
  spells := fun name fits => by
    show some (Name.ofBuffer (units (Source.WindowsReader.stored name))) = some name
    rw [Source.WindowsLoad.stored_whole fits.1 fits.2, ofBuffer_bytes]
  decodes := fun name fits => by
    show Source.WindowsReader.nameStringToCallback nvidiaGpuFound
      (Name.ofBuffer (units (Source.WindowsReader.stored name))) = _
    rw [Source.WindowsLoad.stored_whole fits.1 fits.2, ofBuffer_bytes]
    rfl
  leadsBack := windows_leadsBack nvidiaGpuFound
  unallocated := Source.WindowsLoad.nameStringToCallback_unallocated nvidiaGpuFound
  calibrations := fun _ => rfl

theorem linux_leadsBack (J : JsonC) (name : Name) :
    LeadsBack (linuxApi J) (Source.LinuxReader.nameStringToCallback name) := by
  unfold Source.LinuxReader.nameStringToCallback
  split <;> rfl

theorem linux_reports (J : JsonC) (count : Nat) : Reports (linuxStored J count) J.getString where
  spells := fun name _ => getString_string J name
  decodes := fun name _ => Source.LinuxLoad.decodeBinding_name J name
  leadsBack := linux_leadsBack J
  unallocated := rfl
  calibrations := Source.LinuxLoad.decodeCalibration_value J

/-- After a start a channel's callback is the source of some name. -/
theorem windows_start_reportable {nvidiaGpuFound : Bool}
    {envs : Nat → Source.WindowsReader.RegistryEnv}
    {registry : RegistryKey} {count : Nat} {windows : Source.WindowsReader.Windows}
    (taken : Source.WindowsLoad.TakenUpTo nvidiaGpuFound envs registry count count windows)
    {channel : Nat} (below : channel < count) :
    Reportable (windowsStored nvidiaGpuFound count)
      ((windowsStored nvidiaGpuFound count).bindingCells windows) channel := by
  refine ⟨?_, fun refused => by cases refused⟩
  show LeadsBack (windowsApi nvidiaGpuFound) (windows.tables.callback channel)
  rw [(taken.named channel below).2]
  exact windows_leadsBack nvidiaGpuFound _

theorem linux_start_reportable {J : JsonC} {count : Nat} {linux : Source.LinuxReader.Linux}
    (synced : (linuxStored J count).InSync linux) {channel : Nat} (below : channel < count) :
    Reportable (linuxStored J count) ((linuxStored J count).bindingCells linux) channel := by
  have decoded := (synced channel below).1
  constructor
  · rw [decoded]
    show LeadsBack (linuxApi J)
      ((J.getString (storedValue linux (.binding channel))).bind
        Source.LinuxReader.nameStringToCallback)
    cases J.getString (storedValue linux (.binding channel)) with
    | none => exact (linux_reports J count).unallocated
    | some name => exact linux_leadsBack J name
  · intro refused
    rw [decoded]
    exact (linuxStored J count).refused_none _ refused

/-- In every state with no dialog open that a run reaches from a start whose storage calls
succeed, on whatever was stored, with any ticks between: a session in which nothing is
touched, ended by `OnCancel` or `closeEvent`, leaves callback, calibration and stored name
as they were exactly when the stored name is the reported one, or on Linux the stored value
is not a string. -/
theorem idle_adjust_iff (J : JsonC) (nvidiaGpuFound : Bool) (channelCount : UInt8)
    {file : ConfigFile} {linux : Source.LinuxReader.Linux}
    (linuxStarted : Source.LinuxReader.start J allDone channelCount.toNat file =
      .bound linux (.returned .success))
    {registry : RegistryKey} {envs : Nat → Source.WindowsReader.RegistryEnv}
    {windows : Source.WindowsReader.Windows}
    (succeeds : ∀ c < channelCount.toNat, Source.WindowsLoad.EnvSucceeds (envs c))
    (windowsStarted : Source.WindowsReader.start nvidiaGpuFound envs channelCount.toNat registry =
      .bound windows (.returned .success))
    {channel : Nat} (below : channel < channelCount.toNat) (ticks : List TickEnv)
    (mfcEvents : List (Event MfcEnding)) (qtEvents : List (Event QtEnding)) :
    (∀ s, Runs.run (step (windowsApi nvidiaGpuFound) (mfc (windowsApi nvidiaGpuFound)) channelCount)
        (running windows) mfcEvents = s → s.dialog = none →
      (Unchanged (windowsStored nvidiaGpuFound channelCount.toNat) spelledName channel s.reader
          (Runs.run (step (windowsApi nvidiaGpuFound)
            (mfc (windowsApi nvidiaGpuFound)) channelCount) s
            (idleSession channel ticks .onCancel)).reader ↔
        spelledName (s.reader.registry (Source.WindowsReader.channelKey channel)) =
          some (Source.WindowsReader.getSourceBindingName s.reader channel))) ∧
    (∀ s, Runs.run (step (linuxApi J) (qt (linuxApi J)) channelCount) (running linux) qtEvents = s →
        s.dialog = none →
      (Unchanged (linuxStored J channelCount.toNat) J.getString channel s.reader
          (Runs.run (step (linuxApi J) (qt (linuxApi J)) channelCount) s
            (idleSession channel ticks .closeEvent)).reader ↔
        (isString (storedValue s.reader (.binding channel)) = true →
          J.getString (storedValue s.reader (.binding channel)) =
            some (Source.LinuxReader.getSourceBindingName s.reader channel)))) := by
  constructor
  · rintro s rfl closed
    have taken := Source.WindowsLoad.start_taken succeeds windowsStarted
    have reports := windows_reports nvidiaGpuFound channelCount.toNat
    have loaded : (windowsStored nvidiaGpuFound channelCount.toNat).Loaded windows :=
      ⟨taken.sized, taken.opened⟩
    have start : Sound (windowsStored nvidiaGpuFound channelCount.toNat) (running windows) :=
      sound_closed loaded rfl
    obtain ⟨sound, reportable⟩ := run_reportable reports
      (mfcAdjusts (windowsStored nvidiaGpuFound channelCount.toNat)) rfl (running windows)
        start channel
      (windows_start_reportable taken below) mfcEvents
    have restoring : (mfcAdjusts (windowsStored nvidiaGpuFound channelCount.toNat)).restores
        .onCancel = true := rfl
    have unchanged_iff :=
      idleSession_iff reports _ rfl (mfc_opensIdle _) sound closed below reportable ticks restoring
    exact unchanged_iff.trans ⟨fun spelled => spelled rfl, fun spelled _ => spelled⟩
  · rintro s rfl closed
    obtain ⟨loaded, synced⟩ := start_inSync linuxStarted
    have reports := linux_reports J channelCount.toNat
    have start : Sound (linuxStored J channelCount.toNat) (running linux) := sound_closed loaded rfl
    obtain ⟨sound, reportable⟩ := run_reportable reports
      (qtAdjusts (linuxStored J channelCount.toNat)) rfl (running linux) start channel
      (linux_start_reportable synced below) qtEvents
    have restoring : (qtAdjusts (linuxStored J channelCount.toNat)).restores .closeEvent = true :=
      rfl
    exact idleSession_iff reports _ rfl (qt_opensIdle _ reports) sound closed below reportable ticks
      restoring

/-- The first channel is bound to the calibration source in a dialog. -/
def bindFirst {Ending : Type} (restoring : Ending) : List (Event Ending) :=
  [.openDialog 0, .selectName Source.Names.calibration, .endDialog restoring]

theorem idle_adjust_calibration :
    Unchanged (windowsStored true 1) spelledName 0
        (Runs.run (step (windowsApi true) (mfc (windowsApi true)) 1) (running firstWindows)
          (bindFirst .onCancel)).reader
        (Runs.run (step (windowsApi true) (mfc (windowsApi true)) 1)
          (Runs.run (step (windowsApi true) (mfc (windowsApi true)) 1) (running firstWindows)
            (bindFirst .onCancel)) (idleSession 0 [] .onCancel)).reader ∧
      Unchanged (linuxStored plain 1) plain.getString 0
        (Runs.run (step (linuxApi plain) (qt (linuxApi plain)) 1) (running firstStart)
          (bindFirst .closeEvent)).reader
        (Runs.run (step (linuxApi plain) (qt (linuxApi plain)) 1)
          (Runs.run (step (linuxApi plain) (qt (linuxApi plain)) 1) (running firstStart)
            (bindFirst .closeEvent)) (idleSession 0 [] .closeEvent)).reader := by
  have linuxStarted : Source.LinuxReader.start plain allDone 1 .absent =
      .bound firstStart (.returned .success) := rfl
  have unchanged := idle_adjust_iff plain true 1 linuxStarted (quietEnv_succeeds 1)
    firstWindows_started Nat.zero_lt_one [] (bindFirst .onCancel) (bindFirst .closeEvent)
  exact ⟨(unchanged.1 _ rfl rfl).mpr rfl, (unchanged.2 _ rfl rfl).mpr fun _ => rfl⟩

/-- A stored name without a source here is overwritten by `Unallocated`: `CPU Temperature`
in the registry, `CPU Utility` in config.json. -/
theorem unavailable_name_overwritten :
    (∃ windows, Source.WindowsReader.start true quietEnv 1
        (regSetValueEx emptyKey (Source.WindowsReader.channelKey 0)
          (Source.WindowsReader.stored Source.Names.cpuTemperature)) =
          .bound windows (.returned .success) ∧
      ¬ Unchanged (windowsStored true 1) spelledName 0 windows
        (Runs.run (step (windowsApi true) (mfc (windowsApi true)) 1) (running windows)
          (idleSession 0 [] .onCancel)).reader) ∧
    ∃ linux, Source.LinuxReader.start plain allDone 1
        (.text (some (.object [("channel0", .string Source.Names.cpuUtility.units)]))) =
          .bound linux (.returned .success) ∧
      ¬ Unchanged (linuxStored plain 1) plain.getString 0 linux
        (Runs.run (step (linuxApi plain) (qt (linuxApi plain)) 1) (running linux)
          (idleSession 0 [] .closeEvent)).reader := by
  refine ⟨⟨_, rfl, fun unchanged => ?_⟩, _, rfl, fun unchanged => ?_⟩
  · have name : some Source.Names.unallocated = some Source.Names.cpuTemperature := unchanged.name
    exact absurd name (by decide)
  · have name : some Source.Names.unallocated = some Source.Names.cpuUtility := unchanged.name
    exact absurd name (by decide)

end PerformancePanel.Guarantees.IdleAdjust

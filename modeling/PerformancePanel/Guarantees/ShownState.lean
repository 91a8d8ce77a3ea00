import PerformancePanel.Guarantees.AdjustPreview
import PerformancePanel.Guarantees.VoltmeterProtection
import PerformancePanel.Source.ControlPanelDialog

/-!
# What the windows show is the state

Between two adjust dialogs every row of the list shows the reported binding and the
calibration of its channel; while one is open its text is the channel's calibration and
its combo box offers every advertised name and shows the cached one. Only the row of the
open dialog may lag behind, and no text outgrows its buffer.
-/
set_option autoImplicit false

namespace PerformancePanel.Guarantees.ShownState
open Source Source.Common Source.DataSources Source.Collector Source.DataSourceInterface
open Source.AdjustDialog hiding step
open Source.BindingNames Source.ControlPanelDialog Source.JsonLibrary Library
open AdjustPreview (ArrayEffects Opens Cleared)
open SetterAtomicity (linuxApiWith windowsApiWith)
open VoltmeterProtection (Unlit Live)
open BindingRestored (firstWindows firstWindows_started)
open LinuxRestart (allDone firstStart)
open Settings
open Source.LinuxReader (Linux)
open Source.WindowsReader (Windows RegistryEnv)

/-! ## Filled combo boxes -/

theorem linux_names_fit : ∀ name ∈ LinuxReader.dataSourceNames, fits 16 name = true := by decide

theorem windows_names_fit : ∀ name ∈ WindowsReader.dataSourceNames, fits 16 name = true := by decide

/-- A list whose names all have room is offered whole. -/
theorem fillCombo_whole {names : List Name} (nonempty : names ≠ []) (small : names.length < 2 ^ 31)
    {charCount : Nat} {buffer : List CharT} (room : charCount ≤ buffer.length) {fuel : Nat}
    (enough : names.length ≤ fuel) (fit : ∀ name ∈ names, fits charCount name = true) :
    ∃ final, fillCombo (iterateNames names) charCount fuel buffer = some final ∧
      final.combo = names := by
  obtain ⟨final, filled, -, ended⟩ := fillCombo_spec nonempty small room enough
  exact ⟨final, filled, ended.items.trans (List.takeWhile_eq_self_iff.mpr fit)⟩

theorem fits_more {charCount more : Nat} (le : charCount ≤ more) {name : Name}
    (room : fits charCount name = true) : fits more name = true := by
  have short := of_decide_eq_true room
  exact decide_eq_true (lt_of_lt_of_le short le)

/-- A list with a longest name of 15 characters has room from a capacity of 16 on. -/
theorem finalStatus_success_iff {names : List Name} (fit : ∀ name ∈ names, fits 16 name = true)
    (longest : ∃ name, name ∈ names ∧ name.units.length = 15) (charCount : Nat) :
    finalStatus names charCount = .success ↔ 16 ≤ charCount := by
  unfold finalStatus
  constructor
  · intro success
    obtain ⟨name, member, length⟩ := longest
    split at success
    next all =>
      have short := of_decide_eq_true (List.all_eq_true.mp all name member)
      omega
    next => cases success
  · intro wide
    rw [if_pos (List.all_eq_true.mpr fun name member => fits_more wide (fit name member))]

/-- Whatever the capacity and the contents of the buffer, the loop over either reader's list is left
after at most seven calls, inside its buffer, with the names before the first that has no room:
all seven from a capacity of 16 on, in an order of each reader's own. Behind the list and at
every negative index nothing is written. -/
theorem names_enumerated {charCount : Nat} {buffer : List CharT} (room : charCount ≤ buffer.length)
    {fuel : Nat} (enough : 7 ≤ fuel) :
    (∃ final, fillCombo LinuxReader.iterateBindingNames charCount fuel buffer = some final ∧
      final.buffer.length = buffer.length ∧
      final.combo = LinuxReader.dataSourceNames.takeWhile (fits charCount) ∧
      (final.status = .success ↔ 16 ≤ charCount)) ∧
    (∃ final, fillCombo WindowsReader.iterateBindingNames charCount fuel buffer = some final ∧
      final.buffer.length = buffer.length ∧
      final.combo = WindowsReader.dataSourceNames.takeWhile (fits charCount) ∧
      (final.status = .success ↔ 16 ≤ charCount)) ∧
    (16 ≤ charCount → LinuxReader.dataSourceNames.takeWhile (fits charCount) =
      LinuxReader.dataSourceNames ∧
      (LinuxReader.dataSourceNames.takeWhile (fits charCount)).Perm
        (WindowsReader.dataSourceNames.takeWhile (fits charCount))) ∧
    (∀ index : Int32, index < 0 ∨ 7 ≤ position index →
      LinuxReader.iterateBindingNames buffer charCount index = (buffer, .overflow) ∧
        WindowsReader.iterateBindingNames buffer charCount index = (buffer, .overflow)) := by
  have linuxStatus := finalStatus_success_iff linux_names_fit
    ⟨Names.gpuTemperature, by decide, by decide⟩ charCount
  have windowsStatus :=
    finalStatus_success_iff windows_names_fit ⟨Names.gpuTemperature, by decide, by decide⟩ charCount
  refine ⟨?_, ?_, fun wide => ?_, fun index outside => ?_⟩
  · obtain ⟨final, filled, sized, ended⟩ :=
      @fillCombo_spec LinuxReader.dataSourceNames
        (by decide) (by decide) charCount buffer room fuel enough
    exact ⟨final, filled, sized, ended.items, by rw [ended.status]; exact linuxStatus⟩
  · obtain ⟨final, filled, sized, ended⟩ :=
      @fillCombo_spec WindowsReader.dataSourceNames
        (by decide) (by decide) charCount buffer room fuel enough
    exact ⟨final, filled, sized, ended.items, by rw [ended.status]; exact windowsStatus⟩
  · have linux := List.takeWhile_eq_self_iff.mpr fun name member =>
      fits_more wide (linux_names_fit name member)
    have windows :=
      List.takeWhile_eq_self_iff.mpr fun name member =>
        fits_more wide (windows_names_fit name member)
    rw [linux, windows]
    exact ⟨rfl, by decide⟩
  · have behind : 7 ≤ position index := by
      rcases outside with negative | behind
      · exact le_trans (by decide) (position_negative negative)
      · exact behind
    exact ⟨iterateNames_behind buffer charCount behind, iterateNames_behind buffer charCount behind⟩

theorem names_enumerated_dialog :
    (fillCombo LinuxReader.iterateBindingNames 32 7 (List.replicate 32 0)).map (·.combo) =
        some LinuxReader.dataSourceNames ∧
      (LinuxReader.dataSourceNames.takeWhile (fits 32)).Perm
      (WindowsReader.dataSourceNames.takeWhile (fits 32)) := by
  have enumerated := @names_enumerated 32 (List.replicate 32 0) (by decide) 7 (by decide)
  obtain ⟨⟨final, filled, -, items, -⟩, -, wide, -⟩ := enumerated
  obtain ⟨whole, permuted⟩ := wide (by decide)
  refine ⟨?_, permuted⟩
  rw [filled, Option.map_some, items, whole]

/-! ## What is to be shown -/

section shown
variable {σ : Type} (tables : σ → Tables) (reported : Callback → Name) (names : List Name)

/-- The row that a state calls for. -/
def rowOf (text : UInt8 → String) (reader : σ) (i : Nat) : PanelRow :=
  ⟨decimal (i + 1), reported ((tables reader).callback i), text ((tables reader).calibration i)⟩

/-- What an open dialog is to show. -/
structure DialogShows (s : Session σ) (d : Dialog) (a : AdjustWidgets) : Prop where
  windowText : a.windowText = "Channel " ++ decimal d.channel ++ " settings"
  valueText : a.valueText = decimal ((tables s.reader).calibration d.channel).toNat
  channelCombo : a.channelCombo = names
  selected : a.selected = some d.cachedChannel
  listed : d.cachedChannel ∈ names

/-- The windows show the state; the row of an open dialog may lag behind. -/
structure Shows (summary : UInt8 → String) (text : UInt8 → String) (channelCount : UInt8)
    (w : Window σ) :
    Prop where
  overallDesc : w.overallDesc = summary channelCount
  rows : w.rows.length = channelCount.toNat
  panelIds : ∀ i row, w.rows[i]? = some row → row.panelId = decimal (i + 1)
  row : ∀ i < channelCount.toNat, (∀ d, w.session.dialog = some d → d.channel ≠ i) →
    w.rows[i]? = some (rowOf tables reported text w.session.reader i)
  adjust : w.session.dialog = none ↔ w.adjust = none
  dialog : ∀ d a, w.session.dialog = some d → w.adjust = some a →
    DialogShows tables names w.session d a

/-- The entries of the other channels are the same. -/
def Beside (channel : Nat) (reader reader' : σ) : Prop :=
  ∀ i ≠ channel, (tables reader').callback i = (tables reader).callback i ∧
    (tables reader').calibration i = (tables reader).calibration i

end shown

/-! ## What the calls leave alone -/

section beside
variable {σ : Type} {tables : σ → Tables} {api : DataSourceApi σ}
  (effects : ArrayEffects tables api)
include effects

theorem bind_beside (channel : Nat) (name : Name) (reader : σ) :
    Beside tables channel reader (api.setChannelSourceBinding channel name reader).1 := by
  intro i other
  rcases effects.binds reader channel name with same | ⟨callback, changed⟩
  · rw [same]
    exact ⟨rfl, rfl⟩
  · rw [changed]
    exact ⟨Tables.callback_setCallback_ne _ other _, rfl⟩

theorem clear_beside (channel : Nat) (reader : σ) :
    Beside tables channel reader (api.clearBinding channel reader).1 := by
  intro i other
  rw [effects.clears]
  exact ⟨Tables.callback_setCallback_ne _ other _, rfl⟩

theorem calibrate_beside (channel : Nat) (value : UInt8) (reader : σ) :
    Beside tables channel reader (api.setChannelCalibration channel value reader).1 := by
  intro i other
  rcases effects.calibrates reader channel value with same | changed
  · rw [same]
    exact ⟨rfl, rfl⟩
  · rw [changed]
    exact ⟨rfl, Tables.calibration_setCalibration_ne _ other _⟩

theorem ends_beside {Ending : Type} {T : Toolkit σ Ending} (opening : Opens tables T api)
    (ending : Ending)
    (d : Dialog) (reader : σ) : Beside tables d.channel reader (T.ends ending d reader) := by
  rcases opening.ends ending d reader with left | restored
  · rw [left]
    exact fun _ _ => ⟨rfl, rfl⟩
  · rw [restored]
    exact bind_beside effects d.channel d.cachedChannel reader

omit effects in
theorem Beside.trans {channel : Nat} {first second third : σ}
    (one : Beside tables channel first second)
    (two : Beside tables channel second third) : Beside tables channel first third :=
  fun i other => ⟨(two i other).1.trans (one i other).1, (two i other).2.trans (one i other).2⟩

theorem adjustDialog_beside (channel : Nat) (s : Session σ) :
    Beside tables channel s.reader (adjustDialog api channel s).reader := by
  by_cases zero : (api.tables s.reader).calibration channel = 0
  · simp only [adjustDialog, if_pos zero]
    exact clear_beside effects channel s.reader
  · simp only [adjustDialog, if_neg zero]
    exact (calibrate_beside effects channel _ s.reader).trans (clear_beside effects channel _)

end beside

/-! ## One event -/

/-- What the widgets of a program need of its reader. -/
structure Reports {σ ω : Type} (tables : σ → Tables) (reported : Callback → Name)
    (names : List Name) (api : ω → DataSourceApi σ) : Prop where
  effects : ∀ w, ArrayEffects tables (api w)
  offers : ∀ w, (api w).dataSourceNames = names
  reports : ∀ w, (api w).callbackToNameString = reported
  listed : ∀ callback, reported callback ∈ names

/-- What a toolkit's widgets draw. -/
structure Draws {σ ω Ending : Type} (tables : σ → Tables) (reported : Callback → Name)
    (names : List Name) (api : ω → DataSourceApi σ) (widgets : Widgets σ Ending) : Prop where
  opening : ∀ w, Opens tables (widgets.toolkit (api w)) (api w)
  beside : ∀ w channel s, Beside tables channel s.reader
    ((widgets.toolkit (api w)).opens channel s).reader
  caches : ∀ w channel s, ((widgets.toolkit (api w)).opens channel s).dialog =
    some ⟨channel, reported ((tables s.reader).callback channel)⟩
  opens : ∀ w buffer count channel s, count < 256 → channel < count →
    (tables s.reader).Sized count →
    let after := (widgets.toolkit (api w)).opens channel s
    ∃ adjust, widgets.opens (api w) buffer channel s after = some adjust ∧
      DialogShows tables names after ⟨channel, reported ((tables s.reader).callback channel)⟩ adjust
  slides : ∀ w count d value s adjust, d.channel < count → (tables s.reader).Sized count →
    DialogShows tables names s d adjust →
    let after := onSlide (api w) d.channel value s
    ∃ adjust', widgets.slides value ((tables after.reader).calibration d.channel) adjust =
      some adjust' ∧ DialogShows tables names after d adjust'
  takes : ∀ name ∈ names, widgets.takes name = some name
  refreshes : ∀ value, widgets.refreshBuffer (widgets.calibrationText value) =
    some (widgets.calibrationText value)

/-- The name a Qt dialog caches is the one reported before its own slider event. -/
theorem adjustDialog_caches {σ ω : Type} {tables : σ → Tables} {reported : Callback → Name}
    {names : List Name} {api : ω → DataSourceApi σ}
    (reader : Reports tables reported names api) (w : ω)
    (channel : Nat) (s : Session σ) : (adjustDialog (api w) channel s).dialog =
      some ⟨channel, reported ((tables s.reader).callback channel)⟩ := by
  have same := (reader.effects w).same
  have reports := reader.reports w
  subst same reports
  by_cases zero : ((api w).tables s.reader).calibration channel = 0
  · simp only [adjustDialog, if_pos zero]
    rfl
  · have kept : ((api w).tables
      (onSlide (api w) channel (((api w).tables s.reader).calibration channel)
        s).reader).callback channel = ((api w).tables s.reader).callback channel := by
      rcases (reader.effects w).calibrates s.reader channel
        (((api w).tables s.reader).calibration channel) with
        same | changed
      · exact congrArg (fun t : Tables => t.callback channel) same
      · exact (congrArg (fun t : Tables => t.callback channel) changed).trans rfl
    simp only [adjustDialog, if_neg zero, ← kept]
    rfl

section events
variable {σ ω Ending : Type} {tables : σ → Tables} {reported : Callback → Name} {names : List Name}
  {api : ω → DataSourceApi σ} (reader : Reports tables reported names api)
    {widgets : Widgets σ Ending}
  (draws : Draws tables reported names api widgets) {channelCount : UInt8} {w : Window σ}
  (cleared : Cleared tables channelCount.toNat w.session)
  (shows : Shows tables reported names widgets.summary widgets.calibrationText channelCount w)

/-- The rows of the other channels stay right while one channel changes. -/
theorem rows_beside {text : UInt8 → String} {channel i : Nat} {before after : σ}
    (other : i ≠ channel) (beside : Beside tables channel before after) :
    rowOf tables reported text after i = rowOf tables reported text before i := by
  obtain ⟨callback, calibration⟩ := beside i other
  rw [rowOf, rowOf, callback, calibration]

include draws shows in
/-- The row written after a dialog is the one its channel calls for. -/
theorem refreshRow_shows {storage : ω} (same : (api storage).tables = tables)
    (reports : (api storage).callbackToNameString = reported) {session : Session σ} {channel : Nat}
    (below : channel < channelCount.toNat) (closed : session.dialog = none)
    (rows : ∀ i < channelCount.toNat, i ≠ channel →
      w.rows[i]? = some (rowOf tables reported widgets.calibrationText session.reader i)) :
    ∃ w', refreshRow widgets (api storage) { w with session := session, adjust := none } channel =
      some w' ∧
      w'.session = session ∧
      Shows tables reported names widgets.summary widgets.calibrationText channelCount w' := by
  subst same reports
  have inside : channel < w.rows.length := by rw [shows.rows]; exact below
  have here := List.getElem?_eq_getElem inside
  let text := widgets.calibrationText (((api storage).tables session.reader).calibration channel)
  let name := (api storage).getSourceBindingName session.reader channel
  refine ⟨⟨session, w.overallDesc, w.rows.modify channel fun row =>
    ⟨row.panelId, name, text⟩, none⟩, ?_, rfl, ⟨shows.overallDesc, ?_, ?_, ?_, ?_, ?_⟩⟩
  · rw [refreshRow, draws.refreshes]
    rfl
  · rw [List.length_modify, shows.rows]
  · intro i row found
    rw [List.getElem?_modify] at found
    obtain ⟨old, before, rfl⟩ := Option.map_eq_some_iff.mp found
    have kept := shows.panelIds i old before
    split
    next => exact kept
    next => exact kept
  · intro i small _
    rw [List.getElem?_modify]
    by_cases it : channel = i
    · subst it
      rw [here, rowOf, ← shows.panelIds channel _ here]
      simp only [if_true, Option.map_eq_map, Option.map_some]
      rfl
    · rw [rows i small (Ne.symm it)]
      simp [it]
  · simp [closed]
  · intro d a isOpen
    rw [closed] at isOpen
    cases isOpen

include shows in
/-- Windows with a dialog on a channel whose entries alone have changed. -/
theorem shows_during {session : Session σ} {d : Dialog}
    (before : ∀ d', w.session.dialog = some d' → d'.channel = d.channel)
    (beside : Beside tables d.channel w.session.reader session.reader)
    (isOpen : session.dialog = some d)
    {a : AdjustWidgets} (dialog : DialogShows tables names session d a) :
    Shows tables reported names widgets.summary widgets.calibrationText channelCount
      { w with session := session, adjust := some a } where
  overallDesc := shows.overallDesc
  rows := shows.rows
  panelIds := shows.panelIds
  row := fun i small notOpen => by
    have other : i ≠ d.channel := Ne.symm (notOpen d isOpen)
    have unchanged := shows.row i small fun d' here => by
      rw [before d' here]
      exact Ne.symm other
    exact unchanged.trans (congrArg some (rows_beside other beside).symm)
  adjust := by simp [isOpen]
  dialog := fun d' a' here there => by
    rw [isOpen, Option.some.injEq] at here
    rw [← here, ← Option.some.inj there]
    exact dialog

include shows in
/-- A tick changes neither the entries nor the dialog. -/
theorem tick_shows (storage : ω) (env : TickEnv) :
    Shows tables reported names widgets.summary widgets.calibrationText channelCount
      { w with
        session := AdjustPreview.step api widgets.toolkit channelCount w.session
          (storage, .tick env) } where
  overallDesc := shows.overallDesc
  rows := shows.rows
  panelIds := shows.panelIds
  row := shows.row
  adjust := shows.adjust
  dialog := fun d a isOpen found =>
    have before := shows.dialog d a isOpen found
    ⟨before.windowText, before.valueText, before.channelCombo, before.selected, before.listed⟩

include draws cleared shows in
theorem openDialog_shows (storage : ω) (buffer : NameBuffer) (channel : Nat) :
    ∃ w', step api widgets channelCount w (storage, buffer, .openDialog channel) = some w' ∧
      w'.session = AdjustPreview.step api widgets.toolkit channelCount w.session
        (storage, .openDialog channel) ∧
      Shows tables reported names widgets.summary widgets.calibrationText channelCount w' := by
  have small := channelCount.toNat_lt
  have closed : w.adjust.isNone = true ↔ w.session.dialog.isNone = true := by
    rw [Option.isNone_iff_eq_none, Option.isNone_iff_eq_none, shows.adjust]
  simp only [step, AdjustPreview.step, AdjustDialog.step, shows.rows, closed]
  split
  next allowed =>
    obtain ⟨noDialog, below⟩ := allowed
    obtain ⟨adjust, opened, dialog⟩ :=
      draws.opens storage buffer channelCount.toNat channel w.session (by omega) below cleared.sized
    refine ⟨_, by rw [opened]; rfl, rfl, ?_⟩
    have closed := Option.isNone_iff_eq_none.mp noDialog
    exact shows_during shows (fun d' here => by rw [closed] at here; cases here)
      (draws.beside storage channel w.session) (draws.caches storage channel w.session) dialog
  next => exact ⟨w, rfl, rfl, shows⟩

include shows in
/-- A dialog is open with its widgets, or neither is. -/
theorem dialog_cases : (w.session.dialog = none ∧ w.adjust = none) ∨
    ∃ d a, w.session.dialog = some d ∧ w.adjust = some a ∧
      DialogShows tables names w.session d a := by
  cases here : w.session.dialog with
  | none => exact Or.inl ⟨rfl, shows.adjust.mp here⟩
  | some d =>
    cases there : w.adjust with
    | none =>
      rw [shows.adjust.mpr there] at here
      cases here
    | some a => exact Or.inr ⟨d, a, rfl, rfl, shows.dialog d a here there⟩

include reader draws cleared shows in
theorem slide_shows (storage : ω) (buffer : NameBuffer) (value : UInt8) :
    ∃ w', step api widgets channelCount w (storage, buffer, .slide value) = some w' ∧
      w'.session = AdjustPreview.step api widgets.toolkit channelCount w.session
        (storage, .slide value) ∧
      Shows tables reported names widgets.summary widgets.calibrationText channelCount w' := by
  rcases dialog_cases shows with ⟨closed, -⟩ | ⟨d, a, isOpen, found, dialog⟩
  · refine ⟨w, ?_, ?_, shows⟩
    · simp [step, closed]
    · simp [AdjustPreview.step, AdjustDialog.step, closed]
  · obtain ⟨a', slid, dialog'⟩ := draws.slides storage channelCount.toNat d value w.session a
      (cleared.dialog d isOpen).1 cleared.sized dialog
    have same := (reader.effects storage).same
    refine ⟨{ w with
        session := onSlide (api storage) d.channel value w.session
        adjust := some a' }, ?_, ?_, ?_⟩
    · simp only [step, isOpen, found, same]
      rw [slid]
      rfl
    · simp only [AdjustPreview.step, AdjustDialog.step, isOpen]
    · have stillOpen : (onSlide (api storage) d.channel value w.session).dialog = some d := isOpen
      have beside : Beside tables d.channel w.session.reader
          (onSlide (api storage) d.channel value w.session).reader :=
        calibrate_beside (reader.effects storage) d.channel value w.session.reader
      refine shows_during shows (fun d' here => ?_) beside stillOpen dialog'
      rw [isOpen, Option.some.injEq] at here
      rw [here]

include reader draws shows in
theorem selectName_shows (storage : ω) (buffer : NameBuffer) (name : Name) :
    ∃ w', step api widgets channelCount w (storage, buffer, .selectName name) = some w' ∧
      w'.session = AdjustPreview.step api widgets.toolkit channelCount w.session
        (storage, .selectName name) ∧
      Shows tables reported names widgets.summary widgets.calibrationText channelCount w' := by
  rcases dialog_cases shows with ⟨closed, -⟩ | ⟨d, a, isOpen, found, dialog⟩
  · refine ⟨w, ?_, ?_, shows⟩
    · simp [step, closed]
    · simp [AdjustPreview.step, AdjustDialog.step, closed]
  · simp only [step, AdjustPreview.step, AdjustDialog.step, isOpen, found, dialog.channelCombo,
      reader.offers]
    split
    next offered =>
      rw [draws.takes name offered]
      let cached : Dialog := { d with cachedChannel := name }
      let session : Session σ := { w.session with dialog := some cached }
      have dialog' : DialogShows tables names session cached
          { a with channelCombo := names, selected := some name } :=
        ⟨dialog.windowText, dialog.valueText, rfl, rfl, offered⟩
      have stillOpen : session.dialog = some cached := rfl
      have beside : Beside tables cached.channel w.session.reader session.reader :=
        fun _ _ => ⟨rfl, rfl⟩
      refine ⟨_, rfl, rfl, shows_during shows (fun d' here => ?_) beside stillOpen dialog'⟩
      rw [isOpen, Option.some.injEq] at here
      rw [← here]
    next => exact ⟨w, rfl, rfl, shows⟩

include reader draws cleared shows in
theorem endDialog_shows (storage : ω) (buffer : NameBuffer) (ending : Ending) :
    ∃ w', step api widgets channelCount w (storage, buffer, .endDialog ending) = some w' ∧
      w'.session = AdjustPreview.step api widgets.toolkit channelCount w.session
        (storage, .endDialog ending) ∧
      Shows tables reported names widgets.summary widgets.calibrationText channelCount w' := by
  rcases dialog_cases shows with ⟨closed, -⟩ | ⟨d, a, isOpen, found, dialog⟩
  · refine ⟨w, ?_, ?_, shows⟩
    · simp [step, closed]
    · simp [AdjustPreview.step, AdjustDialog.step, closed]
  · have beside := ends_beside (reader.effects storage) (draws.opening storage) ending d
      w.session.reader
    have rows : ∀ i < channelCount.toNat, i ≠ d.channel → w.rows[i]? = some (rowOf tables reported
        widgets.calibrationText ((widgets.toolkit (api storage)).ends ending d w.session.reader)
          i) := by
      intro i small other
      have unchanged := shows.row i small fun d' here => by
        rw [isOpen, Option.some.injEq] at here
        rw [← here]
        exact Ne.symm other
      exact unchanged.trans (congrArg some (rows_beside other beside).symm)
    simp only [step, AdjustPreview.step, AdjustDialog.step, isOpen]
    exact refreshRow_shows draws shows (reader.effects storage).same (reader.reports storage)
      (cleared.dialog d isOpen).1 rfl rows

include reader draws cleared shows in
/-- Every event has room for its texts, does to the program what it does without windows, and
leaves the windows showing the state. -/
theorem step_shows (e : ω × NameBuffer × Event Ending) :
    ∃ w', step api widgets channelCount w e = some w' ∧
      w'.session = AdjustPreview.step api widgets.toolkit channelCount w.session (e.1, e.2.2) ∧
      Shows tables reported names widgets.summary widgets.calibrationText channelCount w' := by
  obtain ⟨storage, buffer, e⟩ := e
  cases e with
  | tick env => exact ⟨_, rfl, rfl, tick_shows shows storage env⟩
  | openDialog channel => exact openDialog_shows draws cleared shows storage buffer channel
  | slide value => exact slide_shows reader draws cleared shows storage buffer value
  | selectName name => exact selectName_shows reader draws shows storage buffer name
  | endDialog ending => exact endDialog_shows reader draws cleared shows storage buffer ending

include reader draws cleared shows in
/-- So does every run. -/
theorem run_shows (events : List (ω × NameBuffer × Event Ending)) :
    ∃ w', run api widgets channelCount w events = some w' ∧
      w'.session = Runs.run (AdjustPreview.step api widgets.toolkit channelCount) w.session
        (events.map fun e => (e.1, e.2.2)) ∧
      Cleared tables channelCount.toNat w'.session ∧
      Shows tables reported names widgets.summary widgets.calibrationText channelCount w' := by
  induction events generalizing w with
  | nil => exact ⟨w, rfl, rfl, cleared, shows⟩
  | cons e events ih =>
    obtain ⟨next, stepped, session, shows'⟩ := step_shows reader draws cleared shows e
    have cleared' : Cleared tables channelCount.toNat next.session := by
      rw [session]
      exact AdjustPreview.step_cleared (reader.effects e.1) (draws.opening e.1) cleared e.2.2
    obtain ⟨w', ran, sessions, final⟩ := ih cleared' shows'
    refine ⟨w', ?_, ?_, final⟩
    · rw [run, List.foldlM_cons, stepped]
      exact ran
    · rw [sessions, session]
      rfl

end events

/-! ## The two programs -/

theorem windows_reports (nvidiaGpuFound : Bool) : Reports Windows.tables
    WindowsReader.callbackToNameString WindowsReader.dataSourceNames
      (windowsApiWith nvidiaGpuFound) where
  effects := AdjustPreview.windows_effects nvidiaGpuFound
  offers := fun _ => rfl
  reports := fun _ => rfl
  listed := WindowsStored.callbackToNameString_listed

theorem linux_reports (J : JsonC) : Reports Linux.tables
    LinuxReader.callbackToNameString LinuxReader.dataSourceNames (linuxApiWith J) where
  effects := AdjustPreview.linux_effects J
  offers := fun _ => rfl
  reports := fun _ => rfl
  listed := LinuxStored.callbackToNameString_listed

theorem tcscpy_some {charCount : Nat} {name : Name} (room : fits charCount name = true) :
    tcscpy charCount name = some name := if_pos room

/-- A name that has room is not cut. -/
theorem mfcTakes_listed : ∀ name ∈ WindowsReader.dataSourceNames, mfcTakes name = some name := by
  intro name listed
  have short := of_decide_eq_true (windows_names_fit name listed)
  have uncut : name.units.take (maxChannelNameLength - 1) = name.units :=
    List.take_of_length_le (le_of_lt (lt_of_lt_of_le short (by decide)))
  rw [mfcTakes, uncut, Name.ofBuffer_units]

/-- No listed name begins another, so the box selects the one it is given. -/
theorem selectString_listed : ∀ name ∈ WindowsReader.dataSourceNames,
    selectString WindowsReader.dataSourceNames name = some name := by decide

theorem windowText_length {channel : Nat} (small : channel < 256) :
    ("Channel " ++ decimal channel ++ " settings").length < 32 := by
  have digits := decimal_length (show channel < 1000 by omega)
  have words : "Channel ".length = 8 ∧ " settings".length = 9 := by decide
  simp only [String.length_append]
  omega

theorem byte_length (value : UInt8) : (decimal value.toNat).length ≤ 3 := by
  have small := value.toNat_lt
  exact decimal_length (by omega)

/-- A box is filled with the whole list through a buffer of 32 characters. -/
theorem filled_whole (names : List Name) (nonempty : names ≠ []) {fuel : Nat}
    (enough : names.length ≤ fuel)
    (small : names.length < 2 ^ 31) (fit : ∀ name ∈ names, fits 16 name = true)
    (buffer : NameBuffer) :
    ∃ final, fillCombo (iterateNames names) 32 fuel buffer = some final ∧ final.combo = names :=
  fillCombo_whole nonempty small (le_of_eq buffer.2.symm) enough
    fun name member => fits_more (by decide) (fit name member)

/-- The MFC dialog is built with room for its texts. -/
theorem mfcOpens_shows (nvidiaGpuFound succeeds : Bool) {fuel : Nat} (enough : 7 ≤ fuel)
    (buffer : NameBuffer) {channel : Nat} (small : channel < 256) (s : Session Windows) :
    let api := windowsApiWith nvidiaGpuFound succeeds
    let after := onInitDialog api channel s
    ∃ adjust, mfcOpens WindowsReader.iterateBindingNames fuel api buffer channel s after =
      some adjust ∧ DialogShows Windows.tables WindowsReader.dataSourceNames after
        ⟨channel, WindowsReader.callbackToNameString (s.reader.tables.callback channel)⟩
          adjust := by
  intro api after
  have listed := WindowsStored.callbackToNameString_listed (s.reader.tables.callback channel)
  have copied : tcscpy maxChannelNameLength (api.getSourceBindingName s.reader channel) = some _ :=
    tcscpy_some (fits_more (by decide) (windows_names_fit _ listed))
  have digits := byte_length (s.reader.tables.calibration channel)
  have value : stprintf maxChannelNameLength
      (decimal ((api.tables s.reader).calibration channel).toNat) = some _ :=
    stprintf_some (lt_of_le_of_lt digits (by decide))
  have title : stprintf maxChannelNameLength ("Channel " ++ decimal channel ++ " settings") =
    some _ :=
    stprintf_some (windowText_length small)
  obtain ⟨final, filled, items⟩ := filled_whole WindowsReader.dataSourceNames (by decide)
    enough (by decide) windows_names_fit buffer
  have box : fillCombo WindowsReader.iterateBindingNames 32 fuel buffer.1 = some final := filled
  refine ⟨⟨"Channel " ++ decimal channel ++ " settings",
    decimal (s.reader.tables.calibration channel).toNat, after.reader.tables.calibration channel,
      final.combo,
    selectString final.combo (api.getSourceBindingName s.reader channel)⟩, ?_, ?_⟩
  · rw [mfcOpens, copied, value, title, box]
    rfl
  · exact ⟨rfl, rfl, items, by rw [items]; exact selectString_listed _ listed, listed⟩

/-- The Qt dialog is built with room for its texts. -/
theorem qtOpens_shows (J : JsonC) (save : SaveOutcome) {fuel : Nat} (enough : 7 ≤ fuel)
    (buffer : NameBuffer) (channel : Nat) (s : Session Linux) :
    let api := linuxApiWith J save
    let after := adjustDialog api channel s
    ∃ adjust, qtOpens LinuxReader.iterateBindingNames fuel api buffer channel s after =
      some adjust ∧ DialogShows Linux.tables LinuxReader.dataSourceNames after
        ⟨channel, LinuxReader.callbackToNameString (s.reader.tables.callback channel)⟩ adjust := by
  intro api after
  have listed := LinuxStored.callbackToNameString_listed (s.reader.tables.callback channel)
  have copied : tcscpy maxChannelNameLength (api.getSourceBindingName s.reader channel) = some _ :=
    tcscpy_some (fits_more (by decide) (linux_names_fit _ listed))
  obtain ⟨final, filled, items⟩ := filled_whole LinuxReader.dataSourceNames (by decide)
    enough (by decide) linux_names_fit buffer
  have box : fillCombo LinuxReader.iterateBindingNames maxChannelNameLength fuel buffer.1 =
    some final := filled
  refine ⟨⟨"Channel " ++ decimal channel ++ " settings",
    decimal (after.reader.tables.calibration channel).toNat, s.reader.tables.calibration channel,
      final.combo,
    setCurrentText final.combo (api.getSourceBindingName s.reader channel)⟩, ?_, ?_⟩
  · rw [qtOpens, copied, box]
    rfl
  · exact ⟨rfl, rfl, items, by rw [items]; exact if_pos listed, listed⟩

theorem calibrationText_room (value : UInt8) :
    stprintf 32 (calibrationText value) = some (calibrationText value) := by
  have short : (calibrationText value).length < 32 :=
    lt_of_le_of_lt (calibrationText_length value) (by decide)
  exact stprintf_some short

theorem mfc_draws (nvidiaGpuFound : Bool) {fuel : Nat} (enough : 7 ≤ fuel) :
    Draws Windows.tables WindowsReader.callbackToNameString WindowsReader.dataSourceNames
      (windowsApiWith nvidiaGpuFound) (mfcWidgets WindowsReader.iterateBindingNames fuel) where
  opening := AdjustPreview.mfc_opensWindows nvidiaGpuFound
  beside := fun succeeds channel s =>
    clear_beside (AdjustPreview.windows_effects nvidiaGpuFound succeeds) channel s.reader
  caches := fun _ _ _ => rfl
  opens := fun succeeds buffer count channel s small below _ =>
    mfcOpens_shows nvidiaGpuFound succeeds enough buffer (by omega) s
  slides := by
    intro succeeds count d value s adjust below sized dialog after
    -- the registry reader sets the array before it tries the registry
    have set : after.reader.tables.calibration d.channel = value := by
      have changed : after.reader.tables = s.reader.tables.setCalibration d.channel value :=
        WindowsReader.setValue_tables _ _ _ _
      rw [changed, Tables.calibration_setCalibration_self sized below]
    have digits := byte_length value
    have text : stprintf 8 (decimal value.toNat) = some _ :=
      stprintf_some (lt_of_le_of_lt digits (by decide))
    refine ⟨{ adjust with valueText := decimal value.toNat, valueSlider := value }, ?_, ?_⟩
    · show mfcSlides value (after.reader.tables.calibration d.channel) adjust = _
      rw [mfcSlides, text]
      rfl
    · exact ⟨dialog.windowText, by rw [set], dialog.channelCombo, dialog.selected, dialog.listed⟩
  takes := mfcTakes_listed
  refreshes := by
    intro value
    dsimp only [mfcWidgets]
    exact calibrationText_room value

theorem qt_draws (J : JsonC) {fuel : Nat} (enough : 7 ≤ fuel) :
    Draws Linux.tables LinuxReader.callbackToNameString LinuxReader.dataSourceNames
      (linuxApiWith J) (qtWidgets LinuxReader.iterateBindingNames fuel) where
  opening := AdjustPreview.qt_opensLinux J
  beside := fun save channel s => adjustDialog_beside (AdjustPreview.linux_effects J save) channel s
  caches := fun save channel s => adjustDialog_caches (linux_reports J) save channel s
  opens := fun save buffer _ channel s _ _ _ => qtOpens_shows J save enough buffer channel s
  slides := fun _ _ _ _ _ _ _ _ dialog =>
    ⟨_, rfl, ⟨dialog.windowText, rfl, dialog.channelCombo, dialog.selected, dialog.listed⟩⟩
  takes := fun name listed => tcscpy_some (fits_more (by decide) (linux_names_fit name listed))
  refreshes := fun _ => rfl

/-! ## The list when it is built -/

theorem mapM_some {α β : Type} {f : α → Option β} {g : α → β} {items : List α}
    (every : ∀ a ∈ items, f a = some (g a)) : items.mapM f = some (items.map g) := by
  induction items with
  | nil => rfl
  | cons a items ih =>
    rw [List.mapM_cons, every a List.mem_cons_self, ih fun b member =>
      every b (List.mem_cons_of_mem a member)]
    rfl

/-- A window is built with room for its texts and shows the state. -/
theorem build_shows {σ ω Ending : Type} {tables : σ → Tables} {reported : Callback → Name}
    {names : List Name}
    {api : ω → DataSourceApi σ} (reader : Reports tables reported names api)
    {widgets : Widgets σ Ending} {channelCount : UInt8} (storage : ω) (s : σ)
    (room : ∀ text : String, text.length < 100 → widgets.buildBuffer text = some text)
    (summary : (widgets.summary channelCount).length < 100)
    (texts : ∀ value, (widgets.calibrationText value).length < 100) :
    ∃ w, build widgets channelCount (api storage) s = some w ∧ w.session = running s ∧
      Shows tables reported names widgets.summary widgets.calibrationText channelCount w := by
  have same := (reader.effects storage).same
  have reports := reader.reports storage
  subst same reports
  have small := channelCount.toNat_lt
  have row : ∀ i ∈ List.range channelCount.toNat, panelRow widgets (api storage) s i =
      some (rowOf (api storage).tables (api storage).callbackToNameString widgets.calibrationText s
        i) := by
    intro i inside
    have below := List.mem_range.mp inside
    have digits := decimal_length (show i + 1 < 1000 by omega)
    rw [panelRow, room _ (lt_of_le_of_lt digits (by decide)), room _ (texts _)]
    rfl
  refine ⟨⟨running s, widgets.summary channelCount, (List.range channelCount.toNat).map
    (rowOf (api storage).tables (api storage).callbackToNameString widgets.calibrationText s),
      none⟩, ?_, rfl, ?_⟩
  · rw [build, room _ summary, mapM_some row]
    rfl
  · refine ⟨rfl, by simp, fun i row found => ?_, fun i below _ => by simp [below, running],
      by simp [running], ?_⟩
    · rw [List.getElem?_map] at found
      obtain ⟨j, at_j, rfl⟩ := Option.map_eq_some_iff.mp found
      obtain ⟨_, value⟩ := List.getElem?_eq_some_iff.mp at_j
      rw [← value, List.getElem_range]
      rfl
    · intro d a isOpen
      cases isOpen

theorem summary_length (first last : String) (letters : first.length + last.length < 97)
    (count : UInt8) :
    (first ++ decimal count.toNat ++ last).length < 100 := by
  have digits := byte_length count
  simp only [String.length_append]
  omega

/-- MFC on the registry reader. -/
abbrev mfcWindows (fuel : Nat) : Widgets Windows MfcEnding :=
  mfcWidgets WindowsReader.iterateBindingNames fuel

/-- Qt on the config.json reader. -/
abbrev qtLinux (fuel : Nat) : Widgets Linux QtEnding :=
  qtWidgets LinuxReader.iterateBindingNames fuel

abbrev MfcShows (fuel : Nat) : UInt8 → Window Windows → Prop :=
  Shows Windows.tables WindowsReader.callbackToNameString WindowsReader.dataSourceNames
    (mfcWindows fuel).summary (mfcWindows fuel).calibrationText

abbrev QtShows (fuel : Nat) : UInt8 → Window Linux → Prop :=
  Shows Linux.tables LinuxReader.callbackToNameString LinuxReader.dataSourceNames
    (qtLinux fuel).summary (qtLinux fuel).calibrationText

theorem mfc_build (nvidiaGpuFound : Bool) (channelCount : UInt8) (fuel : Nat) (windows : Windows) :
    ∃ w, build (mfcWindows fuel) channelCount (windowsApiWith nvidiaGpuFound true) windows =
      some w ∧
      w.session = running windows ∧ MfcShows fuel channelCount w :=
  build_shows (windows_reports nvidiaGpuFound) true windows
    (fun _ short => stprintf_some
      (lt_trans short (by decide))) (summary_length _ _ (by decide) channelCount)
    fun value => lt_of_le_of_lt (calibrationText_length value) (by decide)

theorem qt_build (J : JsonC) (channelCount : UInt8) (fuel : Nat) (linux : Linux) :
    ∃ w, build (qtLinux fuel) channelCount (linuxApiWith J .done) linux = some w ∧
      w.session = running linux ∧ QtShows fuel channelCount w :=
  build_shows (linux_reports J) .done linux (fun _ _ => rfl)
    (summary_length _ _ (by decide) channelCount)
    fun value => lt_of_le_of_lt (byte_length value) (by decide)

theorem mfc_run {nvidiaGpuFound : Bool} {channelCount : UInt8} {envs : Nat → RegistryEnv}
    {registry : Registry.RegistryKey} {windows : Windows} {outcome : Outcome}
    (started : WindowsReader.start nvidiaGpuFound envs channelCount.toNat registry =
      .bound windows outcome)
    {fuel : Nat} (enough : 7 ≤ fuel) (events : List (Bool × NameBuffer × Event MfcEnding)) :
    ∃ first last, build (mfcWindows fuel) channelCount
      (windowsApiWith nvidiaGpuFound true) windows = some first ∧
      run (windowsApiWith nvidiaGpuFound) (mfcWindows fuel) channelCount first events = some last ∧
      last.session = Runs.run (AdjustPreview.mfcStep nvidiaGpuFound channelCount) (running windows)
        (events.map fun e => (e.1, e.2.2)) ∧
      Cleared Windows.tables channelCount.toNat last.session ∧ MfcShows fuel channelCount last := by
  obtain ⟨first, built, session, shows⟩ := mfc_build nvidiaGpuFound channelCount fuel windows
  have cleared : Cleared Windows.tables channelCount.toNat first.session := by
    rw [session]
    exact AdjustPreview.running_cleared (WindowsLoad.start_sized started)
  obtain ⟨last, ran, sessions, final⟩ :=
    run_shows (windows_reports nvidiaGpuFound) (mfc_draws nvidiaGpuFound enough) cleared
      shows events
  rw [session] at sessions
  exact ⟨first, last, built, ran, sessions, final⟩

theorem qt_run {J : JsonC} {channelCount : UInt8} {saves : Nat → SaveOutcome × SaveOutcome}
    {file : ConfigFile} {linux : Linux} {outcome : Outcome}
    (started : LinuxReader.start J saves channelCount.toNat file = .bound linux outcome)
    {fuel : Nat} (enough : 7 ≤ fuel) (events : List (SaveOutcome × NameBuffer × Event QtEnding)) :
    ∃ first last, build (qtLinux fuel) channelCount (linuxApiWith J .done) linux = some first ∧
      run (linuxApiWith J) (qtLinux fuel) channelCount first events = some last ∧
      last.session = Runs.run (AdjustPreview.qtStep J channelCount) (running linux)
        (events.map fun e => (e.1, e.2.2)) ∧
      Cleared Linux.tables channelCount.toNat last.session ∧ QtShows fuel channelCount last := by
  obtain ⟨first, built, session, shows⟩ := qt_build J channelCount fuel linux
  have cleared : Cleared Linux.tables channelCount.toNat first.session := by
    rw [session]
    exact AdjustPreview.running_cleared (LinuxLoad.start_sized started)
  obtain ⟨last, ran, sessions, final⟩ :=
    run_shows (linux_reports J) (qt_draws J enough) cleared shows events
  rw [session] at sessions
  exact ⟨first, last, built, ran, sessions, final⟩

/-- From any start, through any events and whatever the storage does: no text outgrows its
buffer, the windows leave the program to do what it does without them, and they show its
state. -/
theorem windows_show_state (J : JsonC) (nvidiaGpuFound : Bool) (channelCount : UInt8)
    {envs : Nat → RegistryEnv} {registry : Registry.RegistryKey} {windows : Windows}
    {windowsOutcome : Outcome}
    (windowsStarted : WindowsReader.start nvidiaGpuFound envs channelCount.toNat registry =
      .bound windows windowsOutcome)
    {saves : Nat → SaveOutcome × SaveOutcome} {file : ConfigFile} {linux : Linux}
    {linuxOutcome : Outcome}
    (linuxStarted : LinuxReader.start J saves channelCount.toNat file = .bound linux linuxOutcome)
    {fuel : Nat} (enough : 7 ≤ fuel) (mfcEvents : List (Bool × NameBuffer × Event MfcEnding))
    (qtEvents : List (SaveOutcome × NameBuffer × Event QtEnding)) :
    (∃ first last, build (mfcWindows fuel) channelCount (windowsApiWith nvidiaGpuFound true)
      windows = some first ∧
      run (windowsApiWith nvidiaGpuFound) (mfcWindows fuel) channelCount first mfcEvents =
        some last ∧
      last.session = Runs.run (AdjustPreview.mfcStep nvidiaGpuFound channelCount) (running windows)
        (mfcEvents.map fun e => (e.1, e.2.2)) ∧
      MfcShows fuel channelCount last) ∧
    (∃ first last, build (qtLinux fuel) channelCount (linuxApiWith J .done) linux = some first ∧
      run (linuxApiWith J) (qtLinux fuel) channelCount first qtEvents = some last ∧
      last.session = Runs.run (AdjustPreview.qtStep J channelCount) (running linux)
        (qtEvents.map fun e => (e.1, e.2.2)) ∧
      QtShows fuel channelCount last) := by
  obtain ⟨mfcFirst, mfcLast, mfcBuilt, mfcRan, mfcSame, -, mfcShown⟩ :=
    mfc_run windowsStarted enough mfcEvents
  obtain ⟨qtFirst, qtLast, qtBuilt, qtRan, qtSame, -, qtShown⟩ :=
    qt_run linuxStarted enough qtEvents
  exact ⟨⟨mfcFirst, mfcLast, mfcBuilt, mfcRan, mfcSame, mfcShown⟩,
    ⟨qtFirst, qtLast, qtBuilt, qtRan, qtSame, qtShown⟩⟩

/-- One session on the first channel. -/
def adjustedOnce {ω Ending : Type} (storage : ω) (ending : Ending) :
    List (ω × NameBuffer × Event Ending) :=
  [.openDialog 0, .selectName Names.calibration, .slide 200, .endDialog ending].map fun e =>
    (storage, ⟨List.replicate 32 0, rfl⟩, e)

theorem windows_show_adjusted :
    (∃ first last, build (mfcWindows 7) 1 (windowsApiWith true true) firstWindows = some first ∧
      run (windowsApiWith true) (mfcWindows 7) 1 first (adjustedOnce true .onCancel) = some last ∧
      last.rows[0]? = some ⟨"1", Names.calibration, "200(0xc8)"⟩) ∧
    (∃ first last, build (qtLinux 7) 1 (linuxApiWith plain .done) firstStart = some first ∧
      run (linuxApiWith plain) (qtLinux 7) 1 first (adjustedOnce .done .closeEvent) = some last ∧
      last.rows[0]? = some ⟨"1", Names.calibration, "200"⟩) := by
  have linuxStarted : LinuxReader.start plain allDone 1 .absent =
    .bound firstStart (.returned .success) := rfl
  obtain ⟨⟨mfcFirst, mfcLast, mfcBuilt, mfcRan, mfcSame, mfcShown⟩,
    ⟨qtFirst, qtLast, qtBuilt, qtRan, qtSame, qtShown⟩⟩ :=
      windows_show_state plain true 1 firstWindows_started
      linuxStarted (le_refl 7) (adjustedOnce true .onCancel) (adjustedOnce .done .closeEvent)
  refine ⟨⟨mfcFirst, mfcLast, mfcBuilt, mfcRan, ?_⟩, ⟨qtFirst, qtLast, qtBuilt, qtRan, ?_⟩⟩
  · rw [mfcShown.row 0
      (by decide) (fun d isOpen => by rw [mfcSame] at isOpen; cases isOpen), mfcSame]
    rfl
  · rw [qtShown.row 0 (by decide) (fun d isOpen => by rw [qtSame] at isOpen; cases isOpen), qtSame]
    rfl

/-! ## What the list tells -/

/-- Two lists that show the same were written for the same reported names and calibrations. -/
theorem entries_of_rows {σ : Type} {tables : σ → Tables} {reported : Callback → Name}
    {names : List Name} {summary text : UInt8 → String} {channelCount : UInt8} {w w' : Window σ}
    (shows : Shows tables reported names summary text channelCount w)
    (shows' : Shows tables reported names summary text channelCount w')
    (closed : w.session.dialog = none) (closed' : w'.session.dialog = none)
    (same : w.rows = w'.rows)
    (injective : ∀ {v v'}, text v = text v' → v = v') {i : Nat} (below : i < channelCount.toNat) :
    reported ((tables w.session.reader).callback i) =
      reported ((tables w'.session.reader).callback i) ∧
      (tables w.session.reader).calibration i = (tables w'.session.reader).calibration i := by
  have row := shows.row i below fun d isOpen => by rw [closed] at isOpen; cases isOpen
  have row' := shows'.row i below fun d isOpen => by rw [closed'] at isOpen; cases isOpen
  rw [same, row', Option.some.injEq, rowOf, rowOf, PanelRow.mk.injEq] at row
  exact ⟨row.2.1.symm, (injective row.2.2).symm⟩

theorem windows_reported_injective {callback callback' : Callback}
    (same : WindowsReader.callbackToNameString callback =
      WindowsReader.callbackToNameString callback') :
    callback = callback' := by
  revert same
  cases callback with
  | none =>
    cases callback' with
    | none => exact fun _ => rfl
    | some source => cases source <;> decide
  | some source =>
    cases callback' with
    | none => cases source <;> decide
    | some source' => cases source <;> cases source' <;> decide

section linux
variable {J : JsonC} {count : Nat} {s : Linux} (unlit : Unlit count s.tables) (save : SaveOutcome)
include unlit

theorem bind_unlit (channel : Nat) (name : Name) :
    Unlit count ((linuxApiWith J save).setChannelSourceBinding channel name s).1.tables :=
  VoltmeterProtection.setMember_unlit unlit
    (VoltmeterProtection.unlit_setCallback unlit channel (VoltmeterProtection.linux_not_live name))
      save _ _

theorem calibrate_unlit (channel : Nat) (value : UInt8) :
    Unlit count ((linuxApiWith J save).setChannelCalibration channel value s).1.tables :=
  VoltmeterProtection.setMember_unlit unlit
    (VoltmeterProtection.unlit_setCalibration unlit channel value) save _ _

theorem clear_unlit (channel : Nat) : Unlit count (LinuxReader.clearBinding channel s).1.tables :=
  VoltmeterProtection.unlit_setCallback unlit channel VoltmeterProtection.not_live_none

end linux

/-- The Qt program never binds a live source on this reader. -/
theorem qtStep_unlit {J : JsonC} {channelCount : UInt8} {count : Nat} (s : Session Linux)
    (e : SaveOutcome × Event QtEnding) (unlit : Unlit count s.reader.tables) :
    Unlit count (AdjustPreview.qtStep J channelCount s e).reader.tables := by
  obtain ⟨save, e⟩ := e
  simp only [AdjustPreview.qtStep, AdjustPreview.step, AdjustDialog.step]
  cases e with
  | tick env => exact unlit
  | openDialog channel =>
    dsimp only
    split
    next =>
      show Unlit count (adjustDialog (linuxApiWith J save) channel s).reader.tables
      by_cases zero : ((linuxApiWith J save).tables s.reader).calibration channel = 0
      · simp only [adjustDialog, if_pos zero]
        exact clear_unlit unlit channel
      · simp only [adjustDialog, if_neg zero]
        exact clear_unlit (calibrate_unlit unlit save channel _) channel
    next => exact unlit
  | slide value =>
    cases s.dialog with
    | none => exact unlit
    | some d => exact calibrate_unlit unlit save d.channel value
  | selectName name =>
    cases s.dialog with
    | none => exact unlit
    | some d =>
      dsimp only
      split <;> exact unlit
  | endDialog ending =>
    cases s.dialog with
    | none => exact unlit
    | some d =>
      cases ending with
      | closeEvent => exact bind_unlit unlit save d.channel d.cachedChannel
      | accept => exact unlit
      | reject => exact unlit

/-- Of callbacks that are not live the reported name tells the callback. -/
theorem linux_reported_injective {callback callback' : Callback} (dark : ¬ Live callback)
    (dark' : ¬ Live callback')
    (same : LinuxReader.callbackToNameString callback =
      LinuxReader.callbackToNameString callback') :
    callback = callback' := by
  have known (c : Callback) (notLive : ¬ Live c) : c = none ∨ c = some .calibration := by
    cases c with
    | none => exact Or.inl rfl
    | some source =>
      refine Or.inr ?_
      by_contra other
      exact notLive ⟨source, rfl, fun it => other (by rw [it])⟩
  rcases known callback dark with rfl | rfl <;> rcases known callback' dark' with rfl | rfl
  · rfl
  · exact absurd same (by decide)
  · exact absurd same (by decide)
  · rfl

/-- A window of the MFC program that a run reaches from a start. -/
def MfcReached (channelCount : UInt8) (fuel : Nat) (w : Window Windows) : Prop :=
  ∃ nvidiaGpuFound envs registry windows outcome first events,
    WindowsReader.start nvidiaGpuFound envs channelCount.toNat registry = .bound windows outcome ∧
    build (mfcWindows fuel) channelCount (windowsApiWith nvidiaGpuFound true) windows = some first ∧
    run (windowsApiWith nvidiaGpuFound) (mfcWindows fuel) channelCount first events = some w

/-- A window of the Qt program that a run reaches from a start. -/
def QtReached (J : JsonC) (channelCount : UInt8) (fuel : Nat) (w : Window Linux) : Prop :=
  ∃ saves file linux outcome first events,
    LinuxReader.start J saves channelCount.toNat file = .bound linux outcome ∧
    build (qtLinux fuel) channelCount (linuxApiWith J .done) linux = some first ∧
    run (linuxApiWith J) (qtLinux fuel) channelCount first events = some w

theorem mfcReached_shows {channelCount : UInt8} {fuel : Nat} (enough : 7 ≤ fuel)
    {w : Window Windows} (reached : MfcReached channelCount fuel w) :
    w.session.reader.tables.Sized channelCount.toNat ∧ MfcShows fuel channelCount w := by
  obtain ⟨nvidiaGpuFound, envs, registry, windows, outcome, first, events, started, built, ran⟩ :=
    reached
  obtain ⟨first', last, built', ran', -, cleared, shows⟩ := mfc_run started enough events
  cases built.symm.trans built'
  cases ran.symm.trans ran'
  exact ⟨cleared.sized, shows⟩

theorem qtReached_shows {J : JsonC} {channelCount : UInt8} {fuel : Nat} (enough : 7 ≤ fuel)
    {w : Window Linux} (reached : QtReached J channelCount fuel w) :
    Unlit channelCount.toNat w.session.reader.tables ∧ QtShows fuel channelCount w := by
  obtain ⟨saves, file, linux, outcome, first, events, started, built, ran⟩ := reached
  obtain ⟨first', last, built', ran', sessions, -, shows⟩ := qt_run started enough events
  cases built.symm.trans built'
  cases ran.symm.trans ran'
  have looped := LinuxLoad.start_bound.mp started
  have begun := @VoltmeterProtection.loop_unlit J channelCount.toNat
    (LinuxReader.fresh file (Tables.zeroed channelCount.toNat)) saves
    (VoltmeterProtection.unlit_zeroed channelCount.toNat)
  rw [looped] at begun
  have kept := (Runs.allReached_of_invariant
    (P := fun s : Session Linux => Unlit channelCount.toNat s.reader.tables)
    (fun s e before => @qtStep_unlit J channelCount channelCount.toNat s e before)
    (show Unlit channelCount.toNat (running linux).reader.tables from begun)
    (events.map fun e => (e.1, e.2.2))).last
  rw [← sessions] at kept
  exact ⟨kept, shows⟩

/-- With no dialog open the list tells the arrays: two windows of one program, reached in any
runs from any starts, that list the same have the same callbacks and calibrations. -/
theorem list_tells_arrays (J : JsonC) (channelCount : UInt8) {fuel : Nat} (enough : 7 ≤ fuel) :
    (∀ w w', MfcReached channelCount fuel w → MfcReached channelCount fuel w' →
      w.session.dialog = none → w'.session.dialog = none → w.rows = w'.rows →
      w.session.reader.tables = w'.session.reader.tables) ∧
    (∀ w w', QtReached J channelCount fuel w → QtReached J channelCount fuel w' →
      w.session.dialog = none → w'.session.dialog = none → w.rows = w'.rows →
      w.session.reader.tables = w'.session.reader.tables) := by
  constructor
  · intro w w' reached reached' closed closed' same
    obtain ⟨sized, shows⟩ := mfcReached_shows enough reached
    obtain ⟨sized', shows'⟩ := mfcReached_shows enough reached'
    refine Tables.eq_of_entries sized sized' fun i below => ?_
    obtain ⟨reported, calibration⟩ := entries_of_rows shows shows' closed closed' same
      (fun texts => calibrationText_injective texts) below
    exact ⟨windows_reported_injective reported, calibration⟩
  · intro w w' reached reached' closed closed' same
    obtain ⟨unlit, shows⟩ := qtReached_shows enough reached
    obtain ⟨unlit', shows'⟩ := qtReached_shows enough reached'
    refine Tables.eq_of_entries unlit.1 unlit'.1 fun i below => ?_
    obtain ⟨reported, calibration⟩ := entries_of_rows shows shows' closed closed' same
      (fun texts => UInt8.toNat.inj (decimal_injective texts)) below
    exact ⟨linux_reported_injective (VoltmeterProtection.not_live_of_unlit unlit i)
      (VoltmeterProtection.not_live_of_unlit unlit' i) reported, calibration⟩

/-- Twice through the session of `adjustedOnce`. -/
def adjustedTwice : List (Bool × NameBuffer × Event MfcEnding) :=
  adjustedOnce true .onCancel ++ adjustedOnce true .onCancel

theorem list_tells_adjusted : ∃ w w', MfcReached 1 7 w ∧ MfcReached 1 7 w' ∧
    w.rows = [⟨"1", Names.calibration, "200(0xc8)"⟩] ∧ w.rows = w'.rows ∧
    w.session.reader.tables = w'.session.reader.tables := by
  obtain ⟨first, w, built, ran, session, -, shows⟩ :=
    @mfc_run true 1 _ _ _ _ firstWindows_started 7 (le_refl 7) (adjustedOnce true .onCancel)
  obtain ⟨first', w', built', ran', session', -, shows'⟩ :=
    @mfc_run true 1 _ _ _ _ firstWindows_started 7 (le_refl 7) adjustedTwice
  have closed : w.session.dialog = none := by rw [session]; rfl
  have closed' : w'.session.dialog = none := by rw [session']; rfl
  have row : w.rows[0]? = some ⟨"1", Names.calibration, "200(0xc8)"⟩ := by
    rw [shows.row 0 (by decide) (fun d isOpen => by rw [closed] at isOpen; cases isOpen), session]
    rfl
  have row' : w'.rows[0]? = some ⟨"1", Names.calibration, "200(0xc8)"⟩ := by
    rw [shows'.row 0 (by decide) (fun d isOpen => by rw [closed'] at isOpen; cases isOpen),
      session']
    rfl
  have only {rows : List PanelRow} {r : PanelRow} (one : rows.length = 1)
    (here : rows[0]? = some r) :
      rows = [r] := by
    obtain ⟨x, rfl⟩ := List.length_eq_one_iff.mp one
    rw [← Option.some.inj here]
  have rows := only shows.rows row
  have rows' := only shows'.rows row'
  have same : w.rows = w'.rows := rows.trans rows'.symm
  have reached : MfcReached 1 7 w := ⟨_, _, _, _, _, first, _, firstWindows_started, built, ran⟩
  have reached' : MfcReached 1 7 w' :=
    ⟨_, _, _, _, _, first', _, firstWindows_started, built', ran'⟩
  exact ⟨w, w', reached, reached', rows, same,
    (list_tells_arrays plain 1 (le_refl 7)).1 w w' reached reached' closed closed' same⟩

end PerformancePanel.Guarantees.ShownState

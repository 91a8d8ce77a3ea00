import PerformancePanel.Source.AdjustDialog
import PerformancePanel.Source.BindingNames

/-!
# What the windows show

Source: control/mfc/control_panel_dialog.cpp, control/qt/control_panel_dialog.cpp and the
widgets of the two adjust_dialog.cpp. The list has a row for each channel, written when the
window is built and again for one channel when its adjust dialog has ended. Every text goes
through a buffer of fixed size on its way to a widget, except in Qt's own strings; a text
without room there is a failed step. The Qt slider reports a move off its first position
before the constructor writes the text. Layout, icons and the tray are left out.
-/
set_option autoImplicit false

namespace PerformancePanel.Source.ControlPanelDialog
open Common DataSources Collector DataSourceInterface AdjustDialog BindingNames

/-! ## Texts -/

/-- `%d` of a value that is not negative. -/
def decimal (value : Nat) : String := value.repr

/-- `%x`. -/
def hexadecimal (value : Nat) : String := String.ofList (Nat.toDigits 16 value)

/-- `_stprintf_s` into a buffer of so many characters; `none` is a text without room. -/
def stprintf (bufferLength : Nat) (text : String) : Option String :=
  if text.length < bufferLength then some text else none

/-- `_tcscpy_s` and `strcpy` of a name into a buffer of so many characters. -/
def tcscpy (bufferLength : Nat) (name : Name) : Option Name :=
  if fits bufferLength name then some name else none

/-- `%d(0x%x)`. -/
def calibrationText (value : UInt8) : String :=
  decimal value.toNat ++ "(0x" ++ hexadecimal value.toNat ++ ")"

theorem stprintf_some {bufferLength : Nat} {text : String} (room : text.length < bufferLength) :
    stprintf bufferLength text = some text := if_pos room

theorem decimal_length {value : Nat} (small : value < 1000) : (decimal value).length ≤ 3 :=
  (Nat.length_repr_le_iff (by decide)).mpr small

theorem hexadecimal_length {value : Nat} (small : value < 256) :
    (hexadecimal value).length ≤ 2 := by
  rw [hexadecimal, String.length_ofList]
  exact (Nat.length_toDigits_le_iff (by decide) (by decide)).mpr small

theorem calibrationText_length (value : UInt8) : (calibrationText value).length ≤ 9 := by
  have small := value.toNat_lt
  have first := decimal_length (show value.toNat < 1000 by omega)
  have second := hexadecimal_length (show value.toNat < 256 by omega)
  have brackets : "(0x".length = 3 ∧ ")".length = 1 := by decide
  simp only [calibrationText, String.length_append]
  omega

/-! A calibration is read back from its text. -/

theorem decimal_injective {value other : Nat} (same : decimal value = decimal other) :
    value = other :=
  Names.repr_injective same

/-- The digits end where the bracket stands. -/
theorem calibrationText_injective {value other : UInt8}
    (same : calibrationText value = calibrationText other) :
    value = other := by
  have digits (v : UInt8) : (calibrationText v).toList.takeWhile Char.isDigit =
    (decimal v.toNat).toList := by
    have inside : ∀ c ∈ (decimal v.toNat).toList, c.isDigit = true := by
      intro c member
      rw [decimal, Nat.toList_repr] at member
      exact Nat.isDigit_of_mem_toDigits (by decide) (by decide) member
    have bracket : "(0x".toList = ['(', '0', 'x'] := by decide
    simp only [calibrationText, String.toList_append, List.append_assoc]
    rw [List.takeWhile_append_of_pos inside, bracket]
    simp
  have texts : (decimal value.toNat).toList = (decimal other.toNat).toList := by
    rw [← digits value, ← digits other, same]
  exact UInt8.toNat.inj (decimal_injective (String.toList_inj.mp texts))

/-! ## Widgets -/

/-- One line of `m_PanelList` and of `panel_table`. -/
structure PanelRow where
  panelId : String
  channel : Name
  calibration : String
  deriving DecidableEq, Repr

/-- The widgets of an open adjust dialog. -/
structure AdjustWidgets where
  windowText : String
  valueText : String
  valueSlider : UInt8
  channelCombo : List Name
  selected : Option Name
  deriving DecidableEq, Repr

/-- The 32 characters of a local buffer on entry. -/
abbrev NameBuffer := { buffer : List CharT // buffer.length = maxChannelNameLength }

/-- The case folding of list controls, on the letters the names are made of. -/
def foldCase (unit : CharT) : CharT := if 65 ≤ unit ∧ unit ≤ 90 then unit + 32 else unit

/-- `CComboBox::SelectString` from the top: the first item that begins with the text. -/
def selectString (items : List Name) (text : Name) : Option Name :=
  items.find? fun item => (text.units.map foldCase).isPrefixOf (item.units.map foldCase)

/-- `QComboBox::setCurrentText` on a box that is not editable and shows its first item. -/
def setCurrentText (items : List Name) (text : Name) : Option Name :=
  if text ∈ items then some text else items.head?

/-- What a toolkit's widgets do. `opens` has the program before and after the constructor
or `OnInitDialog`, `slides` the value and the calibration the handler leaves. -/
structure Widgets (σ Ending : Type) where
  toolkit : DataSourceApi σ → Toolkit σ Ending
  summary : UInt8 → String
  calibrationText : UInt8 → String
  /-- The buffer of the texts written when the window is built. -/
  buildBuffer : String → Option String
  /-- The buffer of the calibration written after an adjust dialog. -/
  refreshBuffer : String → Option String
  opens : DataSourceApi σ → NameBuffer → Nat → Session σ → Session σ → Option AdjustWidgets
  slides : UInt8 → UInt8 → AdjustWidgets → Option AdjustWidgets
  takes : Name → Option Name

section widgets
variable {σ : Type} (iterateBindingNames : List CharT → Nat → Int32 → List CharT × Status)
  (fuel : Nat)

/-- `OnInitDialog`. -/
def mfcOpens (api : DataSourceApi σ) (digitText : NameBuffer) (channel : Nat)
    (before after : Session σ) :
    Option AdjustWidgets := do
  let cachedChannel ← tcscpy maxChannelNameLength (api.getSourceBindingName before.reader channel)
  let valueText ← stprintf maxChannelNameLength
    (decimal ((api.tables before.reader).calibration channel).toNat)
  let windowText ← stprintf maxChannelNameLength ("Channel " ++ decimal channel ++ " settings")
  let filled ← fillCombo iterateBindingNames 32 fuel digitText
  some ⟨windowText, valueText, (api.tables after.reader).calibration channel, filled.combo,
    selectString filled.combo cachedChannel⟩

/-- `OnHScroll`: the text is the slider's. -/
def mfcSlides (value _ : UInt8) (w : AdjustWidgets) : Option AdjustWidgets := do
  let str ← stprintf 8 (decimal value.toNat)
  some { w with valueText := str, valueSlider := value }

/-- `GetWindowText`: a text without room is cut. -/
def mfcTakes (name : Name) : Option Name :=
  some (Name.ofBuffer (name.units.take (maxChannelNameLength - 1)))

def mfcWidgets : Widgets σ MfcEnding where
  toolkit := mfc
  summary := fun count =>
    "Your East China Gold Medal Control Panel supports up to " ++ decimal count.toNat ++
      " channels."
  calibrationText := calibrationText
  buildBuffer := stprintf 128
  refreshBuffer := stprintf 32
  opens := mfcOpens iterateBindingNames fuel
  slides := mfcSlides
  takes := mfcTakes

/-- The Qt constructor. -/
def qtOpens (api : DataSourceApi σ) (buf : NameBuffer) (channel : Nat) (before after : Session σ) :
    Option AdjustWidgets := do
  let cachedChannelName ← tcscpy maxChannelNameLength
    (api.getSourceBindingName before.reader channel)
  let filled ← fillCombo iterateBindingNames maxChannelNameLength fuel buf
  some ⟨"Channel " ++ decimal channel ++ " settings",
    decimal ((api.tables after.reader).calibration channel).toNat,
    (api.tables before.reader).calibration channel, filled.combo,
    setCurrentText filled.combo cachedChannelName⟩

/-- `on_slide_calibration_valueChanged`: the text is the calibration's. -/
def qtSlides (value calibration : UInt8) (w : AdjustWidgets) : Option AdjustWidgets :=
  some { w with valueText := decimal calibration.toNat, valueSlider := value }

def qtWidgets : Widgets σ QtEnding where
  toolkit := qt
  summary := fun count =>
    "Your East China Gold Medal Performance Panel supports up to " ++ decimal count.toNat ++
      " channels."
  calibrationText := fun value => decimal value.toNat
  buildBuffer := some
  refreshBuffer := some
  opens := qtOpens iterateBindingNames fuel
  slides := qtSlides
  takes := tcscpy maxChannelNameLength

end widgets

/-! ## The window and its events -/

/-- The program with what its windows show. -/
structure Window (σ : Type) where
  session : Session σ
  overallDesc : String
  rows : List PanelRow
  adjust : Option AdjustWidgets

section window
variable {σ ω Ending : Type} (api : ω → DataSourceApi σ) (widgets : Widgets σ Ending)
  (channelCount : UInt8)

/-- The row of a channel when the window is built. -/
def panelRow (api : DataSourceApi σ) (reader : σ) (channel : Nat) : Option PanelRow := do
  let panelId ← widgets.buildBuffer (decimal (channel + 1))
  let calibration ← widgets.buildBuffer
    (widgets.calibrationText ((api.tables reader).calibration channel))
  some ⟨panelId, api.getSourceBindingName reader channel, calibration⟩

/-- `ControlPanelDialog::OnInitDialog` and the Qt constructor. -/
def build (api : DataSourceApi σ) (reader : σ) : Option (Window σ) := do
  let overallDesc ← widgets.buildBuffer (widgets.summary channelCount)
  let rows ← (List.range channelCount.toNat).mapM (panelRow widgets api reader)
  some ⟨running reader, overallDesc, rows, none⟩

/-- The end of `OnMenu01Calibrate` and `on_menu_triggered`: columns 1 and 2 of the row are written
again. -/
def refreshRow (api : DataSourceApi σ) (w : Window σ) (channel : Nat) : Option (Window σ) := do
  let calibration ← widgets.refreshBuffer
    (widgets.calibrationText ((api.tables w.session.reader).calibration channel))
  some { w with rows := w.rows.modify channel fun row =>
    ⟨row.panelId, api.getSourceBindingName w.session.reader channel, calibration⟩ }

/-- One event with how the storage takes it. Only a row of the list can be opened, and only an
item of the combo box be selected; `none` is a text without room in its buffer. -/
def step (w : Window σ) : ω × NameBuffer × Event Ending → Option (Window σ)
  | (storage, _, .tick env) =>
    some
      { w with
        session := AdjustDialog.step (api storage) (widgets.toolkit (api storage)) channelCount
          w.session (.tick env) }
  | (storage, buffer, .openDialog channel) =>
    if w.adjust.isNone ∧ channel < w.rows.length then
      let after := (widgets.toolkit (api storage)).opens channel w.session
      (widgets.opens (api storage) buffer channel w.session after).map fun adjust =>
        { w with session := after, adjust := some adjust }
    else some w
  | (storage, _, .slide value) =>
    match w.session.dialog, w.adjust with
    | some d, some adjust =>
      let after := onSlide (api storage) d.channel value w.session
      (widgets.slides value (((api storage).tables after.reader).calibration d.channel) adjust).map
        fun adjust => { w with session := after, adjust := some adjust }
    | _, _ => some w
  | (_, _, .selectName name) =>
    match w.session.dialog, w.adjust with
    | some d, some adjust =>
      if name ∈ adjust.channelCombo then
        (widgets.takes name).map fun taken =>
          { w with
            session := { w.session with dialog := some { d with cachedChannel := taken } }
            adjust := some { adjust with selected := some name } }
      else some w
    | _, _ => some w
  | (storage, _, .endDialog ending) =>
    match w.session.dialog with
    | some d =>
      let reader := (widgets.toolkit (api storage)).ends ending d w.session.reader
      refreshRow widgets (api storage)
        { w with session := { w.session with reader := reader, dialog := none }, adjust := none }
        d.channel
    | none => some w

/-- A run; a text without room ends it. -/
def run (w : Window σ) (events : List (ω × NameBuffer × Event Ending)) : Option (Window σ) :=
  events.foldlM (step api widgets channelCount) w

end window

end PerformancePanel.Source.ControlPanelDialog

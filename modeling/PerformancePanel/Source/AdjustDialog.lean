import PerformancePanel.Source.DataSourceInterface

/-!
# The adjust dialog

Source: control/mfc/adjust_dialog.cpp and control/qt/adjust_dialog.cpp with the timers of
control_panel.cpp and control_panel_dialog.cpp. The dialog is modal: one is open at a
time, and the timer keeps ticking. The base-class `CDialogEx::OnOK` only ends the dialog;
`QDialog::accept` and `reject` hide it without delivering `closeEvent`. Statuses of the
calls are ignored by the dialog. The combo box offers the advertised names; its change
while the Qt constructor fills it is ignored there, the dialog not being visible.
-/
set_option autoImplicit false

namespace PerformancePanel.Source.AdjustDialog
open Common DataSources Collector DataSourceInterface

/-- `selectedChannelId` and `cachedChannel` of an open dialog. -/
structure Dialog where
  channel : Nat
  cachedChannel : Name

/-- The control program between events; `sent` is every transfer issued so far. -/
structure Session (σ : Type) where
  reader : σ
  dialog : Option Dialog
  lastTimes : SystemTimes
  sent : List ControlTransfer

variable {σ : Type} (api : DataSourceApi σ)

/-- `send_usage` with its status ignored. -/
def previewUsage (channel : Nat) (value : UInt8) (s : Session σ) : Session σ :=
  { s with sent := s.sent ++ [sendUsage (UInt8.ofNat channel) value] }

/-- `OnHScroll` and `on_slide_calibration_valueChanged`. -/
def onSlide (channel : Nat) (value : UInt8) (s : Session σ) : Session σ :=
  let s := previewUsage channel value s
  { s with reader := (api.setChannelCalibration channel value s.reader).1 }

/-- What both dialogs do first: cache the reported name and clear the binding. -/
def cacheAndClear (channel : Nat) (s : Session σ) : Session σ :=
  { s with
    reader := (api.clearBinding channel s.reader).1
    dialog := some ⟨channel, api.getSourceBindingName s.reader channel⟩ }

/-- MFC `OnInitDialog`; `SetPos` sends no scroll message. -/
def onInitDialog (channel : Nat) (s : Session σ) : Session σ := cacheAndClear api channel s

/-- The Qt constructor: moving the new slider off 0 already runs its slot. -/
def adjustDialog (channel : Nat) (s : Session σ) : Session σ :=
  let value := (api.tables s.reader).calibration channel
  let s := if value = 0 then s else onSlide api channel value s
  let s := cacheAndClear api channel s
  previewUsage channel ((api.tables s.reader).calibration channel) s

inductive MfcEnding where
  | onOK | onCancel
  deriving DecidableEq, Repr

inductive QtEnding where
  | closeEvent | accept | reject
  deriving DecidableEq, Repr

def restoreBinding (d : Dialog) (reader : σ) : σ :=
  (api.setChannelSourceBinding d.channel d.cachedChannel reader).1

def mfcEnd : MfcEnding → Dialog → σ → σ
  | .onOK, _, reader => reader
  | .onCancel, d, reader => restoreBinding api d reader

def qtEnd : QtEnding → Dialog → σ → σ
  | .closeEvent, d, reader => restoreBinding api d reader
  | .accept, _, reader => reader
  | .reject, _, reader => reader

/-- What a toolkit's dialog does when it is opened and when it ends. -/
structure Toolkit (σ Ending : Type) where
  opens : Nat → Session σ → Session σ
  ends : Ending → Dialog → σ → σ

def mfc : Toolkit σ MfcEnding := ⟨onInitDialog api, mfcEnd api⟩

def qt : Toolkit σ QtEnding := ⟨adjustDialog api, qtEnd api⟩

inductive Event (Ending : Type) where
  | tick (env : TickEnv)
  | openDialog (channel : Nat)
  | slide (value : UInt8)
  | selectName (name : Name)
  | endDialog (ending : Ending)

/-- One event of the control program; events that cannot occur change nothing. -/
def step {Ending : Type} (toolkit : Toolkit σ Ending) (channelCount : UInt8) (s : Session σ) :
    Event Ending → Session σ
  | .tick env =>
    let tick := mainLoopCallback env channelCount (api.tables s.reader).arrays s.lastTimes
    { s with lastTimes := tick.lastTimes, sent := s.sent ++ tick.transfers }
  | .openDialog channel =>
    if s.dialog.isNone ∧ channel < channelCount.toNat then toolkit.opens channel s else s
  | .slide value =>
    match s.dialog with
    | some d => onSlide api d.channel value s
    | none => s
  | .selectName name =>
    match s.dialog with
    | some d =>
      if name ∈ api.dataSourceNames then { s with dialog := some { d with cachedChannel := name } }
      else s
    | none => s
  | .endDialog ending =>
    match s.dialog with
    | some d => { s with reader := toolkit.ends ending d s.reader, dialog := none }
    | none => s

/-- The program before its first event. -/
def running (reader : σ) : Session σ := ⟨reader, none, SystemTimes.zero, []⟩

end PerformancePanel.Source.AdjustDialog

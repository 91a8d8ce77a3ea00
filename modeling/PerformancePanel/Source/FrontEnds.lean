import PerformancePanel.Source.PanelSetup

/-!
# The three front ends

Source: control/console_entry.c, control/mfc/control_panel.cpp and
control/qt/qt_entry.cpp with the timer of control_panel_dialog.cpp, and the two
`enter_loop` of platform/. The console and MFC programs ignore what `open_device` and
`initialize_data_source_binding` return; the Qt program exits. Outcomes of the calls
made before the loop are inputs (`Startup`).
-/
set_option autoImplicit false

namespace PerformancePanel.Source.FrontEnds
open Common DataSources Collector PanelSetup

inductive FrontEnd where
  | consoleUnix | consoleWindows | mfc | qt
  deriving DecidableEq, Repr

/-- What a program meets before its first tick. -/
structure Startup extends Setup where
  openDevice : Status

/-- The globals of a program with what it has done; `running` while its timer is set. -/
structure Program where
  deviceOpened : Bool
  channelCount : UInt8
  arrays : Arrays
  lastTimes : SystemTimes
  running : Bool
  faulted : Bool
  transfers : List ControlTransfer

/-- Every program up to its timer once it has decided to query the panel; `proceeds` says
what it makes of the status of the initialisation. A query that does not return leaves
the globals as they were. -/
def queryAndInitialize (env : Startup) (proceeds : Outcome → Bool) : Program :=
  match env.channelCount with
  | none =>
    ⟨env.openDevice = .success, 0, ⟨none, none⟩, SystemTimes.zero, false, false, [queryTransfer]⟩
  | some channelCount =>
    let initialized := initializeArrays env.toSetup channelCount
    ⟨env.openDevice = .success, channelCount, initialized.1, SystemTimes.zero,
      proceeds initialized.2, false, [queryTransfer]⟩

def consoleMain (env : Startup) : Program := queryAndInitialize env fun _ => true

def ccontrolPanelApp (env : Startup) : Program := queryAndInitialize env fun _ => true

def qtMain (env : Startup) : Program :=
  if env.openDevice = .success then
    queryAndInitialize env (· == .returned .success)
  else
    ⟨false, 0, ⟨none, none⟩, SystemTimes.zero, false, false, []⟩

def start : FrontEnd → Startup → Program
  | .consoleUnix, env => consoleMain env
  | .consoleWindows, env => consoleMain env
  | .mfc, env => ccontrolPanelApp env
  | .qt, env => qtMain env

/-- Only the generic Unix `enter_loop` looks at the status of a tick. -/
def keepsRunning : FrontEnd → Outcome → Bool
  | _, .fault _ => false
  | _, .stopped => false
  | .consoleUnix, .returned status => status == .success
  | _, .returned _ => true

/-- One timer period. -/
def tick (frontEnd : FrontEnd) (env : TickEnv) (p : Program) : Program :=
  let done := mainLoopCallback env p.channelCount p.arrays p.lastTimes
  { p with
    lastTimes := done.lastTimes
    running := keepsRunning frontEnd done.outcome
    faulted := isFault done.outcome
    transfers := p.transfers ++ done.transfers }

/-- The user closes the program. -/
def leave (frontEnd : FrontEnd) (p : Program) : Program :=
  match frontEnd with
  | .consoleUnix => { p with running := false }
  | .consoleWindows => { p with running := false }
  | .mfc => { p with running := false, transfers := p.transfers ++ zeroLevels p.channelCount }
  | .qt => { p with running := false, transfers := p.transfers ++ zeroLevels p.channelCount }

inductive Event where
  | tick (env : TickEnv)
  | leave

/-- One event of a program; one whose timer is not set has none. -/
def step (frontEnd : FrontEnd) (p : Program) (e : Event) : Program :=
  if p.running then
    match e with
    | .tick env => tick frontEnd env p
    | .leave => leave frontEnd p
  else p

end PerformancePanel.Source.FrontEnds

import PerformancePanel.Library.Runs
import PerformancePanel.Library.WhileLoop
import PerformancePanel.Source.LibUsb
import PerformancePanel.Source.PanelTraffic

/-!
# The programs on libusb

Source: control/console_entry.c with platform/unix_generic_timer.c, and
control/qt/qt_entry.cpp with its windows, both built with platform/libusb.c. `enter_loop` is
left by the first tick whose status is not success; only then does `main` close the device.
The environment of every tick is an input, so a run that is never left is one for which no
number of iterations is enough. The timer of the Qt program, its adjust dialogs and its end
send what `PanelTraffic` has them send.
-/
set_option autoImplicit false

namespace PerformancePanel.Source.ConsoleMain
open Common DataSources Collector PanelSetup FrontEnds LibUsb Library

/-! ## `enter_loop` -/

/-- Between two iterations; `status` is what the last tick returned, success before the first. -/
structure Loop where
  program : Program
  ticks : Nat
  status : Outcome

def loopTest (l : Loop) : Bool := l.status == .returned .success

def loopBody (envs : Nat → TickEnv) (l : Loop) : Loop where
  program := tick .consoleUnix (envs l.ticks) l.program
  ticks := l.ticks + 1
  status := (mainLoopCallback (envs l.ticks) l.program.channelCount l.program.arrays
    l.program.lastTimes).outcome

/-- The Unix `enter_loop`; `none` is a loop that `fuel` ticks do not leave. -/
def enterLoop (fuel : Nat) (envs : Nat → TickEnv) (p : Program) : Option Loop :=
  WhileLoop.iterate loopTest (loopBody envs) fuel ⟨p, 0, .returned .success⟩

/-- The loop after so many ticks, left or not. -/
def ticked (envs : Nat → TickEnv) (p : Program) (count : Nat) : Loop :=
  (loopBody envs)^[count] ⟨p, 0, .returned .success⟩

/-! ## The programs -/

/-- The buffer length that goes with a command. -/
def retbuflen : HostOperationCommand → UInt16
  | .queryCap => 1
  | .setUsage => 0

/-- The calls that some transfers make. -/
def transferCalls (deviceHandle : DeviceHandle) (transfers : List ControlTransfer) : List Call :=
  transfers.map fun transfer => transferControl deviceHandle transfer (retbuflen transfer.command)

/-- What `main` meets up to its loop. -/
structure MainEnv where
  usb : OpenEnv
  setup : Setup

def MainEnv.startup (env : MainEnv) : Startup :=
  { env.setup with openDevice := (openDevice env.usb).status }

/-- The console program that enters its loop. -/
def MainEnv.console (env : MainEnv) : Program := start .consoleUnix env.startup

/-- The Qt program that shows its window, or has returned. -/
def MainEnv.qt (env : MainEnv) : Program := start .qt env.startup

/-- The calls of a program so far. -/
def callsSoFar (env : MainEnv) (p : Program) : List Call :=
  (openDevice env.usb).calls ++ transferCalls (openDevice env.usb).deviceHandle p.transfers

/-- What the Qt program has sent after some events: the query, and once its windows are built
whatever they send. `reader` is the configuration they work on, `api` what the calls on it do
under each storage outcome. -/
def qtTransfers {σ ω : Type} (api : ω → DataSourceInterface.DataSourceApi σ) (reader : σ)
    (env : MainEnv) (events : List (PanelTraffic.Event ω AdjustDialog.QtEnding)) :
    List ControlTransfer :=
  if env.qt.running then
    let windows := Runs.run (PanelTraffic.step api AdjustDialog.qt env.qt.channelCount)
      (PanelTraffic.begun reader) events
    env.qt.transfers ++ windows.exchanges.map PanelTraffic.Exchange.packet
  else env.qt.transfers

/-- The calls of the Qt program after some events. -/
def qtCalls {σ ω : Type} (api : ω → DataSourceInterface.DataSourceApi σ) (reader : σ)
    (env : MainEnv) (events : List (PanelTraffic.Event ω AdjustDialog.QtEnding)) : List Call :=
  (openDevice env.usb).calls ++
    transferCalls (openDevice env.usb).deviceHandle (qtTransfers api reader env events)

/-- `main` of the console program: its calls, or `none` when the query does not return, the
loop is not left within so many ticks, or a tick faults. -/
def unixMain (fuel : Nat) (envs : Nat → TickEnv) (env : MainEnv) : Option (List Call) :=
  if env.console.running then
    match enterLoop fuel envs env.console with
    | some ⟨p, _, .returned _⟩ =>
        some (callsSoFar env p ++ closeDevice (openDevice env.usb).deviceHandle)
    | some ⟨_, _, .stopped⟩ => none
    | some ⟨_, _, .fault _⟩ => none
    | none => none
  else none

/-! ## One iteration and many -/

variable {envs : Nat → TickEnv} {p : Program}

theorem ticked_succ (count : Nat) :
    ticked envs p (count + 1) = loopBody envs (ticked envs p count) :=
  Function.iterate_succ_apply' _ _ _

@[simp] theorem ticked_ticks (count : Nat) : (ticked envs p count).ticks = count := by
  induction count with
  | zero => rfl
  | succ count ih => rw [ticked_succ, loopBody, ih]

/-- Ticks change neither the arrays nor the count. -/
theorem ticked_kept (count : Nat) : (ticked envs p count).program.arrays = p.arrays ∧
    (ticked envs p count).program.channelCount = p.channelCount := by
  induction count with
  | zero => exact ⟨rfl, rfl⟩
  | succ count ih =>
    rw [ticked_succ]
    exact ih

/-- The loop is left by the first tick that does not succeed. -/
theorem enterLoop_some_iff {fuel : Nat} {l : Loop} : enterLoop fuel envs p = some l ↔
    ∃ k ≤ fuel, (∀ j < k, (ticked envs p j).status = .returned .success) ∧
      (ticked envs p k).status ≠ .returned .success ∧ ticked envs p k = l := by
  rw [enterLoop, WhileLoop.iterate_some_iff]
  refine exists_congr fun k => and_congr Iff.rfl (and_congr (forall₂_congr fun j _ => ?_)
    (and_congr ?_ Iff.rfl))
  · exact beq_iff_eq
  · exact beq_eq_false_iff_ne

end PerformancePanel.Source.ConsoleMain

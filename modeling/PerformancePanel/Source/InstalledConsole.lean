import PerformancePanel.Source.FrontEnds
import PerformancePanel.Source.LinuxReader

/-!
# The console program as it is built on Linux

Source: control/console_entry.c with platform/unix_generic_timer.c, datasource/collector.c
and datasource/linux/configurationreader.c. In FrontEnds.lean the calls of the reader are
inputs; here they are made, on config.json, which outlives the process. A process that is
stopped inside a save, or by a fault, does not get to its loop.
-/
set_option autoImplicit false

namespace PerformancePanel.Source.InstalledConsole
open Common DataSources Collector PanelSetup JsonLibrary FrontEnds

/-- What `main` meets up to its loop; `fuel` bounds the query's count loop. -/
structure MainEnv where
  openDevice : Status
  queryStatus : Status
  queryReply : UInt8
  fuel : Nat
  callbacksAllocated : Bool
  calibrationsAllocated : Bool
  saves : Nat → SaveOutcome × SaveOutcome

/-- The process that runs or has run last, and the file. -/
structure Installed where
  program : Program
  file : ConfigFile

/-- `main` looks at no status, but ends with a process that is stopped or faults. -/
def goesOn : Outcome → Bool
  | .returned _ => true
  | .stopped => false
  | .fault _ => false

/-- `main` up to `enter_loop`. -/
def main (J : JsonC) (env : MainEnv) (file : ConfigFile) : Installed :=
  let opened : Bool := env.openDevice = .success
  match getChannelCount env.fuel env.queryStatus env.queryReply with
  | none => ⟨⟨opened, 0, ⟨none, none⟩, SystemTimes.zero, false, false, [queryTransfer]⟩, file⟩
  | some channelCount =>
    match initializeDataSourceBinding env.callbacksAllocated env.calibrationsAllocated
      channelCount.toNat
        (LinuxReader.fresh file)
        (fun channel s => LinuxReader.getBoundDataSource J (env.saves channel) channel s) with
    | .unallocated arrays =>
      ⟨⟨opened, channelCount, arrays, SystemTimes.zero, true, false, [queryTransfer]⟩, file⟩
    | .bound s outcome =>
      ⟨⟨opened, channelCount, s.tables.arrays, SystemTimes.zero, goesOn outcome, isFault outcome,
        [queryTransfer]⟩, s.file⟩

inductive Event where
  | starts (env : MainEnv)
  | goesOn (e : FrontEnds.Event)

def step (J : JsonC) (s : Installed) : Event → Installed
  | .starts env => main J env s.file
  | .goesOn e => { s with program := FrontEnds.step .consoleUnix s.program e }

/-- No process has run yet. -/
def idle (file : ConfigFile) : Installed :=
  ⟨⟨false, 0, ⟨none, none⟩, SystemTimes.zero, false, false, []⟩, file⟩

end PerformancePanel.Source.InstalledConsole

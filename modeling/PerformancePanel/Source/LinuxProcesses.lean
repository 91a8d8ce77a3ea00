import PerformancePanel.Source.LinuxReader

/-!
# Processes on one config.json

Source: datasource/linux/configurationreader.c with `initialize_data_source_binding` of
datasource/collector.c. Processes run one after the other, each on a panel with its own number
of channels, and find the file the ones before have left. A save in which a process is stopped
ends it; what becomes of each save is an input.
-/
set_option autoImplicit false

namespace PerformancePanel.Source.LinuxProcesses
open Common Collector JsonLibrary LinuxReader

/-- A process, or none, and the count it has started with. -/
structure Session where
  linux : Linux
  running : Bool
  count : Nat

inductive Event where
  | start (count : Nat) (saves : Nat → SaveOutcome × SaveOutcome)
  | setChannelSourceBinding (save : SaveOutcome) (channel : Nat) (bindingName : Name)
  | setChannelCalibration (save : SaveOutcome) (channel : Nat) (calibration : UInt8)
  | clearBinding (channel : Nat)

/-- After a call that ended so. -/
def after (s : Session) (result : Linux × Outcome) : Session where
  linux := result.1
  running := result.2 ≠ .stopped
  count := s.count

/-- A start replaces the running process; a call needs one, and a channel below its count. -/
def step (J : JsonC) (s : Session) : Event → Session
  | .start count saves =>
    match start J saves count s.linux.file with
    | .bound linux (.returned _) => ⟨linux, true, count⟩
    | .bound linux _ => ⟨linux, false, count⟩
    | .unallocated _ => { s with running := false }
  | .setChannelSourceBinding save channel bindingName =>
    if s.running ∧ channel < s.count then
      after s (setChannelSourceBinding J save channel bindingName s.linux)
    else s
  | .setChannelCalibration save channel calibration =>
    if s.running ∧ channel < s.count then
      after s (setChannelCalibration J save channel calibration s.linux)
    else s
  | .clearBinding channel =>
    if s.running ∧ channel < s.count then after s (clearBinding channel s.linux) else s

/-- Before the first start. -/
def before (file : ConfigFile) : Session := ⟨fresh file (Tables.zeroed 0), false, 0⟩

/-- However a start on a panel with `count` channels ends, its state is the one left. -/
theorem step_start {J : JsonC} {s : Session} {count : Nat}
    {saves : Nat → SaveOutcome × SaveOutcome} {linux : Linux} {outcome : Outcome}
    (started : start J saves count s.linux.file = .bound linux outcome) :
    (step J s (.start count saves)).linux = linux ∧
      (step J s (.start count saves)).count = count := by
  simp only [step, started]
  cases outcome <;> exact ⟨rfl, rfl⟩

end PerformancePanel.Source.LinuxProcesses

import PerformancePanel.Library.Runs
import PerformancePanel.Source.DataSourceInterface
import PerformancePanel.Source.Names

/-!
# The settings of one channel over many processes

What the settings of a channel are for: a binding name and a calibration that outlive the
process, and the name whose source the running process reads. A process that starts with
more channels than `c` loads the settings of channel `c` and then makes its calls; one that
starts with fewer has no part in them. The readers differ in the names a start gives up and
in the calibration it stores first (`LoadRule`).
-/
set_option autoImplicit false

namespace PerformancePanel.Settings.ChannelSlots
open Source Source.Common Source.DataSources Source.DataSourceInterface Library

structure LoadRule where
  /-- Whether a start takes a stored name as it is, or replaces it by `Unallocated`. -/
  keeps : Name → Bool
  /-- The calibration stored for a channel that has none, by the name taken. -/
  initialCalibration : Name → UInt8

/-- The settings of one channel: what is stored, and the name bound in the running process. -/
structure Slot where
  name : Option Name
  calibration : Option UInt8
  bound : Name

inductive SlotEvent where
  | load
  | bind (name : Name)
  | calibrate (value : UInt8)
  | clear

/-- The name a start takes from a stored one. -/
def LoadRule.taken (rule : LoadRule) : Option Name → Name
  | some name => if rule.keeps name then name else Names.unallocated
  | none => Names.unallocated

def slotStep (rule : LoadRule) (slot : Slot) : SlotEvent → Slot
  | .load =>
    { name := some (rule.taken slot.name)
      calibration := some (slot.calibration.getD (rule.initialCalibration (rule.taken slot.name)))
      bound := rule.taken slot.name }
  | .bind name => { slot with name := some name, bound := name }
  | .calibrate value => { slot with calibration := some value }
  | .clear => { slot with bound := Names.unallocated }

/-- A channel's part of one call. -/
def callEvents (channel : Nat) : Call → List SlotEvent
  | .setChannelSourceBinding c name => if c = channel then [.bind name] else []
  | .clearBinding c => if c = channel then [.clear] else []
  | .setChannelCalibration c value => if c = channel then [.calibrate value] else []

/-- A channel's part of loading so many channels. -/
def loadEvents (channel count : Nat) : List SlotEvent := if channel < count then [.load] else []

/-- One process: the count it starts with, and the calls it makes. -/
structure Process where
  count : Nat
  calls : List Call

/-- A channel's part of one process: none if the panel does not have the channel. -/
def processEvents (channel : Nat) (process : Process) : List SlotEvent :=
  if channel < process.count then .load :: process.calls.flatMap (callEvents channel) else []

/-- The settings of every channel. -/
abbrev Slots := Nat → Slot

def Slots.load (rule : LoadRule) (count : Nat) (slots : Slots) : Slots :=
  Runs.familyStep (slotStep rule) loadEvents slots count

def Slots.call (rule : LoadRule) (slots : Slots) (call : Call) : Slots :=
  Runs.familyStep (slotStep rule) callEvents slots call

def Slots.process (rule : LoadRule) (slots : Slots) (process : Process) : Slots :=
  Runs.familyStep (slotStep rule) processEvents slots process

section loading
variable {rule : LoadRule} {count : Nat} {slots : Slots} {channel : Nat}

theorem load_below (below : channel < count) :
    slots.load rule count channel = slotStep rule (slots channel) .load := by
  show Runs.run (slotStep rule) (slots channel) (loadEvents channel count) = _
  rw [loadEvents, if_pos below]
  rfl

theorem load_above (above : ¬ channel < count) : slots.load rule count channel = slots channel := by
  show Runs.run (slotStep rule) (slots channel) (loadEvents channel count) = _
  rw [loadEvents, if_neg above]
  rfl

end loading

/-- The slot of the channel a call is about. -/
def Slot.after (slot : Slot) : Call → Slot
  | .setChannelSourceBinding _ name => { slot with name := some name, bound := name }
  | .clearBinding _ => { slot with bound := Names.unallocated }
  | .setChannelCalibration _ value => { slot with calibration := some value }

/-- A call changes one slot. -/
theorem call_eq (rule : LoadRule) (slots : Slots) (call : Call) :
    slots.call rule call =
      Function.update slots call.channel ((slots call.channel).after call) := by
  funext channel
  show Runs.run (slotStep rule) (slots channel) (callEvents channel call) = _
  by_cases same : channel = call.channel
  · subst same
    rw [Function.update_self]
    cases call <;> exact congrArg (Runs.run (slotStep rule) _) (if_pos rfl)
  · rw [Function.update_of_ne same]
    cases call <;> exact congrArg (Runs.run (slotStep rule) (slots channel)) (if_neg (Ne.symm same))

theorem callEvents_other {channel : Nat} {call : Call} (other : call.channel ≠ channel) :
    callEvents channel call = [] := by
  cases call <;> exact if_neg other

/-- A process loads its channels and then makes its calls, all on channels it has loaded. -/
theorem process_eq (rule : LoadRule) (slots : Slots) {process : Process}
    (below : ∀ call ∈ process.calls, call.channel < process.count) :
    slots.process rule process = Runs.run (Slots.call rule)
      (slots.load rule process.count) process.calls := by
  funext channel
  have calls : Runs.run (Slots.call rule) (slots.load rule process.count) process.calls channel =
    _ :=
    Runs.run_familyStep (slotStep rule) callEvents (slots.load rule process.count)
      process.calls channel
  rw [calls]
  show Runs.run (slotStep rule) (slots channel) (processEvents channel process) = _
  unfold processEvents
  by_cases attached : channel < process.count
  · rw [if_pos attached, load_below attached, Runs.run_cons]
  · have silent : process.calls.flatMap (callEvents channel) = [] :=
      List.flatMap_eq_nil_iff.mpr fun call member =>
        callEvents_other fun same => attached (same ▸ below call member)
    rw [if_neg attached, load_above attached, silent]

/-- Every channel below the count has been loaded. -/
def Slots.Loaded (slots : Slots) (count : Nat) : Prop :=
  ∀ channel < count, (slots channel).name ≠ none ∧ (slots channel).calibration ≠ none

theorem loaded_load (rule : LoadRule) (count : Nat) (slots : Slots) :
    (slots.load rule count).Loaded count := by
  intro channel below
  rw [load_below below]
  exact ⟨Option.some_ne_none _, Option.some_ne_none _⟩

theorem loaded_call {rule : LoadRule} {count : Nat} {slots : Slots} (loaded : slots.Loaded count)
    (call : Call) :
    (slots.call rule call).Loaded count := by
  intro channel below
  rw [call_eq]
  by_cases same : channel = call.channel
  · have before := loaded channel below
    rw [same] at before ⊢
    rw [Function.update_self]
    cases call with
    | setChannelSourceBinding c name => exact ⟨Option.some_ne_none _, before.2⟩
    | clearBinding c => exact before
    | setChannelCalibration c value => exact ⟨before.1, Option.some_ne_none _⟩
  · rw [Function.update_of_ne same]
    exact loaded channel below

end PerformancePanel.Settings.ChannelSlots

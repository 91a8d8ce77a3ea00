import PerformancePanel.Source.Collector

/-!
# From the capability query to the arrays

Every program and the driver query the panel and then run
`initialize_data_source_binding`. The outcomes of the transfer, of the two `calloc` and
of every `get_bound_data_source` call are inputs (`Setup`); any reader is covered, since
a call may write anything through its two pointers.
-/
set_option autoImplicit false

namespace PerformancePanel.Source.PanelSetup
open Common DataSources Collector

/-- What one `get_bound_data_source` call writes through its two pointers and returns. -/
structure BoundCall where
  callback : Option Callback
  calibration : Option UInt8
  status : Status

/-- What the calls meet; `fuel` bounds the query's count loop. -/
structure Setup where
  queryStatus : Status
  queryReply : UInt8
  fuel : Nat
  callbacksAllocated : Bool
  calibrationsAllocated : Bool
  boundCall : Nat → BoundCall

def queryTransfer : ControlTransfer := ⟨.queryCap, 0⟩

def Setup.channelCount (env : Setup) : Option UInt8 :=
  getChannelCount env.fuel env.queryStatus env.queryReply

def BoundCall.writes (call : BoundCall) (i : Nat) (t : Tables) : Tables :=
  let t := match call.callback with
    | some callback => t.setCallback i callback
    | none => t
  match call.calibration with
  | some calibration => t.setCalibration i calibration
  | none => t

def getBoundDataSource (env : Setup) (i : Nat) (t : Tables) : Tables × Outcome :=
  ((env.boundCall i).writes i t, .returned (env.boundCall i).status)

/-- `initialize_data_source_binding`: the arrays it leaves and what it returns. -/
def initializeArrays (env : Setup) (channelCount : UInt8) : Arrays × Outcome :=
  match initializeDataSourceBinding env.callbacksAllocated env.calibrationsAllocated
      channelCount.toNat id (getBoundDataSource env) with
  | .unallocated arrays => (arrays, .returned .deviceConfigurationFailed)
  | .bound t outcome => (t.arrays, outcome)

def isFault : Outcome → Bool
  | .fault _ => true
  | _ => false

/-- The zero levels a program sends when it ends, statuses ignored. -/
def zeroLevels (channelCount : UInt8) : List ControlTransfer :=
  (List.range channelCount.toNat).map fun i => sendUsage (UInt8.ofNat i) 0

variable {env : Setup}

theorem Setup.channelCount_eq (env : Setup) :
    env.channelCount =
      if env.queryReply &&& voltmeterChannelReportRawValue != 0 then
        some (if env.queryStatus = .success then
          env.queryReply &&& ~~~voltmeterChannelReportRawValue else 0)
      else if env.queryReply &&& 1 != 0 then none
      else some 0 :=
  getChannelCount_eq env.fuel env.queryStatus env.queryReply

theorem writes_sized (call : BoundCall) {t : Tables} {count : Nat} (i : Nat)
    (sized : t.Sized count) :
    (call.writes i t).Sized count := by
  unfold BoundCall.writes
  cases call.callback <;> cases call.calibration <;> simpa using sized

/-- With both blocks allocated the reader calls leave two blocks of the right length. -/
theorem initializeArrays_allocated (channelCount : UInt8)
    (callbacks : env.callbacksAllocated = true) (calibrations : env.calibrationsAllocated = true) :
    ∃ t : Tables, (initializeArrays env channelCount).1 = t.arrays ∧
      t.Sized channelCount.toNat := by
  have sized : (bindLoop (getBoundDataSource env) channelCount.toNat 0
      (Tables.zeroed channelCount.toNat)).1.Sized channelCount.toNat :=
    bindLoop_keeps (I := fun t : Tables => t.Sized channelCount.toNat)
      (fun i t _ sized => writes_sized _ i sized) (Nat.zero_add _) (Tables.zeroed_sized _)
  refine ⟨_, ?_, sized⟩
  simp [initializeArrays, initializeDataSourceBinding, callbacks, calibrations]

/-- After a failed allocation the blocks are as `calloc` returned them, and the status
says so. -/
theorem initializeArrays_unallocated (channelCount : UInt8)
    (failed : (env.callbacksAllocated && env.calibrationsAllocated) = false) :
    initializeArrays env channelCount =
      (⟨if env.callbacksAllocated then some (Tables.zeroed channelCount.toNat).callbacks else none,
        if env.calibrationsAllocated then some (Tables.zeroed channelCount.toNat).calibrations
          else none⟩,
        .returned .deviceConfigurationFailed) := by
  simp [initializeArrays, initializeDataSourceBinding, failed]

/-- Every block it leaves has the length `channel_count`. -/
theorem initializeArrays_lengths (env : Setup) (channelCount : UInt8) :
    (∀ block, (initializeArrays env channelCount).1.callbacks = some block →
        block.length = channelCount.toNat) ∧
      (∀ block, (initializeArrays env channelCount).1.calibrations = some block →
        block.length = channelCount.toNat) := by
  cases both : (env.callbacksAllocated && env.calibrationsAllocated) with
  | true =>
    rw [Bool.and_eq_true] at both
    obtain ⟨t, arrays, sized⟩ := initializeArrays_allocated channelCount both.1 both.2
    rw [arrays]
    refine ⟨fun block found => ?_, fun block found => ?_⟩
    · rw [← Option.some.inj found]
      exact sized.1
    · rw [← Option.some.inj found]
      exact sized.2
  | false =>
    rw [initializeArrays_unallocated channelCount both]
    have lengths := Tables.zeroed_sized channelCount.toNat
    refine ⟨fun block found => ?_, fun block found => ?_⟩
    · obtain ⟨_, same⟩ := Option.ite_none_right_eq_some.mp found
      rw [← Option.some.inj same]
      exact lengths.1
    · obtain ⟨_, same⟩ := Option.ite_none_right_eq_some.mp found
      rw [← Option.some.inj same]
      exact lengths.2

/-- A successful initialisation has allocated both blocks. -/
theorem allocated_of_success {channelCount : UInt8}
    (success : (initializeArrays env channelCount).2 = .returned .success) :
    env.callbacksAllocated = true := by
  by_contra failed
  rw [initializeArrays_unallocated channelCount (by simp [failed])] at success
  cases success

end PerformancePanel.Source.PanelSetup

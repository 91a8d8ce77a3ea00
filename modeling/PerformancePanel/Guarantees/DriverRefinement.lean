import PerformancePanel.Library.Runs
import PerformancePanel.Source.InstalledDriver
import PerformancePanel.Source.WindowsLoad

/-!
# The driver whose reader is an input

UmdfDriver.lean leaves open what the calls of `get_bound_data_source` write. The driver as it
is built is an instance: what its reader writes behind the two pointers of a call is what is
read back of the two entries, so each of its steps is one of the driver with open inputs.
-/
set_option autoImplicit false

namespace PerformancePanel.Guarantees.DriverRefinement
open Source Source.Common Source.DataSources Source.Collector Source.PanelSetup Source.Registry
  Source.NvidiaGpu
open Source.InstalledDriver Library
open Source.WindowsReader (Windows RegistryEnv)

section inputs
variable (nvidiaGpuFound : Bool) (envs : Nat → RegistryEnv) (start : Windows)

/-- The reader before each of its calls. -/
def readerAt : Nat → Windows
  | 0 => start
  | i + 1 => (WindowsReader.getBoundDataSource nvidiaGpuFound (envs i) i (readerAt i)).1

/-- What a call leaves behind its two pointers and returns. -/
def boundCall (i : Nat) : BoundCall :=
  let called := WindowsReader.getBoundDataSource nvidiaGpuFound (envs i) i
    (readerAt nvidiaGpuFound envs start i)
  { callback := some (called.1.tables.callback i)
    calibration := some (called.1.tables.calibration i)
    status := if called.2 = .returned .success then .success else .invalidConfiguration }

end inputs

/-- What a call leaves is what is read back of its two entries. -/
theorem getBoundDataSource_writes {nvidiaGpuFound : Bool} {env : RegistryEnv} {channel count : Nat}
    {s : Windows} (sized : s.tables.Sized count) (below : channel < count) :
    let called := WindowsReader.getBoundDataSource nvidiaGpuFound env channel s
    (s.tables.setCallback channel (called.1.tables.callback channel)).setCalibration channel
        (called.1.tables.calibration channel) = called.1.tables ∧
      called.2 = .returned
        (if called.2 = .returned .success then .success else .invalidConfiguration) := by
  have callbackKept : s.tables.setCallback channel (s.tables.callback channel) = s.tables :=
    (Tables.setCallback_eq_self_iff sized below _).mpr rfl
  have calibrationKept {t : Tables} (tSized : t.Sized count) :
      t.setCalibration channel (t.calibration channel) = t :=
    (Tables.setCalibration_eq_self_iff tSized below _).mpr rfl
  intro called
  rcases WindowsLoad.getBoundDataSource_cases nvidiaGpuFound env channel s with
    ⟨same, outcome⟩ | ⟨name, ⟨same, outcome⟩ | ⟨value, same, outcome⟩⟩
  · refine ⟨?_, by rw [outcome]; rfl⟩
    rw [same, callbackKept, calibrationKept sized]
  · have boundSized := (Tables.setCallback_sized s.tables channel count
      (WindowsReader.nameStringToCallback nvidiaGpuFound name)).mpr sized
    refine ⟨?_, by rw [outcome]; rfl⟩
    rw [same, Tables.callback_setCallback_self sized below, calibrationKept boundSized]
  · have boundSized := (Tables.setCallback_sized s.tables channel count
      (WindowsReader.nameStringToCallback nvidiaGpuFound name)).mpr sized
    refine ⟨?_, by rw [outcome]; rfl⟩
    rw [same, Tables.callback_setCalibration, Tables.callback_setCallback_self sized below,
      Tables.calibration_setCalibration_self boundSized below]

/-- The loop over the reader is the loop over its calls as inputs. -/
theorem loop_inputs {nvidiaGpuFound : Bool} {envs : Nat → RegistryEnv} {start : Windows}
    {count : Nat} {setup : Setup}
    (inputs : setup.boundCall = boundCall nvidiaGpuFound envs start)
    (sized : start.tables.Sized count) :
    (bindLoop (PanelSetup.getBoundDataSource setup) count 0 start.tables).1 =
      (bindLoop (fun channel w => WindowsReader.getBoundDataSource nvidiaGpuFound (envs channel)
        channel w) count 0
        start).1.tables := by
  have simulated := @bindLoop_simulates Windows
    (fun channel w => WindowsReader.getBoundDataSource nvidiaGpuFound (envs channel) channel w)
    (fun i w => w = readerAt nvidiaGpuFound envs start i ∧ w.tables.Sized count) count Tables
    (PanelSetup.getBoundDataSource setup) Windows.tables (fun _ => True) ?_ count 0 start
      (Nat.zero_add count)
    ⟨rfl, sized⟩
  · exact congrArg Prod.fst simulated.1
  · rintro i w below ⟨rfl, wSized⟩
    obtain ⟨writes, outcome⟩ :=
      @getBoundDataSource_writes nvidiaGpuFound (envs i) i count _ wSized below
    refine ⟨?_, trivial, fun _ => ⟨rfl, (WindowsLoad.getBoundDataSource_keeps wSized).1⟩⟩
    simp only [PanelSetup.getBoundDataSource, inputs, boundCall, BoundCall.writes]
    rw [writes, ← outcome]

/-- A preparation as the driver with open inputs meets it: the reader's calls are those it
makes on the count that is queried. -/
def inputs (s : Installed) (env : Preparation) (channelCount : UInt8) : UmdfDriver.Preparation where
  queryStatus := env.queryStatus
  queryReply := env.queryReply
  fuel := env.fuel
  callbacksAllocated := env.callbacksAllocated
  calibrationsAllocated := env.calibrationsAllocated
  boundCall := boundCall (dataSourceNvidiaPrepare env.gpuEnv s.gpu).1.nvidiaGpuFound env.envs
    ⟨s.opened, s.registry, Tables.zeroed channelCount.toNat⟩
  usbCreated := env.usbCreated
  configSelected := env.configSelected
  timerCreated := env.timerCreated

theorem initializeBinding_inputs (s : Installed) (env : Preparation) (channelCount : UInt8) :
    (initializeBinding env channelCount s).driver =
      { s.driver with arrays :=
        (initializeArrays (inputs s env channelCount).toSetup channelCount).1 } := by
  cases both : (env.callbacksAllocated && env.calibrationsAllocated) with
  | true =>
    have looped := @loop_inputs (dataSourceNvidiaPrepare env.gpuEnv s.gpu).1.nvidiaGpuFound env.envs
      ⟨s.opened, s.registry, Tables.zeroed channelCount.toNat⟩ channelCount.toNat
      (inputs s env channelCount).toSetup rfl (Tables.zeroed_sized _)
    have allocated : ((inputs s env channelCount).callbacksAllocated &&
      (inputs s env channelCount).calibrationsAllocated) = true := both
    simp only [initializeBinding, initializeArrays, initializeDataSourceBinding, both, allocated,
      if_true, id, looped]
  | false =>
    have failed : ((inputs s env channelCount).callbacksAllocated &&
      (inputs s env channelCount).calibrationsAllocated) = false := both
    simp only [initializeBinding, initializeArrays, initializeDataSourceBinding, both, failed,
      Bool.false_eq_true, if_false]
    rfl

/-- A preparation of the built driver is one of the driver with open inputs. -/
theorem prepareHardware_inputs (s : Installed) (device : UmdfDriver.Handle) (env : Preparation) :
    ∃ env', (prepareHardware device env s).driver =
      UmdfDriver.prepareHardware device env' s.driver := by
  let channelCount := (getChannelCount env.fuel env.queryStatus env.queryReply).getD 0
  refine ⟨inputs s env channelCount, ?_⟩
  have same : (inputs s env channelCount).channelCount =
    getChannelCount env.fuel env.queryStatus env.queryReply := rfl
  have usbCreated : (inputs s env channelCount).usbCreated = env.usbCreated := rfl
  have configSelected : (inputs s env channelCount).configSelected = env.configSelected := rfl
  unfold prepareHardware UmdfDriver.prepareHardware
  rw [same, usbCreated, configSelected]
  cases UmdfDriver.ensureUsbDevice env.usbCreated s.driver with
  | none => rfl
  | some driver =>
    cases env.configSelected with
    | false => rfl
    | true =>
      cases counts : getChannelCount env.fuel env.queryStatus env.queryReply with
      | none => rfl
      | some count =>
        have known : channelCount = count := congrArg (·.getD 0) counts
        have initialized := initializeBinding_inputs (queried device { s with driver := driver })
          env count
        rw [known]
        simp only [if_true, counted, initialized]
        rfl

theorem step_driver {s : Installed} {e : Event} {e' : UmdfDriver.Event}
    (sameDelivery : delivered s e = (!s.driver.crashed && UmdfDriver.delivered s.driver e'))
    (sameCallback : (callback s e).driver = UmdfDriver.callback s.driver e') :
    (step s e).driver = UmdfDriver.step s.driver e' := by
  unfold step UmdfDriver.step
  rw [sameDelivery]
  split
  · exact sameCallback
  · rfl

/-- An event within the life of an image is one of the driver with open inputs. -/
theorem step_inputs (s : Installed) {e : Event} (sameImage : e ≠ .imageLoaded) :
    ∃ e', (step s e).driver = UmdfDriver.step s.driver e' := by
  cases e with
  | imageLoaded => exact absurd rfl sameImage
  | deviceAdd created interfaceCreated =>
      exact ⟨.deviceAdd created interfaceCreated, step_driver rfl rfl⟩
  | prepareHardware device env =>
    obtain ⟨env', same⟩ := prepareHardware_inputs s device env
    exact ⟨.prepareHardware device env', step_driver rfl same⟩
  | timerFires timer env => exact ⟨.timerFires timer env, step_driver rfl rfl⟩
  | deviceRemoved device => exact ⟨.deviceRemoved device, step_driver rfl rfl⟩
  | driverContextCleanup => exact ⟨.driverContextCleanup, step_driver rfl rfl⟩

/-- Every state of the built driver is one that the driver with open inputs reaches. -/
theorem driver_refines_inputs (registry : RegistryKey) (events : List Event) :
    Runs.AllReached step
      (fun s => ∃ events', s.driver = Runs.run UmdfDriver.step UmdfDriver.driverEntry events')
      (loaded registry) events := by
  refine Runs.allReached_of_invariant (fun s e reached => ?_) ⟨[], rfl⟩ events
  by_cases sameImage : e = .imageLoaded
  · subst sameImage
    exact ⟨[], rfl⟩
  · obtain ⟨before, same⟩ := reached
    obtain ⟨e', stepped⟩ := step_inputs s sameImage
    refine ⟨before ++ [e'], ?_⟩
    rw [stepped, same, Runs.run_append, Runs.run_cons, Runs.run_nil]

end PerformancePanel.Guarantees.DriverRefinement

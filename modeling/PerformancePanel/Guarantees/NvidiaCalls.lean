import PerformancePanel.Library.Runs
import PerformancePanel.Settings.LoadedEntries
import PerformancePanel.Source.InstalledDriver
import PerformancePanel.Source.WindowsLoad

/-!
# The calls into NVAPI

The GPU is prepared again by every initialisation, each of which may fail, while the flag of
an earlier one stays set. Still NVAPI is asked only by a handle it has written: a source of
the GPU is bound only where the flag is set, and the flag only where there is a handle.
-/
set_option autoImplicit false

namespace PerformancePanel.Guarantees.NvidiaCalls
open Source Source.Common Source.DataSources Source.Collector Source.Registry Source.NvidiaGpu
open Source.InstalledDriver Library
open Settings.LoadedEntries (unallocated_idle)
open Source.WindowsReader (Windows RegistryEnv)

/-- Only a found GPU gives a name one of its sources. -/
theorem found_of_source {nvidiaGpuFound : Bool} {name : Name} {source : DataSource}
    (bound : WindowsReader.nameStringToCallback nvidiaGpuFound name = some source)
    (needs : NeedsGpu source) :
    nvidiaGpuFound = true := by
  have named : name = Names.gpuUtility ∨ name = Names.gpuTemperature := by
    rw [← WindowsLoad.name_of_source bound]
    rcases needs with rfl | rfl
    · exact Or.inl rfl
    · exact Or.inr rfl
  cases nvidiaGpuFound with
  | true => rfl
  | false =>
    have absent : WindowsReader.nameStringToCallback false name = none := by
      rcases named with rfl | rfl <;> decide
    rw [absent] at bound
    cases bound

/-- GPU sources are bound only where the GPU was found. -/
def BoundIfFound (nvidiaGpuFound : Bool) (callbacks : List Callback) : Prop :=
  ∀ source, some source ∈ callbacks → NeedsGpu source → nvidiaGpuFound = true

theorem boundIfFound_call {nvidiaGpuFound : Bool} (env : RegistryEnv) (channel : Nat) {s : Windows}
    (bound : BoundIfFound nvidiaGpuFound s.tables.callbacks) :
    BoundIfFound nvidiaGpuFound
      (WindowsReader.getBoundDataSource nvidiaGpuFound env channel s).1.tables.callbacks := by
  have set (name : Name) : BoundIfFound nvidiaGpuFound
      (s.tables.callbacks.set channel
        (WindowsReader.nameStringToCallback nvidiaGpuFound name)) := by
    intro source member
    rcases List.mem_or_eq_of_mem_set member with old | new
    · exact bound source old
    · exact found_of_source new.symm
  rcases WindowsLoad.getBoundDataSource_cases nvidiaGpuFound env channel s with ⟨same, -⟩
    | ⟨name, ⟨same, -⟩ | ⟨value, same, -⟩⟩
  · rw [same]
    exact bound
  · rw [same]
    exact set name
  · rw [same]
    exact set name

/-- NVAPI has taken every call and has the handle the driver has, a GPU that is found has one,
and its sources are bound only then. -/
structure GpuReady (s : Installed) : Prop where
  taken : ∃ api, unloaded.takesAll s.nvCalls = some api ∧ s.gpu.phys = api.handle
  handle : s.gpu.nvidiaGpuFound = true → s.gpu.phys.isSome = true
  bound : ∀ i source, load s.driver.arrays.callbacks i = some (some source) → NeedsGpu source →
    s.gpu.nvidiaGpuFound = true

section gpu
variable {s : Installed}

theorem initializeBinding_ready (ready : GpuReady s) (env : Preparation) (channelCount : UInt8) :
    GpuReady (initializeBinding env channelCount s) := by
  cases both : (env.callbacksAllocated && env.calibrationsAllocated) with
  | true =>
    let found := (dataSourceNvidiaPrepare env.gpuEnv s.gpu).1.nvidiaGpuFound
    have zeroed : BoundIfFound found (Tables.zeroed channelCount.toNat).callbacks := by
      intro source member
      cases List.eq_of_mem_replicate member
    have bound : BoundIfFound found (bindLoop (fun channel w =>
        WindowsReader.getBoundDataSource found (env.envs channel) channel w) channelCount.toNat 0
        ⟨s.opened, s.registry, Tables.zeroed channelCount.toNat⟩).1.tables.callbacks :=
      bindLoop_keeps (I := fun w : Windows => BoundIfFound found w.tables.callbacks)
        (fun i w _ bound => boundIfFound_call (env.envs i) i bound) (Nat.zero_add _) zeroed
    obtain ⟨api, taken, same⟩ := ready.taken
    obtain ⟨api', prepared, same'⟩ := prepare_taken env.gpuEnv same
    simp only [initializeBinding, initializeDataSourceBinding, both, if_true]
    refine ⟨⟨api', ?_, same'⟩, prepare_handle env.gpuEnv ready.handle, fun i source here => ?_⟩
    · rw [takesAll_append, taken, Option.bind_some]
      exact prepared
    · exact bound source (List.mem_of_getElem? here)
  | false =>
    simp only [initializeBinding, initializeDataSourceBinding, both, Bool.false_eq_true, if_false]
    exact ⟨ready.taken, ready.handle, fun i source here =>
      absurd here (unallocated_idle _ _ i source)⟩

theorem prepareHardware_ready (ready : GpuReady s) (device : UmdfDriver.Handle)
    (env : Preparation) :
    GpuReady (prepareHardware device env s) := by
  rcases prepareHardware_cases device env s with same
    | ⟨usb, next, same | same | ⟨channelCount, -, same⟩⟩
  · rw [same]
    exact ready
  · rw [same]
    exact ⟨ready.taken, ready.handle, ready.bound⟩
  · rw [same]
    exact ⟨ready.taken, ready.handle, ready.bound⟩
  · rw [same]
    let s' := queried device
      { s with driver := { s.driver with usbDevice := some usb, nextHandle := next } }
    have queried : GpuReady s' := ⟨ready.taken, ready.handle, ready.bound⟩
    obtain ⟨taken, handle, bound⟩ := initializeBinding_ready queried env channelCount
    let d :=
      { (initializeBinding env channelCount s').driver with
        channelCount := channelCount, device := some device }
    refine ⟨taken, handle, ?_⟩
    show ∀ i source, load (UmdfDriver.enterLoop env.timerCreated d).arrays.callbacks i =
      some (some source) → _
    rw [(enterLoop_frame env.timerCreated d).1]
    exact bound

theorem callback_ready (ready : GpuReady s) (e : Event) : GpuReady (callback s e) := by
  cases e with
  | imageLoaded => exact ⟨⟨unloaded, rfl, rfl⟩, nofun, nofun⟩
  | deviceAdd created interfaceCreated =>
      cases created <;> exact ⟨ready.taken, ready.handle, ready.bound⟩
  | prepareHardware device env => exact prepareHardware_ready ready device env
  | timerFires timer env =>
    obtain ⟨api, taken, same⟩ := ready.taken
    refine ⟨⟨api, ?_, same⟩, ready.handle, ready.bound⟩
    show unloaded.takesAll (s.nvCalls ++ _) = some api
    rw [takesAll_append, taken, Option.bind_some]
    exact tickCalls_taken same env
      (fun i source here needs => ready.handle (ready.bound i source here needs)) _ 0
  | deviceRemoved device => exact ⟨ready.taken, ready.handle, ready.bound⟩
  | driverContextCleanup =>
    show GpuReady { s with driver := UmdfDriver.driverContextCleanup s.driver }
    unfold UmdfDriver.driverContextCleanup
    cases s.driver.timer <;> exact ⟨ready.taken, ready.handle, ready.bound⟩

end gpu

/-- Whatever is stored and whatever fails, in every reached state NVAPI could answer every call
it has got, and the GPU's sources are bound only while there is a handle to ask it by. -/
theorem nvapi_calls_taken (registry : RegistryKey) (events : List Event) :
    Runs.AllReached step GpuReady (loaded registry) events := by
  refine Runs.allReached_of_invariant (fun s e ready => ?_)
    ⟨⟨unloaded, rfl, rfl⟩, nofun, nofun⟩ events
  unfold step
  split
  · exact callback_ready ready e
  · exact ready

end PerformancePanel.Guarantees.NvidiaCalls

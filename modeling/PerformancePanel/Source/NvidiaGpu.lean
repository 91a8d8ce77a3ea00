import PerformancePanel.Source.Collector

/-!
# The NVIDIA GPU

Source: datasource/windows/gpu_nvidia.c, `data_source_nvidia_prepare` and the calls of the
two sources, whose readings are in DataSources.lean. What NVAPI answers is an input; an
enumeration that fails writes no handle, and one that succeeds is taken to write one, which
is all that `phys` has room for (the API may write up to 64). The statics `phys` and
`nvidia_gpu_found` are never reset, and `initialize_data_source_binding` prepares again
whenever it runs.
-/
set_option autoImplicit false

namespace PerformancePanel.Source.NvidiaGpu
open DataSources Collector

/-- A physical GPU; `none` is a handle that was never written. -/
abbrev PhysicalGpuHandle := Option Nat

/-- `phys` and `nvidia_gpu_found`. -/
structure Gpu where
  phys : PhysicalGpuHandle
  nvidiaGpuFound : Bool
  deriving DecidableEq, Repr

/-- What one `data_source_nvidia_prepare` meets. -/
structure GpuEnv where
  initialized : Bool
  enumerated : Option Nat
  named : Bool

/-- A call into NVAPI: what it returns where that matters, and the handle it is given. -/
inductive NvCall where
  | initializeApi (succeeds : Bool)
  | enumPhysicalGpus (found : Option Nat)
  | getFullName (phys : PhysicalGpuHandle)
  | getDynamicPstatesInfoEx (phys : PhysicalGpuHandle)
  | getThermalSettings (phys : PhysicalGpuHandle)
  deriving DecidableEq, Repr

/-- `data_source_nvidia_prepare`, with its calls. -/
def dataSourceNvidiaPrepare (env : GpuEnv) (gpu : Gpu) : Gpu × List NvCall :=
  if env.initialized then
    match env.enumerated with
    | some handle =>
      (⟨some handle, gpu.nvidiaGpuFound || env.named⟩,
        [.initializeApi true, .enumPhysicalGpus (some handle), .getFullName (some handle)])
    | none => (gpu, [.initializeApi true, .enumPhysicalGpus none])
  else (gpu, [.initializeApi false])

/-- The call a source makes. -/
def sourceCalls (gpu : Gpu) : DataSource → List NvCall
  | .nvidiaGpuUtility => [.getDynamicPstatesInfoEx gpu.phys]
  | .nvidiaGpuTemperature => [.getThermalSettings gpu.phys]
  | .calibration => []
  | .cpuUtility => []
  | .ramUtility => []

/-- Those of `main_loop_callback` from index `i`, up to a fault or a failed transfer. -/
def tickCalls (gpu : Gpu) (env : TickEnv) (arrays : Arrays) : (remaining i : Nat) → List NvCall
  | 0, _ => []
  | remaining + 1, i =>
    match load arrays.callbacks i with
    | none => []
    | some none => tickCalls gpu env arrays remaining (i + 1)
    | some (some source) =>
      match load arrays.calibrations i with
      | none => sourceCalls gpu source
      | some _ =>
        if env.transfer i = .success then
          sourceCalls gpu source ++ tickCalls gpu env arrays remaining (i + 1)
        else sourceCalls gpu source

/-! ## What NVAPI takes -/

/-- What NVAPI has given out: itself, and the handle it last wrote. -/
structure NvApi where
  loaded : Bool
  handle : Option Nat

/-- A call that NVAPI can answer: GPUs are enumerated once it is initialized, and asked for
by the handle it wrote. -/
def NvApi.takes (api : NvApi) : NvCall → Option NvApi
  | .initializeApi succeeds => some { api with loaded := api.loaded || succeeds }
  | .enumPhysicalGpus found =>
    if api.loaded then some { api with handle := found.or api.handle } else none
  | .getFullName phys => if phys.isSome && phys = api.handle then some api else none
  | .getDynamicPstatesInfoEx phys => if phys.isSome && phys = api.handle then some api else none
  | .getThermalSettings phys => if phys.isSome && phys = api.handle then some api else none

/-- All of some calls, one after the other; `none` is one that it cannot answer. -/
def NvApi.takesAll (api : NvApi) (calls : List NvCall) : Option NvApi :=
  calls.foldlM NvApi.takes api

def unloaded : NvApi := ⟨false, none⟩

theorem takesAll_append (api : NvApi) (first rest : List NvCall) :
    api.takesAll (first ++ rest) = (api.takesAll first).bind (·.takesAll rest) := by
  simp only [NvApi.takesAll, List.foldlM_append]
  rfl

/-- A preparation is always answered; NVAPI then has the handle the program has. -/
theorem prepare_taken (env : GpuEnv) {gpu : Gpu} {api : NvApi} (same : gpu.phys = api.handle) :
    ∃ api', api.takesAll (dataSourceNvidiaPrepare env gpu).2 = some api' ∧
      (dataSourceNvidiaPrepare env gpu).1.phys = api'.handle := by
  unfold dataSourceNvidiaPrepare
  cases env.initialized with
  | false => exact ⟨_, rfl, same⟩
  | true =>
    cases env.enumerated with
    | none =>
      refine ⟨⟨true, api.handle⟩, ?_, same⟩
      simp [NvApi.takesAll, NvApi.takes]
    | some handle =>
      refine ⟨⟨true, some handle⟩, ?_, rfl⟩
      simp [NvApi.takesAll, NvApi.takes]

/-- A GPU that is found has a handle. -/
theorem prepare_handle (env : GpuEnv) {gpu : Gpu}
    (handle : gpu.nvidiaGpuFound = true → gpu.phys.isSome = true) :
    (dataSourceNvidiaPrepare env gpu).1.nvidiaGpuFound = true →
      (dataSourceNvidiaPrepare env gpu).1.phys.isSome = true := by
  unfold dataSourceNvidiaPrepare
  split
  · split
    · exact fun _ => rfl
    · exact handle
  · exact handle

/-- The sources that ask NVAPI. -/
def NeedsGpu (source : DataSource) : Prop :=
  source = .nvidiaGpuUtility ∨ source = .nvidiaGpuTemperature

theorem sourceCalls_taken {gpu : Gpu} {api : NvApi} (same : gpu.phys = api.handle)
    {source : DataSource}
    (ready : NeedsGpu source → gpu.phys.isSome = true) : api.takesAll (sourceCalls gpu source) =
      some api := by
  cases source with
  | calibration => rfl
  | cpuUtility => rfl
  | ramUtility => rfl
  | nvidiaGpuUtility =>
    obtain ⟨handle, held⟩ := Option.isSome_iff_exists.mp (ready (Or.inl rfl))
    simp [NvApi.takesAll, sourceCalls, NvApi.takes, held, ← same]
  | nvidiaGpuTemperature =>
    obtain ⟨handle, held⟩ := Option.isSome_iff_exists.mp (ready (Or.inr rfl))
    simp [NvApi.takesAll, sourceCalls, NvApi.takes, held, ← same]

/-- A tick whose GPU sources are bound only with a handle is answered. -/
theorem tickCalls_taken {gpu : Gpu} {api : NvApi} (same : gpu.phys = api.handle) (env : TickEnv)
    {arrays : Arrays}
    (ready : ∀ i source, load arrays.callbacks i = some (some source) → NeedsGpu source →
      gpu.phys.isSome = true)
    (remaining i : Nat) : api.takesAll (tickCalls gpu env arrays remaining i) = some api := by
  induction remaining generalizing i with
  | zero => rfl
  | succ remaining ih =>
    unfold tickCalls
    split
    next => rfl
    next => exact ih (i + 1)
    next source bound =>
      have first := sourceCalls_taken same (ready i source bound)
      split
      next => exact first
      next =>
        split
        · rw [takesAll_append, first, Option.bind_some]
          exact ih (i + 1)
        · exact first

end PerformancePanel.Source.NvidiaGpu

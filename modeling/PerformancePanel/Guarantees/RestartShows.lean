import PerformancePanel.Guarantees.BindingRestored

/-!
# What is shown survives a restart

What a control program does with its settings, dialogs included, is a run of the calls of
the reader interface, and a start decodes what these have stored. So with every call of the
storage succeeding, a program can be ended in any state of a run that has no dialog and started
again with the arrays it had, exactly when none of the dialogs of the run leaves a source
behind.
-/
set_option autoImplicit false

namespace PerformancePanel.Guarantees.RestartShows
open Source Source.Common Source.DataSources Source.Collector Source.DataSourceInterface
open Source.AdjustDialog
open Source.JsonLibrary Source.Registry Settings Library BindingRestored

/-! ## Dialogs as calls of the interface -/

section sessions
variable {σ B C Ending : Type} {R : StoredReader σ B C} {T : Toolkit σ Ending}
  {channelCount : UInt8}

/-- One reader comes from another by calls that the storage takes. -/
def Called (R : StoredReader σ B C) (reader reader' : σ) : Prop :=
  ∃ calls, (∀ call ∈ calls, Call.Admissible R.count R.fits call) ∧
    reader' = Runs.run R.api.after reader calls

theorem Called.refl (reader : σ) : Called R reader reader :=
  ⟨[], fun _ member => absurd member List.not_mem_nil, rfl⟩

theorem Called.one {call : Call} (admissible : Call.Admissible R.count R.fits call) (reader : σ) :
    Called R reader (R.api.after reader call) := by
  refine ⟨[call], fun listed member => ?_, rfl⟩
  rw [List.mem_singleton.mp member]
  exact admissible

theorem Called.trans {first second third : σ} (one : Called R first second)
    (two : Called R second third) : Called R first third := by
  obtain ⟨calls, admissible, rfl⟩ := one
  obtain ⟨calls', admissible', rfl⟩ := two
  refine ⟨calls ++ calls', fun call member => ?_, (Runs.run_append _ _ _ _).symm⟩
  rcases List.mem_append.mp member with before | after
  · exact admissible call before
  · exact admissible' call after

end sessions

/-! ## The two readers -/

open Settings.LinuxStored Settings.WindowsStored LinuxRestart WindowsRestart

section windows
variable {nvidiaGpuFound : Bool} {count : Nat} {s : WindowsReader.Windows}

/-- The values of a running process that a later start reads as they are. -/
structure Readable (nvidiaGpuFound : Bool) (count : Nat) (s : WindowsReader.Windows) :
    Prop where
  restartable : ∀ c < count,
    WindowsLoad.Restartable nvidiaGpuFound (s.registry (WindowsReader.channelKey c))
  dwords : ∀ c < count, ∃ w, s.registry (WindowsReader.calibrationKey c) = some (dword w)

end windows

end PerformancePanel.Guarantees.RestartShows

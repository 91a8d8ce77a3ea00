import PerformancePanel.Settings.LinuxStored

/-!
# Linux restart round trip

A process that loaded config.json, or found none, and then performed any calls on
channels below its count leaves a file from which the next process obtains the same
calibrations and, for every channel not cleared last, the same callback. Calls that the
stored value's JSON type refuses change nothing on either side.
-/
set_option autoImplicit false

namespace PerformancePanel.Guarantees.LinuxRestart
open Source.Common Source.Collector Source.DataSourceInterface Source.JsonLibrary
open Source.LinuxReader Source.LinuxLoad Settings Settings.LinuxStored Library

def allDone (_channel : Nat) : SaveOutcome × SaveOutcome := (.done, .done)

theorem allDone_needed (d : Json) (count : Nat) : ∀ c < count,
    Needed d (.binding c) (allDone c).1 ∧ Needed d (.calibration c) (allDone c).2 :=
  fun _ _ => ⟨fun _ => rfl, fun _ => rfl⟩

theorem admissible_of_below {count : Nat} {call : Call} (below : call.channel < count) :
    Call.Admissible count (fun _ => True) call := by
  cases call with
  | setChannelSourceBinding channel name => exact ⟨below, trivial⟩
  | clearBinding channel => exact below
  | setChannelCalibration channel value => exact below

/-- The entries of a successful start are in sync with its file. -/
theorem start_inSync {J : JsonC} {count : Nat} {file : ConfigFile} {s : Linux}
    (started : start J allDone count file = .bound s (.returned .success)) :
    (linuxStored J count).Loaded s ∧ (linuxStored J count).InSync s := by
  by_cases positive : 0 < count
  · obtain ⟨d, object, holds⟩ := holds_of_start positive started
    obtain ⟨loaded, readable⟩ := start_success object holds (allDone_needed d count) started
    exact loaded_of_start loaded readable
  · obtain rfl : count = 0 := by omega
    have same : fresh file (Tables.zeroed 0) = s := congrArg Prod.fst (start_bound.mp started)
    rw [← same]
    exact ⟨⟨Tables.zeroed_sized 0, fun negative => absurd negative positive⟩,
      fun _ negative => absurd negative (Nat.not_lt_zero _)⟩

/-- After any calls the next start succeeds and obtains what the process had. -/
theorem linux_restart_restores (J : JsonC) {count : Nat} {file : ConfigFile} {s : Linux}
    (started : start J allDone count file = .bound s (.returned .success))
    (calls : List Call) (below : ∀ call ∈ calls, call.channel < count) :
    ∃ s', start J allDone count (Runs.run (linuxApi J).after s calls).file =
        .bound s' (.returned .success) ∧
      ∀ channel < count,
        s'.tables.calibration channel =
            (Runs.run (linuxApi J).after s calls).tables.calibration channel ∧
          (¬ LastCleared channel calls → s'.tables.callback channel =
            (Runs.run (linuxApi J).after s calls).tables.callback channel) := by
  obtain ⟨loaded, synced⟩ := start_inSync started
  have admissible : ∀ call ∈ calls,
      Call.Admissible (linuxStored J count).count (linuxStored J count).fits call :=
    fun call member => admissible_of_below (below call member)
  have finalLoaded := (StoredReader.run_cells loaded admissible).1
  obtain ⟨s', restarted, -, -, decoded⟩ := restart_loads finalLoaded allDone
  refine ⟨s', restarted, fun channel inside => ⟨?_, fun kept => ?_⟩⟩
  · have calibration :=
      StoredReader.run_calibration_inSync loaded admissible (synced channel inside).2
    exact (decoded channel inside).2.trans calibration.symm
  · have binding := StoredReader.run_binding_inSync loaded admissible (synced channel inside).1 kept
    exact (decoded channel inside).1.trans binding.symm

/-- The state after the first start of a one-channel panel. -/
def firstStart : Linux where
  rootObject := some (.object [("channel0", .string Source.Names.unallocated.units),
    ("calibration0", .int 128)])
  file := .text (some (.object [("channel0", .string Source.Names.unallocated.units),
    ("calibration0", .int 128)]))
  tables := ⟨[none], [128]⟩

/-- Binding the only channel and recalibrating it, from no file at all. -/
def bindAndCalibrate : List Call :=
  [.setChannelSourceBinding 0 Source.Names.calibration, .setChannelCalibration 0 5]

theorem linux_restart_restores_bound_channel :
    ∃ s', start plain allDone 1 (Runs.run (linuxApi plain).after firstStart bindAndCalibrate).file =
        .bound s' (.returned .success) ∧
      ∀ channel < 1,
        s'.tables.calibration channel =
            (Runs.run (linuxApi plain).after firstStart bindAndCalibrate).tables.calibration
              channel ∧
          (¬ LastCleared channel bindAndCalibrate → s'.tables.callback channel =
            (Runs.run (linuxApi plain).after firstStart bindAndCalibrate).tables.callback
              channel) := by
  have started : start plain allDone 1 .absent = .bound firstStart (.returned .success) := rfl
  have below : ∀ call ∈ bindAndCalibrate, call.channel < 1 := by
    intro call member
    simp only [bindAndCalibrate, List.mem_cons, List.not_mem_nil, or_false] at member
    rcases member with rfl | rfl <;> decide
  exact linux_restart_restores plain started bindAndCalibrate below

end PerformancePanel.Guarantees.LinuxRestart

import PerformancePanel.Settings.WindowsStored

/-!
# Windows restart round trip

From an empty key, any calls on channels below the count leave values from which the
next process obtains the same calibrations and, for every channel not cleared last, the
same callback, whatever the local buffers held. The query limit of 32 bytes falls behind
the longest known name, so longer names lose nothing but themselves. The byte count of
the setter is a `DWORD`: a name of 2^31 characters or more is stored cut, and can be cut
to a known name.
-/
set_option autoImplicit false

namespace PerformancePanel.Guarantees.WindowsRestart
open Source Source.Common Source.Collector Source.DataSourceInterface Source.Registry
open Source.WindowsReader Source.WindowsLoad Settings Settings.WindowsStored Library

def emptyKey : RegistryKey := fun _ => none

/-- A running process whose stored values a later start reads as they are. -/
structure Restorable (nvidiaGpuFound : Bool) (count : Nat) (s : Windows) : Prop where
  loaded : (windowsStored nvidiaGpuFound count).Loaded s
  synced : (windowsStored nvidiaGpuFound count).InSync s
  restartable : ∀ c < count, Restartable nvidiaGpuFound (s.registry (channelKey c))
  dwords : ∀ c < count, ∃ w, s.registry (calibrationKey c) = some (dword w)

theorem start_restorable {nvidiaGpuFound : Bool} {count : Nat} {envs : Nat → RegistryEnv}
    (succeeds : ∀ c < count, EnvSucceeds (envs c)) {s : Windows}
    (started : start nvidiaGpuFound envs count emptyKey = .bound s (.returned .success)) :
    Restorable nvidiaGpuFound count s := by
  have empty : ∀ c < count, Terminated (emptyKey (channelKey c)) := fun _ _ _ same => by cases same
  have loaded := start_loaded succeeds empty started
  obtain ⟨isLoaded, callbacks⟩ := loaded_of_start loaded
  have stored : ∀ c < count, s.registry (calibrationKey c) =
    some (dword (s.tables.calibration c)) :=
    fun c below => ((loaded.calibrated c below).2 rfl).2
  refine ⟨isLoaded, fun c below => ⟨callbacks c below, ?_⟩, fun c below =>
    (loaded.named c below).2.1, fun c below => ⟨_, stored c below⟩⟩
  show s.tables.calibration c = lowByte ((s.registry (calibrationKey c)).getD [])
  rw [stored c below]
  rfl

/-- After any calls the next start succeeds and obtains what the process had. -/
theorem windows_restart_restores (nvidiaGpuFound : Bool) {count : Nat}
    {envs envs' : Nat → RegistryEnv}
    (succeeds : ∀ c < count, EnvSucceeds (envs c)) (succeeds' : ∀ c < count, EnvSucceeds (envs' c))
    {s : Windows}
    (started : start nvidiaGpuFound envs count emptyKey = .bound s (.returned .success))
    (calls : List Call) (admissible : ∀ call ∈ calls, Call.Admissible count Fits call) :
    ∃ s', start nvidiaGpuFound envs' count
          (Runs.run (windowsApi nvidiaGpuFound).after s calls).registry =
        .bound s' (.returned .success) ∧
      ∀ channel < count,
        s'.tables.calibration channel =
            (Runs.run (windowsApi nvidiaGpuFound).after s calls).tables.calibration channel ∧
          (¬ LastCleared channel calls → s'.tables.callback channel =
            (Runs.run (windowsApi nvidiaGpuFound).after s calls).tables.callback channel) := by
  have first := start_restorable succeeds started
  have restartable : ∀ c < count, Restartable nvidiaGpuFound
      ((Runs.run (windowsApi nvidiaGpuFound).after s calls).registry (channelKey c)) :=
    fun c below => StoredReader.run_storedBinding (P := Restartable nvidiaGpuFound) first.loaded
      admissible (first.restartable c below) fun name fits => by
        show Restartable nvidiaGpuFound (some (stored name))
        rw [stored_whole fits.1 fits.2]
        exact restartable_bytes nvidiaGpuFound name
  have dwords : ∀ c < count, ∃ w,
      (Runs.run (windowsApi nvidiaGpuFound).after s calls).registry (calibrationKey c) =
        some (dword w) :=
    fun c below => StoredReader.run_storedCalibration
      (P := fun value => ∃ w, value = some (dword w))
      first.loaded admissible (first.dwords c below) fun value => ⟨value, rfl⟩
  obtain ⟨s', restarted, loaded⟩ := start_loads nvidiaGpuFound succeeds'
    fun c below => (restartable c below).terminated
  refine ⟨s', restarted, fun channel below => ⟨?_, fun kept => ?_⟩⟩
  · have synced := StoredReader.run_calibration_inSync first.loaded admissible
      (first.synced channel below).2
    obtain ⟨w, stored⟩ := dwords channel below
    have decoded : (Runs.run (windowsApi nvidiaGpuFound).after s calls).tables.calibration channel =
        lowByte (((Runs.run (windowsApi nvidiaGpuFound).after s calls).registry
          (calibrationKey channel)).getD []) := synced
    rw [decoded, stored, ((loaded.calibrated channel below).1 w stored).1]
    rfl
  · have synced := StoredReader.run_binding_inSync first.loaded admissible
      (first.synced channel below).1 kept
    rw [(loaded.named channel below).2.2, (restartable channel below).source]
    exact synced.symm

/-- Calls into a key that opens and accepts everything, buffers all zero. -/
def quietEnv (_channel : Nat) : RegistryEnv where
  openLocalMachine := true
  openCurrentUser := true
  keyValueBuffer := List.replicate 64 0
  undefinedData := []
  setName := true
  setCalibration := true

theorem quietEnv_succeeds (count : Nat) : ∀ c < count, EnvSucceeds (quietEnv c) :=
  fun _ _ => ⟨rfl, rfl, rfl⟩

/-- The longest known name fills the query limit; one more character is replaced. -/
def boundaryNames : List Call :=
  [.setChannelSourceBinding 0 Names.cpuTemperature,
    .setChannelSourceBinding 1 ⟨text "CPU Temperatures", by decide⟩, .setChannelCalibration 1 200]

theorem windows_restart_restores_boundaryNames :
    ∃ s, start true quietEnv 2 emptyKey = .bound s (.returned .success) ∧
      ∃ s', start true quietEnv 2 (Runs.run (windowsApi true).after s boundaryNames).registry =
          .bound s' (.returned .success) ∧
        ∀ channel < 2,
          s'.tables.calibration channel =
              (Runs.run (windowsApi true).after s boundaryNames).tables.calibration channel ∧
            (¬ LastCleared channel boundaryNames → s'.tables.callback channel =
              (Runs.run (windowsApi true).after s boundaryNames).tables.callback channel) := by
  have empty : ∀ c < 2, Terminated (emptyKey (channelKey c)) := fun _ _ _ same => by cases same
  obtain ⟨s, started, _⟩ := start_loads true (quietEnv_succeeds 2) empty
  have admissible : ∀ call ∈ boundaryNames, Call.Admissible 2 Fits call := by
    intro call member
    simp only [boundaryNames, List.mem_cons, List.not_mem_nil, or_false] at member
    rcases member with rfl | rfl | rfl
    · exact ⟨by decide, by decide, by decide⟩
    · exact ⟨by decide, by decide, by decide⟩
    · exact (by decide : 1 < 2)
  exact ⟨s, started, windows_restart_restores true (quietEnv_succeeds 2)
    (quietEnv_succeeds 2) started boundaryNames admissible⟩

/-! ## Names beyond the byte count -/

/-- The calibration name with more characters behind it. -/
def paddedName (padding : Nat) : Name where
  units := Names.calibration.units ++ List.replicate padding 65
  nulFree := by
    intro member
    rcases List.mem_append.mp member with inside | outside
    · exact Names.calibration.nulFree inside
    · exact absurd (List.mem_replicate.mp outside).2 (by decide)

/-- A padding of a multiple of 2^31 characters vanishes in the byte count. -/
theorem stored_padded {padding : Nat} (wraps : padding * 2 % 2 ^ 32 = 0) :
    stored (paddedName padding) = stored Names.calibration := by
  have length : (paddedName padding).units.length = 11 + padding := by
    rw [paddedName, List.length_append, List.length_replicate]
    rfl
  have count : (stringByteCount (paddedName padding)).toNat = 22 := by
    simp only [stringByteCount, UInt32.toNat_mul, UInt32.toNat_ofNat', length]
    show (11 + padding) % 2 ^ 32 * 2 % 2 ^ 32 = 22
    omega
  have kept : (bytes ((paddedName padding).units ++ [0])).take 22 =
    bytes Names.calibration.units := by
    rw [paddedName, List.append_assoc, bytes_append]
    exact List.take_left' (by decide)
  have whole : (bytes (Names.calibration.units ++ [0])).take 22 =
    bytes Names.calibration.units := by
    rw [bytes_append]
    exact List.take_left' (by decide)
  have shortCount : (stringByteCount Names.calibration).toNat = 22 := by decide
  simp only [stored, storedString, count, shortCount, kept, whole]

/-- Set on the only channel, a padded name shows no source, and the next start shows the
calibration source. -/
theorem padded_name_restarts_as_calibration :
    ∃ s s', start true quietEnv 1 emptyKey = .bound s (.returned .success) ∧
      start true quietEnv 1 (Runs.run (windowsApi true).after s
          [.setChannelSourceBinding 0 (paddedName (2 ^ 31))]).registry =
        .bound s' (.returned .success) ∧
      ¬ LastCleared 0 [.setChannelSourceBinding 0 (paddedName (2 ^ 31))] ∧
      s'.tables.callback 0 ≠ (Runs.run (windowsApi true).after s
        [.setChannelSourceBinding 0 (paddedName (2 ^ 31))]).tables.callback 0 := by
  generalize name : paddedName (2 ^ 31) = padded
  have empty : ∀ c < 1, Terminated (emptyKey (channelKey c)) := fun _ _ _ same => by cases same
  obtain ⟨s, started, loaded⟩ := start_loads true (quietEnv_succeeds 1) empty
  have isOpen : s.opened = true := loaded.opened (by decide)
  have result : Runs.run (windowsApi true).after s [.setChannelSourceBinding 0 padded] =
      { s with
        registry := regSetValueEx s.registry (channelKey 0) (stored padded)
        tables := s.tables.setCallback 0 (nameStringToCallback true padded) } :=
    congrArg Prod.fst (setChannelSourceBinding_opened isOpen true 0 padded)
  have cut : stored padded = bytes (Names.calibration.units ++ [0]) := by
    rw [← name, stored_padded (by decide)]
    exact stored_whole (by decide) (by decide)
  have long : ¬ padded.units.length ≤ 15 := by
    rw [← name, paddedName, List.length_append, List.length_replicate]
    omega
  have terminated : ∀ c < 1, Terminated
      (regSetValueEx s.registry (channelKey 0) (stored padded) (channelKey c)) := by
    intro c below
    have zero : c = 0 := by omega
    rw [zero, regSetValueEx_self, cut]
    exact terminated_bytes Names.calibration
  obtain ⟨s', restarted, again⟩ :=
    start_loads true (quietEnv_succeeds 1) terminated
  refine ⟨s, s', started, by rw [result]; exact restarted, ?_, ?_⟩
  · intro cleared
    cases cleared
  · rw [result, (again.named 0 (by decide)).2.2, regSetValueEx_self, cut,
      callback_of_bytes]
    dsimp only
    rw [Tables.callback_setCallback_self loaded.sized (by decide),
      nameStringToCallback_long true long]
    decide

end PerformancePanel.Guarantees.WindowsRestart

import PerformancePanel.Library.Runs
import PerformancePanel.Source.FrontEnds
import PerformancePanel.Source.Tick

/-!
# Startup safety

The Qt program checks both statuses, so no startup failure reaches a transfer or a tick.
The console and MFC programs check none: a failed `open_device` is followed by the query,
and a failed allocation of the callbacks by a read through NULL once the panel reports a
channel. A failed allocation of the calibrations alone is harmless, every callback then
being NULL.
-/
set_option autoImplicit false

namespace PerformancePanel.Guarantees.StartupSafety
open Source.Common Source.DataSources Source.Collector Source.PanelSetup Source.FrontEnds
open Source Library.Runs

/-- The property of one state: transfers only with an opened device, no access outside
the arrays, and every allocated array of length `channel_count`. -/
structure Safe (p : Program) : Prop where
  opened : p.transfers ≠ [] → p.deviceOpened = true
  inside : p.faulted = false
  callbacks : ∀ block, p.arrays.callbacks = some block → block.length = p.channelCount.toNat
  calibrations : ∀ block, p.arrays.calibrations = some block → block.length = p.channelCount.toNat

/-- The query succeeded with a raw reply of at least one channel. -/
def ReportsChannels (env : Startup) : Prop :=
  env.queryStatus = .success ∧ env.queryReply &&& voltmeterChannelReportRawValue ≠ 0 ∧
    env.queryReply &&& ~~~voltmeterChannelReportRawValue ≠ 0

/-! ## Ticks -/

/-- Each entry can be read, and its calibration where the entry is bound. -/
def Readable (arrays : Arrays) (count : Nat) : Prop :=
  ∀ i < count, ∃ callback, load arrays.callbacks i = some callback ∧
    (callback ≠ none → ∃ value, load arrays.calibrations i = some value)

/-- A tick of readable arrays returns, whatever the transfers do. -/
theorem mainLoopFrom_returns (env : TickEnv) {arrays : Arrays} {count : Nat}
    (readable : Readable arrays count) {remaining i : Nat} (here : i + remaining = count)
    (last : SystemTimes) :
    ∃ status, (mainLoopFrom env arrays remaining i last).outcome = .returned status := by
  induction remaining generalizing i last with
  | zero => exact ⟨.success, rfl⟩
  | succ remaining ih =>
    obtain ⟨callback, loaded, calibrated⟩ := readable i (by omega)
    cases callback with
    | none =>
      simp only [mainLoopFrom, loaded]
      exact ih (by omega) last
    | some source =>
      obtain ⟨value, calibration⟩ := calibrated (by simp)
      simp only [mainLoopFrom, loaded, calibration]
      split
      · exact ih (by omega) _
      · exact ⟨env.transfer i, rfl⟩

/-- What every run keeps. -/
structure Sound (p : Program) : Prop where
  safe : Safe p
  opened : p.running = true → p.deviceOpened = true
  readable : p.running = true → Readable p.arrays p.channelCount.toNat

theorem tick_sound (frontEnd : FrontEnd) (env : TickEnv) {p : Program} (sound : Sound p)
    (running : p.running = true) : Sound (tick frontEnd env p) := by
  obtain ⟨status, returned⟩ :=
    mainLoopFrom_returns env (sound.readable running) (Nat.zero_add _) p.lastTimes
  have inside : (tick frontEnd env p).faulted = false := by
    show isFault (mainLoopFrom env p.arrays p.channelCount.toNat 0 p.lastTimes).outcome = false
    rw [returned]
    rfl
  have opened : p.deviceOpened = true := sound.opened running
  have readable : Readable p.arrays p.channelCount.toNat := sound.readable running
  exact ⟨⟨fun _ => opened, inside, sound.safe.callbacks, sound.safe.calibrations⟩,
    fun _ => opened, fun _ => readable⟩

theorem leave_sound (frontEnd : FrontEnd) {p : Program} (sound : Sound p)
    (running : p.running = true) : Sound (leave frontEnd p) := by
  have opened : p.deviceOpened = true := sound.opened running
  cases frontEnd
  all_goals
    exact ⟨⟨fun _ => opened, sound.safe.inside, sound.safe.callbacks, sound.safe.calibrations⟩,
      fun _ => opened, fun _ => sound.readable running⟩

theorem step_sound (frontEnd : FrontEnd) (p : Program) (e : Event) (sound : Sound p) :
    Sound (step frontEnd p e) := by
  unfold step
  split
  next running =>
    cases e with
    | tick env => exact tick_sound frontEnd env sound running
    | leave => exact leave_sound frontEnd sound running
  next => exact sound

/-! ## Startup -/

theorem readable_of_sized {t : Tables} {count : Nat} (sized : t.Sized count) :
    Readable t.arrays count := by
  intro i below
  exact ⟨_, Tick.load_callbacks sized below, fun _ => ⟨_, Tick.load_calibrations sized below⟩⟩

/-- Allocated callbacks are enough for a tick: without calibrations all are NULL. -/
theorem initializeArrays_readable {env : Startup} (channelCount : UInt8)
    (callbacks : env.callbacksAllocated = true) :
    Readable (initializeArrays env.toSetup channelCount).1 channelCount.toNat := by
  cases calibrations : env.calibrationsAllocated with
  | true =>
    obtain ⟨t, arrays, sized⟩ := initializeArrays_allocated channelCount callbacks calibrations
    rw [arrays]
    exact readable_of_sized sized
  | false =>
    rw [initializeArrays_unallocated channelCount (by rw [callbacks, calibrations]; rfl)]
    intro i below
    refine ⟨none, ?_, fun bound => absurd rfl bound⟩
    simp [load, callbacks, Tables.zeroed, below]

/-- A query that returns a positive count was answered with one. -/
theorem reports_of_count {env : Startup} {channelCount : UInt8}
    (returned : env.channelCount = some channelCount)
    (positive : channelCount ≠ 0) : ReportsChannels env := by
  rw [Setup.channelCount_eq] at returned
  split at returned
  next raw =>
    rw [Option.some.injEq] at returned
    subst returned
    by_cases answered : env.queryStatus = .success
    · rw [if_pos answered] at positive
      exact ⟨answered, by simpa using raw, positive⟩
    · rw [if_neg answered] at positive
      exact absurd rfl positive
  next =>
    split at returned
    · cases returned
    · exact absurd (Option.some.inj returned).symm positive

theorem count_of_reports {env : Startup} (reports : ReportsChannels env) :
    env.channelCount =
      some (env.queryReply &&& ~~~voltmeterChannelReportRawValue) := by
  rw [Setup.channelCount_eq, if_pos (by simpa using reports.2.1), if_pos reports.1]

/-- A program that never set its timer has nothing to tick on. -/
theorem sound_of_idle {p : Program} (opened : p.transfers ≠ [] → p.deviceOpened = true)
    (idle : p.running = false) (inside : p.faulted = false) (arrays : p.arrays = ⟨none, none⟩) :
    Sound p := by
  have absurdRunning (running : p.running = true) : False := by
    rw [idle] at running
    cases running
  refine ⟨⟨opened, inside, ?_, ?_⟩, fun running => (absurdRunning running).elim,
    fun running => (absurdRunning running).elim⟩
  · intro block found
    rw [arrays] at found
    cases found
  · intro block found
    rw [arrays] at found
    cases found

/-- A program that opened the device is sound when it proceeds with readable arrays only. -/
theorem queryAndInitialize_sound {env : Startup} {proceeds : Outcome → Bool}
    (opened : env.openDevice = .success)
    (readable : ∀ channelCount,
      env.channelCount = some channelCount →
      proceeds (initializeArrays env.toSetup channelCount).2 = true →
      Readable (initializeArrays env.toSetup channelCount).1 channelCount.toNat) :
    Sound (queryAndInitialize env proceeds) := by
  unfold queryAndInitialize
  cases query : env.channelCount with
  | none => exact sound_of_idle (fun _ => decide_eq_true opened) rfl rfl rfl
  | some channelCount =>
    have lengths := initializeArrays_lengths env.toSetup channelCount
    exact ⟨⟨fun _ => decide_eq_true opened, rfl, lengths.1, lengths.2⟩,
      fun _ => decide_eq_true opened, readable channelCount query⟩

/-- Proceeding with an opened device is harmless when a reporting panel finds its
callbacks allocated. -/
theorem readable_of_condition {env : Startup}
    (allocated : ReportsChannels env → env.callbacksAllocated = true) (channelCount : UInt8)
    (query : env.channelCount = some channelCount) :
    Readable (initializeArrays env.toSetup channelCount).1 channelCount.toNat := by
  by_cases empty : channelCount = 0
  · intro i below
    rw [empty] at below
    exact absurd below (Nat.not_lt_zero i)
  · exact initializeArrays_readable channelCount (allocated (reports_of_count query empty))

theorem qtMain_sound (env : Startup) : Sound (qtMain env) := by
  unfold qtMain
  split
  next opened =>
    refine queryAndInitialize_sound opened fun channelCount _ proceeds => ?_
    have success : (initializeArrays env.toSetup channelCount).2 = .returned .success := by
      simpa using proceeds
    exact initializeArrays_readable channelCount (allocated_of_success success)
  next => exact sound_of_idle (fun sent => absurd rfl sent) rfl rfl rfl

/-- A program other than Qt always proceeds. -/
theorem start_other {frontEnd : FrontEnd} (other : frontEnd ≠ .qt) (env : Startup) :
    start frontEnd env = queryAndInitialize env fun _ => true := by
  cases frontEnd with
  | consoleUnix => rfl
  | consoleWindows => rfl
  | mfc => rfl
  | qt => exact absurd rfl other

/-! ## The two failures -/

/-- The query is sent even when the device was not opened. -/
theorem queryAndInitialize_opened {env : Startup} {proceeds : Outcome → Bool}
    (safe : Safe (queryAndInitialize env proceeds)) : env.openDevice = .success := by
  unfold queryAndInitialize at safe
  split at safe
  · exact of_decide_eq_true (safe.opened (List.cons_ne_nil _ _))
  · exact of_decide_eq_true (safe.opened (List.cons_ne_nil _ _))

/-- The first tick of a reporting panel reads through NULL. -/
theorem first_tick_faults {env : Startup} (reports : ReportsChannels env)
    (failed : env.callbacksAllocated = false) (frontEnd : FrontEnd) (tickEnv : TickEnv) :
    (step frontEnd (queryAndInitialize env fun _ => true) (.tick tickEnv)).faulted = true := by
  have positive : 0 < (env.queryReply &&& ~~~voltmeterChannelReportRawValue).toNat := by
    apply Nat.pos_of_ne_zero
    intro zero
    exact reports.2.2 (UInt8.toNat.inj zero)
  obtain ⟨remaining, count⟩ := Nat.exists_eq_succ_of_ne_zero positive.ne'
  have unallocated : (env.callbacksAllocated && env.calibrationsAllocated) = false := by
    rw [failed]
    rfl
  have arrays := initializeArrays_unallocated
    (env.queryReply &&& ~~~voltmeterChannelReportRawValue) unallocated
  simp only [queryAndInitialize, count_of_reports reports, step, if_true, tick,
    mainLoopCallback, arrays, count, failed, Bool.false_eq_true, if_false]
  rfl

/-- Every run of a program is safe exactly when it is the Qt program, or its device was
opened and a panel that reports channels found the callbacks allocated. -/
theorem startup_safe_iff (frontEnd : FrontEnd) (env : Startup) :
    (∀ events, AllReached (step frontEnd) Safe (start frontEnd env) events) ↔
      frontEnd = .qt ∨
        (env.openDevice = .success ∧ (ReportsChannels env → env.callbacksAllocated = true)) := by
  constructor
  · intro safe
    by_cases qt : frontEnd = .qt
    · exact .inl qt
    · rw [start_other qt] at safe
      refine .inr ⟨queryAndInitialize_opened (safe []).first, fun reports => ?_⟩
      by_contra failed
      rw [Bool.not_eq_true] at failed
      let tickEnv : TickEnv := ⟨fun _ => ⟨none, none, none, none, 0⟩, fun _ => .success⟩
      have faulted := first_tick_faults reports failed frontEnd tickEnv
      have inside := (safe [.tick tickEnv]).last.inside
      rw [run_cons, run_nil, faulted] at inside
      cases inside
  · intro condition events
    have started : Sound (start frontEnd env) := by
      by_cases qt : frontEnd = .qt
      · rw [qt]
        exact qtMain_sound env
      · obtain ⟨opened, allocated⟩ := condition.resolve_left qt
        rw [start_other qt]
        exact queryAndInitialize_sound opened fun channelCount query _ =>
          readable_of_condition allocated channelCount query
    have sound := allReached_of_invariant (step_sound frontEnd) started events
    exact sound.mono fun _ reached => reached.safe

/-- One channel reported, the callbacks not allocated. -/
def noCallbacks : Startup where
  openDevice := .success
  queryStatus := .success
  queryReply := 0x81
  fuel := 0
  callbacksAllocated := false
  calibrationsAllocated := true
  boundCall := fun _ => ⟨none, none, .success⟩

/-- No device found, and a query that fails. -/
def noDevice : Startup :=
  { noCallbacks with openDevice := .deviceNotFound, queryStatus := .transferFailed }

/-- Without a device all three programs that ignore the status issue the query; without
callbacks their first tick reads outside the arrays. -/
theorem ignored_failures_unsafe :
    (∀ frontEnd, frontEnd ≠ .qt → ¬ Safe (start frontEnd noDevice)) ∧
      ¬ (∀ events, AllReached (step .mfc) Safe (start .mfc noCallbacks) events) := by
  refine ⟨fun frontEnd other safe => ?_, fun safe => ?_⟩
  · rw [start_other other] at safe
    cases queryAndInitialize_opened safe
  · let tickEnv : TickEnv := ⟨fun _ => ⟨none, none, none, none, 0⟩, fun _ => .success⟩
    have inside := (safe [.tick tickEnv]).last.inside
    cases inside

end PerformancePanel.Guarantees.StartupSafety

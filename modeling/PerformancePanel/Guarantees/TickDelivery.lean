import PerformancePanel.Source.FrontEnds
import PerformancePanel.Source.Tick

/-!
# What one tick delivers

`main_loop_callback` walks the bound channels upwards and stops at the first transfer
that fails. Each packet it issues names its channel in the high byte of `wValue` and
carries the reading scaled by the calibration in the low byte.
-/
set_option autoImplicit false

namespace PerformancePanel.Guarantees.TickDelivery
open Source.Common Source.DataSources Source.Collector Source.Tick

/-- The issued entries and the status are those of a walk over `bound`: all of it when
every transfer succeeds, else up to and including the first one that fails. -/
inductive Delivered (transfer : Nat → Status) (bound : List (Nat × DataSource)) :
    List (Nat × DataSource) → Outcome → Prop
  | all (ok : ∀ entry ∈ bound, transfer entry.1 = .success) :
    Delivered transfer bound bound (.returned .success)
  | cut (earlier : List (Nat × DataSource)) (entry : Nat × DataSource)
      (later : List (Nat × DataSource)) (split : bound = earlier ++ entry :: later)
      (ok : ∀ e ∈ earlier, transfer e.1 = .success) (failed : transfer entry.1 ≠ .success) :
    Delivered transfer bound (earlier ++ [entry]) (.returned (transfer entry.1))

/-- What the two bytes of a packet say. -/
structure Carries (packet : ControlTransfer) (channel : Nat) (reading calibration : UInt8) :
    Prop where
  command : packet.command = .setUsage
  channel : packet.channel.toNat = channel
  level : packet.level.toNat = reading.toNat * calibration.toNat / 256
  notAboveReading : packet.level ≤ reading
  belowCalibration : calibration ≠ 0 → packet.level < calibration

/-! ## The walk -/

/-- A successful first transfer extends the walk over the rest. -/
theorem Delivered.cons {transfer : Nat → Status} {bound sent : List (Nat × DataSource)}
    {outcome : Outcome} (entry : Nat × DataSource) (ok : transfer entry.1 = .success)
    (rest : Delivered transfer bound sent outcome) :
    Delivered transfer (entry :: bound) (entry :: sent) outcome := by
  cases rest with
  | all others =>
    refine .all fun e member => ?_
    rcases List.mem_cons.mp member with rfl | later
    · exact ok
    · exact others e later
  | cut earlier last later split others failed =>
    refine .cut (entry :: earlier) last later (by rw [split]; rfl) (fun e member => ?_) failed
    rcases List.mem_cons.mp member with rfl | inside
    · exact ok
    · exact others e inside

/-- The status is success exactly when no issued transfer failed. -/
theorem Delivered.success_iff {transfer : Nat → Status} {bound sent : List (Nat × DataSource)}
    {outcome : Outcome} (delivered : Delivered transfer bound sent outcome) :
    outcome = .returned .success ↔ ∀ entry ∈ sent, transfer entry.1 = .success := by
  cases delivered with
  | all ok => exact ⟨fun _ => ok, fun _ => rfl⟩
  | cut earlier entry later split ok failed =>
    constructor
    · intro success
      rw [Outcome.returned.injEq] at success
      exact absurd success failed
    · intro allOk
      exact absurd (allOk entry (by simp)) failed

theorem reached_delivered (env : TickEnv) (bound : List (Nat × DataSource)) :
    Delivered env.transfer bound (reached env bound) (.returned (finalStatus env bound)) := by
  induction bound with
  | nil => exact .all fun _ absent => absurd absent List.not_mem_nil
  | cons entry rest ih =>
    obtain ⟨channel, source⟩ := entry
    simp only [reached, finalStatus]
    by_cases ok : env.transfer channel = .success
    · rw [if_pos ok, if_pos ok]
      exact ih.cons (channel, source) ok
    · rw [if_neg ok, if_neg ok]
      exact .cut [] (channel, source) rest rfl (fun _ absent => absurd absent List.not_mem_nil) ok

/-- The walk goes upwards: no channel twice. -/
theorem boundFrom_ascending (t : Tables) (remaining i : Nat) :
    ((boundFrom t remaining i).map Prod.fst).Pairwise (· < ·) := by
  induction remaining generalizing i with
  | zero => exact List.Pairwise.nil
  | succ remaining ih =>
    rw [boundFrom_succ]
    cases t.callback i with
    | none => exact ih (i + 1)
    | some source =>
      refine List.pairwise_cons.mpr ⟨fun channel member => ?_, ih (i + 1)⟩
      obtain ⟨entry, inside, rfl⟩ := List.mem_map.mp member
      have range : i + 1 ≤ entry.1 := ((mem_boundFrom t).mp inside).1.1
      exact range

/-! ## One packet -/

theorem packetFor_carries (env : TickEnv) (t : Tables) (last : SystemTimes) (source : DataSource)
    {channel : Nat} (small : channel < 256) :
    Carries (packetFor env t last source channel) channel (readingFor env t last source channel)
      (t.calibration channel) where
  command := rfl
  channel := packetFor_channel small
  level := by rw [packetFor_level, calibrated_toNat]
  notAboveReading := by
    rw [packetFor_level]
    exact calibrated_le_reading _ _
  belowCalibration := fun nonzero => by
    rw [packetFor_level]
    exact calibrated_lt_calibration _ nonzero

/-! ## One tick -/

/-- One call of `main_loop_callback` on two blocks of length `channel_count`: the bound
channels upwards through the first failing transfer, one packet each, and nothing else;
the level is monotone in reading and calibration, and no program's tick writes an array. -/
theorem tick_delivers (env : TickEnv) {channelCount : UInt8} {t : Tables}
    (sized : t.Sized channelCount.toNat) (last : SystemTimes) :
    ∃ bound sent : List (Nat × DataSource),
      (∀ channel source, (channel, source) ∈ bound ↔
        channel < channelCount.toNat ∧ t.callback channel = some source) ∧
      (bound.map Prod.fst).Pairwise (· < ·) ∧
      Delivered env.transfer bound sent (mainLoopCallback env channelCount t.arrays last).outcome ∧
      ((mainLoopCallback env channelCount t.arrays last).outcome = .returned .success ↔
        ∀ entry ∈ sent, env.transfer entry.1 = .success) ∧
      (mainLoopCallback env channelCount t.arrays last).transfers =
        sent.map (fun entry => packetFor env t last entry.2 entry.1) ∧
      (∀ entry ∈ sent, Carries (packetFor env t last entry.2 entry.1) entry.1
        (readingFor env t last entry.2 entry.1) (t.calibration entry.1)) ∧
      (∀ channel reading reading' calibration calibration' : UInt8, reading ≤ reading' →
        calibration ≤ calibration' →
        (sendUsage channel (calibrated reading calibration)).level ≤
          (sendUsage channel (calibrated reading' calibration')).level) ∧
      ∀ frontEnd p, p.arrays = t.arrays →
        (Source.FrontEnds.tick frontEnd env p).arrays = t.arrays := by
  have delivered : Delivered env.transfer (boundFrom t channelCount.toNat 0)
      (reached env (boundFrom t channelCount.toNat 0))
      (mainLoopCallback env channelCount t.arrays last).outcome := by
    rw [mainLoopCallback_outcome sized]
    exact reached_delivered env _
  refine ⟨_, _, fun channel source => ?_, boundFrom_ascending t _ 0, delivered,
    delivered.success_iff, mainLoopCallback_transfers sized, fun entry issued => ?_, ?_,
    fun _ _ same => same⟩
  · rw [mem_boundFrom, Nat.zero_add]
    exact and_congr_left fun _ => and_iff_right (Nat.zero_le channel)
  · have inside := ((mem_boundFrom t).mp (reached_subset issued)).1
    have count := channelCount.toNat_lt
    exact packetFor_carries env t last entry.2 (by omega)
  · intro channel reading reading' calibration calibration' readings calibrations
    rw [sendUsage_level, sendUsage_level]
    exact calibrated_mono readings calibrations

/-- Three channels, the middle one unbound. -/
def threeChannels : Tables := ⟨[some .calibration, none, some .ramUtility], [0x80, 0, 200]⟩

/-- The transfer of the last of them fails. -/
def lastFails : TickEnv where
  os := fun _ => ⟨none, some 50, none, none, 0⟩
  transfer := fun channel => if channel = 2 then .transferFailed else .success

theorem tick_delivers_lastFails :
    ∃ bound sent : List (Nat × DataSource),
      Delivered lastFails.transfer bound sent
        (mainLoopCallback lastFails 3 threeChannels.arrays SystemTimes.zero).outcome ∧
      (mainLoopCallback lastFails 3 threeChannels.arrays SystemTimes.zero).transfers =
        sent.map fun entry =>
          packetFor lastFails threeChannels SystemTimes.zero entry.2 entry.1 := by
  have sized : threeChannels.Sized (3 : UInt8).toNat := ⟨rfl, rfl⟩
  obtain ⟨bound, sent, _, _, delivered, _, issued, _⟩ :=
    tick_delivers lastFails sized SystemTimes.zero
  exact ⟨bound, sent, delivered, issued⟩

end PerformancePanel.Guarantees.TickDelivery

import PerformancePanel.Source.Collector

/-!
# What one tick of allocated arrays does

`main_loop_callback` on two blocks of length `channel_count` is described by data of
its inputs alone: the bound channels in ascending order, cut after the first failing
transfer (`reached`), each with the packet its source reading and calibration give
(`packetFor`). The counters a CPU reading is measured against are those of the last
CPU-bound channel below it (`countersBefore`).
-/
set_option autoImplicit false

namespace PerformancePanel.Source.Tick
open Common DataSources Collector

/-! ## Packets and levels -/

theorem sendUsage_value (channel level : UInt8) :
    (sendUsage channel level).value.toNat = channel.toNat * 256 + level.toNat := by
  have hc := channel.toNat_lt
  have hl : level.toNat < 2 ^ 8 := level.toNat_lt
  have fits : channel.toNat <<< 8 < 2 ^ 16 := by
    rw [Nat.shiftLeft_eq]
    omega
  simp only [sendUsage, UInt16.toNat_or, UInt16.toNat_shiftLeft, UInt8.toNat_toUInt16]
  show channel.toNat <<< 8 % 2 ^ 16 ||| level.toNat = _
  rw [Nat.mod_eq_of_lt fits, ← Nat.shiftLeft_add_eq_or_of_lt hl, Nat.shiftLeft_eq]

@[simp] theorem sendUsage_channel (channel level : UInt8) :
    (sendUsage channel level).channel = channel := by
  have hc := channel.toNat_lt
  have hl := level.toNat_lt
  apply UInt8.toNat.inj
  simp only [ControlTransfer.channel, UInt16.toNat_toUInt8, UInt16.toNat_shiftRight,
    sendUsage_value]
  show (channel.toNat * 256 + level.toNat) >>> 8 % 2 ^ 8 = _
  rw [Nat.shiftRight_eq_div_pow]
  omega

@[simp] theorem sendUsage_level (channel level : UInt8) :
    (sendUsage channel level).level = level := by
  have hl := level.toNat_lt
  apply UInt8.toNat.inj
  simp only [ControlTransfer.level, UInt16.toNat_toUInt8, sendUsage_value]
  omega

/-- The level is the reading scaled by the calibration, rounded down. -/
theorem calibrated_toNat (value calibration : UInt8) :
    (calibrated value calibration).toNat = value.toNat * calibration.toNat / 256 := by
  have hv := value.toNat_lt
  have hc := calibration.toNat_lt
  have product : value.toNat * calibration.toNat < 256 * 256 := Nat.mul_lt_mul'' hv hc
  simp only [calibrated, UInt32.toNat_toUInt8, UInt32.toNat_shiftRight, UInt32.toNat_mul,
    UInt8.toNat_toUInt32]
  show (value.toNat * calibration.toNat % 2 ^ 32) >>> 8 % 2 ^ 8 = _
  rw [Nat.shiftRight_eq_div_pow]
  omega

theorem calibrated_le_reading (reading calibration : UInt8) :
    calibrated reading calibration ≤ reading := by
  have bound := calibration.toNat_lt
  have scaled : reading.toNat * calibration.toNat ≤ reading.toNat * 256 :=
    Nat.mul_le_mul_left _ (by omega)
  rw [UInt8.le_iff_toNat_le, calibrated_toNat]
  omega

theorem calibrated_lt_calibration (reading : UInt8) {calibration : UInt8}
    (nonzero : calibration ≠ 0) :
    calibrated reading calibration < calibration := by
  have bound := reading.toNat_lt
  have positive : 0 < calibration.toNat :=
    Nat.pos_of_ne_zero fun zero => nonzero (UInt8.toNat.inj zero)
  have scaled : reading.toNat * calibration.toNat ≤ 255 * calibration.toNat :=
    Nat.mul_le_mul_right _ (by omega)
  rw [UInt8.lt_iff_toNat_lt, calibrated_toNat]
  omega

/-- A higher reading or calibration never shows a lower level. -/
theorem calibrated_mono {reading reading' calibration calibration' : UInt8}
    (readings : reading ≤ reading') (calibrations : calibration ≤ calibration') :
    calibrated reading calibration ≤ calibrated reading' calibration' := by
  rw [UInt8.le_iff_toNat_le] at readings calibrations ⊢
  rw [calibrated_toNat, calibrated_toNat]
  exact Nat.div_le_div_right (Nat.mul_le_mul readings calibrations)

/-! ## The tick as data -/

variable (env : TickEnv) (t : Tables) (last : SystemTimes)

/-- `last_*_time` when the loop arrives at a channel. -/
def countersBefore : Nat → SystemTimes
  | 0 => last
  | channel + 1 =>
    match t.callback channel with
    | some source => (source.read (countersBefore channel) (env.os channel)).2
    | none => countersBefore channel

/-- The byte a bound channel's source returns when the loop arrives at it. -/
def readingFor (source : DataSource) (channel : Nat) : UInt8 :=
  (source.read (countersBefore env t last channel) (env.os channel)).1

def packetFor (source : DataSource) (channel : Nat) : ControlTransfer :=
  sendUsage (UInt8.ofNat channel)
    (calibrated (readingFor env t last source channel) (t.calibration channel))

/-- The bound channels from index `i` on, ascending, with their sources. -/
def boundFrom (remaining i : Nat) : List (Nat × DataSource) :=
  (List.range' i remaining).filterMap fun channel =>
    (t.callback channel).map fun source => (channel, source)

/-- The part of a list of channels up to and including the first failing transfer. -/
def reached : List (Nat × DataSource) → List (Nat × DataSource)
  | [] => []
  | (channel, source) :: rest =>
    if env.transfer channel = .success then (channel, source) :: reached rest
    else [(channel, source)]

/-- The status of the first failing transfer, or success. -/
def finalStatus : List (Nat × DataSource) → Status
  | [] => .success
  | (channel, _) :: rest =>
    if env.transfer channel = .success then finalStatus rest else env.transfer channel

theorem boundFrom_succ (remaining i : Nat) :
    boundFrom t (remaining + 1) i =
      ((t.callback i).map fun source => (i, source)).toList ++ boundFrom t remaining (i + 1) := by
  cases h : t.callback i <;> simp [boundFrom, List.range'_succ, h]

theorem mem_boundFrom {remaining i channel : Nat} {source : DataSource} :
    (channel, source) ∈ boundFrom t remaining i ↔
      (i ≤ channel ∧ channel < i + remaining) ∧ t.callback channel = some source := by
  simp only [boundFrom, List.mem_filterMap, List.mem_range'_1, Option.map_eq_some_iff,
    Prod.mk.injEq]
  constructor
  · rintro ⟨c, inside, s, bound, rfl, rfl⟩
    exact ⟨inside, bound⟩
  · rintro ⟨inside, bound⟩
    exact ⟨channel, inside, source, bound, rfl, rfl⟩

variable {env t last}

@[simp] theorem packetFor_level {source : DataSource} {channel : Nat} :
    (packetFor env t last source channel).level =
      calibrated (readingFor env t last source channel) (t.calibration channel) := by
  rw [packetFor, sendUsage_level]

theorem packetFor_channel {source : DataSource} {channel : Nat} (small : channel < 256) :
    (packetFor env t last source channel).channel.toNat = channel := by
  rw [packetFor, sendUsage_channel, UInt8.toNat_ofNat_of_lt' small]

theorem reached_subset {entries : List (Nat × DataSource)} {entry : Nat × DataSource}
    (h : entry ∈ reached env entries) : entry ∈ entries := by
  induction entries with
  | nil => exact h
  | cons head rest ih =>
    simp only [reached] at h
    split at h
    · rcases List.mem_cons.mp h with rfl | h
      · exact List.mem_cons_self
      · exact List.mem_cons_of_mem _ (ih h)
    · rw [List.mem_singleton.mp h]
      exact List.mem_cons_self

/-- With every transfer succeeding nothing is cut off. -/
theorem reached_all (ok : ∀ channel, env.transfer channel = .success)
    (entries : List (Nat × DataSource)) : reached env entries = entries := by
  induction entries with
  | nil => rfl
  | cons head rest ih => simp [reached, ok, ih]

theorem load_callbacks {count channel : Nat} (sized : t.Sized count) (below : channel < count) :
    load t.arrays.callbacks channel = some (t.callback channel) := by
  have inside : channel < t.callbacks.length := by rw [sized.1]; exact below
  simp [load, Tables.arrays, Tables.callback, inside]

theorem load_calibrations {count channel : Nat} (sized : t.Sized count) (below : channel < count) :
    load t.arrays.calibrations channel = some (t.calibration channel) := by
  have inside : channel < t.calibrations.length := by rw [sized.2]; exact below
  simp [load, Tables.arrays, Tables.calibration, inside]

/-- The loop from index `i` issues the packets of the reached channels and returns
the first failing status; no access leaves a block. -/
theorem mainLoopFrom_spec {count remaining i : Nat} (sized : t.Sized count)
    (here : i + remaining = count) :
    (mainLoopFrom env t.arrays remaining i (countersBefore env t last i)).transfers =
        (reached env (boundFrom t remaining i)).map
          (fun entry => packetFor env t last entry.2 entry.1) ∧
      (mainLoopFrom env t.arrays remaining i (countersBefore env t last i)).outcome =
        .returned (finalStatus env (boundFrom t remaining i)) := by
  induction remaining generalizing i with
  | zero => exact ⟨rfl, rfl⟩
  | succ remaining ih =>
    have below : i < count := by omega
    have next := ih (i := i + 1) (by omega)
    rw [boundFrom_succ]
    simp only [mainLoopFrom, load_callbacks sized below, load_calibrations sized below]
    cases bound : t.callback i with
    | none =>
      have counters : countersBefore env t last (i + 1) = countersBefore env t last i := by
        simp [countersBefore, bound]
      rw [counters] at next
      simpa using next
    | some source =>
      have counters : countersBefore env t last (i + 1) =
          (source.read (countersBefore env t last i) (env.os i)).2 := by
        simp [countersBefore, bound]
      rw [counters] at next
      by_cases sent : env.transfer i = .success
      · simp only [Option.map_some, Option.toList_some, List.cons_append, List.nil_append, reached,
          finalStatus, sent, if_true, List.map_cons]
        exact ⟨by rw [next.1]; rfl, next.2⟩
      · simp only [Option.map_some, Option.toList_some, List.cons_append, List.nil_append, reached,
          finalStatus, if_neg sent, List.map_cons, List.map_nil]
        exact ⟨rfl, trivial⟩

section callback
variable {channelCount : UInt8} (sized : t.Sized channelCount.toNat)
include sized

/-- The packets of one `main_loop_callback`. -/
theorem mainLoopCallback_transfers :
    (mainLoopCallback env channelCount t.arrays last).transfers =
      (reached env (boundFrom t channelCount.toNat 0)).map
        (fun entry => packetFor env t last entry.2 entry.1) :=
  (mainLoopFrom_spec sized (Nat.zero_add _)).1

theorem mainLoopCallback_outcome :
    (mainLoopCallback env channelCount t.arrays last).outcome =
      .returned (finalStatus env (boundFrom t channelCount.toNat 0)) :=
  (mainLoopFrom_spec sized (Nat.zero_add _)).2

/-- Every packet of a tick is the one of a bound channel below the count. -/
theorem mem_transfers {packet : ControlTransfer}
    (h : packet ∈ (mainLoopCallback env channelCount t.arrays last).transfers) :
    ∃ channel source, channel < channelCount.toNat ∧ t.callback channel = some source ∧
      packet = packetFor env t last source channel := by
  rw [mainLoopCallback_transfers sized] at h
  obtain ⟨⟨channel, source⟩, member, rfl⟩ := List.mem_map.mp h
  have bound := (mem_boundFrom t).mp (reached_subset member)
  exact ⟨channel, source, by omega, bound.2, rfl⟩

/-- With every transfer succeeding each bound channel below the count is sent its packet. -/
theorem packet_sent (ok : ∀ channel, env.transfer channel = .success) {channel : Nat}
    {source : DataSource} (below : channel < channelCount.toNat)
    (bound : t.callback channel = some source) :
    packetFor env t last source channel ∈
      (mainLoopCallback env channelCount t.arrays last).transfers := by
  rw [mainLoopCallback_transfers sized, reached_all ok]
  exact List.mem_map.mpr ⟨(channel, source), (mem_boundFrom t).mpr ⟨by omega, bound⟩, rfl⟩

end callback

/-! ## The packets to one channel -/

/-- Those of some packets that address the channel, in their order. -/
def toChannel (channel : Nat) (packets : List ControlTransfer) : List ControlTransfer :=
  packets.filter fun packet => packet.channel.toNat == channel

@[simp] theorem toChannel_append (channel : Nat) (first rest : List ControlTransfer) :
    toChannel channel (first ++ rest) = toChannel channel first ++ toChannel channel rest :=
  List.filter_append first rest

theorem toChannel_cons (channel : Nat) (packet : ControlTransfer) (rest : List ControlTransfer) :
    toChannel channel (packet :: rest) =
      (if packet.channel.toNat = channel then [packet] else []) ++ toChannel channel rest := by
  by_cases here : packet.channel.toNat = channel <;> simp [toChannel, here]

theorem toChannel_preview {channel : Nat} (small : channel < 256) (level : UInt8) :
    toChannel channel [sendUsage (UInt8.ofNat channel) level] =
      [sendUsage (UInt8.ofNat channel) level] := by
  simp [toChannel, UInt8.toNat_ofNat_of_lt' small]

/-- The loop arrives at a channel: every bound channel before it gets its packet through. -/
def Arrives (env : TickEnv) (t : Tables) (channel : Nat) : Prop :=
  ∀ c < channel, t.callback c ≠ none → env.transfer c = .success

instance (env : TickEnv) (t : Tables) (channel : Nat) : Decidable (Arrives env t channel) :=
  inferInstanceAs (Decidable (∀ c < channel, _))

/-- Of a walk over a stretch of channels a channel has its own packet, if it is bound and no
transfer before it fails. -/
theorem reached_toChannel {remaining i channel : Nat} (small : i + remaining ≤ 256) :
    toChannel channel ((reached env (boundFrom t remaining i)).map
        fun entry => packetFor env t last entry.2 entry.1) =
      if (i ≤ channel ∧ channel < i + remaining) ∧
          ∀ c < channel, i ≤ c → t.callback c ≠ none → env.transfer c = .success then
        ((t.callback channel).map fun source => packetFor env t last source channel).toList
      else [] := by
  induction remaining generalizing i with
  | zero =>
    rw [if_neg (by omega)]
    rfl
  | succ remaining ih =>
    -- past `i` the walk is that of the stretch behind it, when `i` lets it through
    have behind (later : channel ≠ i) (through : t.callback i ≠ none → env.transfer i = .success) :
        (((i + 1 ≤ channel ∧ channel < i + 1 + remaining) ∧
            ∀ c < channel, i + 1 ≤ c → t.callback c ≠ none → env.transfer c = .success) ↔
          ((i ≤ channel ∧ channel < i + (remaining + 1)) ∧
            ∀ c < channel, i ≤ c → t.callback c ≠ none → env.transfer c = .success)) := by
      constructor
      · rintro ⟨inside, before⟩
        refine ⟨by omega, fun c low high bound => ?_⟩
        by_cases first : c = i
        · rw [first] at bound ⊢
          exact through bound
        · exact before c low (by omega) bound
      · rintro ⟨inside, before⟩
        exact ⟨by omega, fun c low high bound => before c low (by omega) bound⟩
    have outside : ¬ ((i + 1 ≤ i ∧ i < i + 1 + remaining) ∧
        ∀ c < i, i + 1 ≤ c → t.callback c ≠ none → env.transfer c = .success) := by omega
    have inside : (i ≤ i ∧ i < i + (remaining + 1)) ∧
        ∀ c < i, i ≤ c → t.callback c ≠ none → env.transfer c = .success :=
      ⟨by omega, fun c low high _ => by omega⟩
    rw [boundFrom_succ]
    cases bound : t.callback i with
    | none =>
      rw [Option.map_none, Option.toList_none, List.nil_append, ih (by omega)]
      by_cases here : channel = i
      · subst here
        rw [if_neg outside, if_pos inside, bound]
        rfl
      · exact if_congr (behind here fun unbound => absurd bound unbound) rfl rfl
    | some source =>
      have addressed := @packetFor_channel env t last source i (by omega)
      simp only [Option.map_some, Option.toList_some, List.cons_append, List.nil_append, reached]
      by_cases ok : env.transfer i = .success
      · rw [if_pos ok, List.map_cons, toChannel_cons, ih (by omega), addressed]
        by_cases here : channel = i
        · subst here
          rw [if_pos rfl, if_neg outside, if_pos inside, bound]
          rfl
        · rw [if_neg (Ne.symm here), List.nil_append]
          exact if_congr (behind here fun _ => ok) rfl rfl
      · rw [if_neg ok, List.map_cons, List.map_nil, toChannel_cons, addressed]
        by_cases here : channel = i
        · subst here
          rw [if_pos rfl, if_pos inside, bound]
          rfl
        · rw [if_neg (Ne.symm here), if_neg]
          · rfl
          · rintro ⟨later, before⟩
            exact ok (before i (by omega) (Nat.le_refl i) (by rw [bound]; simp))

section channel
variable {channelCount : UInt8} (sized : t.Sized channelCount.toNat)
include sized

/-- A tick that arrives at a channel sends it its one packet, or none if it is not bound; one
that does not sends it nothing. -/
theorem transfers_toReached {channel : Nat} (below : channel < channelCount.toNat) :
    toChannel channel (mainLoopCallback env channelCount t.arrays last).transfers =
      if Arrives env t channel then
        ((t.callback channel).map fun source => packetFor env t last source channel).toList
      else [] := by
  have small := channelCount.toNat_lt
  rw [mainLoopCallback_transfers sized, reached_toChannel (by omega)]
  refine if_congr ⟨?_, fun arrives => ?_⟩ rfl rfl
  · exact fun ⟨_, before⟩ c lower => before c lower (Nat.zero_le c)
  · exact ⟨by omega, fun c lower _ => arrives c lower⟩

/-- With every transfer succeeding a tick sends a channel its one packet, or none if it is
not bound. -/
theorem transfers_toChannel (ok : ∀ channel, env.transfer channel = .success) {channel : Nat}
    (below : channel < channelCount.toNat) :
    toChannel channel (mainLoopCallback env channelCount t.arrays last).transfers =
      ((t.callback channel).map fun source => packetFor env t last source channel).toList := by
  rw [transfers_toReached sized below]
  exact if_pos fun c _ _ => ok c

/-- Whatever becomes of the transfers, a channel that is not bound is sent nothing. -/
theorem transfers_toUnbound {channel : Nat} (unbound : t.callback channel = none) :
    toChannel channel (mainLoopCallback env channelCount t.arrays last).transfers = [] := by
  apply List.filter_eq_nil_iff.mpr
  intro packet sent
  obtain ⟨channel', source, below, bound, rfl⟩ := mem_transfers sized sent
  have small := channelCount.toNat_lt
  rw [packetFor_channel (by omega), beq_iff_eq]
  rintro rfl
  rw [unbound] at bound
  cases bound

end channel

end PerformancePanel.Source.Tick

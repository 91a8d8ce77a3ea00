import PerformancePanel.Source.Collector

/-!
# Capability handshake

`get_channel_count` decodes the raw report method correctly for all 128 counts. Its
backward-compatibility loop tests a byte that the body never shifts: a legacy reply
whose lowest bit is set keeps the loop running forever, whatever the transfer status.
The handshake is therefore correct exactly on raw replies and on even legacy replies.
-/
set_option autoImplicit false

namespace PerformancePanel.Guarantees.CapabilityHandshake
open Source.Common Source.Collector

/-- The legacy bitmap with exactly the `k` lowest bits set. -/
def lowBits (k : Fin 8) : UInt8 := UInt8.ofNat (2 ^ k.val - 1)

def rawReply (k : Fin 128) : UInt8 := voltmeterChannelReportRawValue ||| UInt8.ofNat k.val

/-- The query returns, with zero after a failed transfer and otherwise with the count
that either report method encodes. -/
def HandshakeDecodes (status : Status) (reply : UInt8) : Prop :=
  ∃ fuel count, getChannelCount fuel status reply = some count ∧
    (status ≠ .success → count = 0) ∧
    (status = .success →
      (∀ k : Fin 128, reply = rawReply k → count.toNat = k.val) ∧
      (∀ k : Fin 8, reply = lowBits k → count.toNat = k.val))

theorem rawReply_decodes (k : Fin 128) :
    (rawReply k &&& ~~~voltmeterChannelReportRawValue).toNat = k.val := by
  revert k
  decide

theorem rawReply_flag (k : Fin 128) : rawReply k &&& voltmeterChannelReportRawValue ≠ 0 := by
  revert k
  decide

theorem lowBits_flag (k : Fin 8) : lowBits k &&& voltmeterChannelReportRawValue = 0 := by
  revert k
  decide

theorem lowBits_even (k : Fin 8) (even : lowBits k &&& 1 = 0) : k.val = 0 := by
  revert k
  decide

/-- A raw reply is decoded by its low seven bits and is no legacy bitmap. -/
theorem raw_decodes (status : Status) {reply : UInt8}
    (raw : reply &&& voltmeterChannelReportRawValue ≠ 0) : HandshakeDecodes status reply := by
  refine ⟨0, _, by rw [getChannelCount_eq, if_pos (by simpa using raw)], ?_, ?_⟩
  · intro failed
    rw [if_neg failed]
  · intro ok
    rw [if_pos ok]
    constructor
    · rintro k rfl
      exact rawReply_decodes k
    · rintro k rfl
      exact absurd (lowBits_flag k) raw

/-- An even legacy reply leaves the loop at once with the count zero. -/
theorem even_decodes (status : Status) {reply : UInt8}
    (legacy : reply &&& voltmeterChannelReportRawValue = 0) (even : reply &&& 1 = 0) :
    HandshakeDecodes status reply := by
  refine ⟨0, 0,
    by rw [getChannelCount_eq, if_neg (by simpa using legacy), if_neg (by simpa using even)],
    fun _ => rfl, fun _ => ⟨?_, ?_⟩⟩
  · rintro k rfl
    exact absurd legacy (rawReply_flag k)
  · rintro k rfl
    exact (lowBits_even k even).symm

/-- No number of iterations leaves the loop on an odd legacy reply. -/
theorem odd_never_returns (status : Status) {reply : UInt8}
    (legacy : reply &&& voltmeterChannelReportRawValue = 0) (odd : reply &&& 1 ≠ 0) (fuel : Nat) :
    getChannelCount fuel status reply = none := by
  rw [getChannelCount_eq, if_neg (by simpa using legacy), if_pos (by simpa using odd)]

/-- The handshake is correct exactly when the reply is raw or its lowest bit is clear. -/
theorem handshake_decodes_iff (status : Status) (reply : UInt8) :
    HandshakeDecodes status reply ↔
      reply &&& voltmeterChannelReportRawValue ≠ 0 ∨ reply &&& 1 = 0 := by
  constructor
  · rintro ⟨fuel, count, returned, _⟩
    by_contra neither
    rw [not_or, not_not] at neither
    rw [odd_never_returns status neither.1 neither.2 fuel] at returned
    cases returned
  · intro condition
    by_cases raw : reply &&& voltmeterChannelReportRawValue = 0
    · have even : reply &&& 1 = 0 := condition.resolve_left (not_not.mpr raw)
      exact even_decodes status raw even
    · exact raw_decodes status raw

/-- One channel reported by the legacy bitmap: the query does not return. -/
theorem single_channel_bitmap_hangs : ¬ HandshakeDecodes .success (lowBits 1) := by
  rintro ⟨fuel, count, returned, _⟩
  rw [odd_never_returns .success (by decide) (by decide) fuel] at returned
  cases returned

end PerformancePanel.Guarantees.CapabilityHandshake

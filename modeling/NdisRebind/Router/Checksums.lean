import NdisRebind.Router.Rewrite

namespace NdisRebind

open IntermediateBuffer

def transportHeaderLength (protocol : UInt8) : Nat :=
  if protocol = IPPROTO_UDP then 8 else if protocol = IPPROTO_TCP then 20 else 0

/-- The headers a lambda examines or rewrites lie inside the frame: an IPv4 header of `ip_hl`
words with `ip_hl ≥ 5` after the 14-byte Ethernet header, and the UDP or TCP header after it. -/
def IntermediateBuffer.HeadersFit (buffer : IntermediateBuffer) : Prop :=
  5 ≤ buffer.ipHl ∧ buffer.transportOffset + transportHeaderLength buffer.ipP ≤ buffer.mLength

instance (buffer : IntermediateBuffer) : Decidable buffer.HeadersFit :=
  inferInstanceAs (Decidable (_ ∧ _))

/-- The TCP or UDP checksum field lies inside the datagram `ip_len` delimits, so the checksum
covers its own field. -/
def IntermediateBuffer.ChecksumInDatagram (buffer : IntermediateBuffer) : Prop :=
  checksumField buffer.ipP + 2 ≤ buffer.transportLength

instance (buffer : IntermediateBuffer) : Decidable buffer.ChecksumInDatagram :=
  inferInstanceAs (Decidable (_ ≤ _))

section Validity

variable {buffer : IntermediateBuffer}

theorem transportRecalculation_valid (long : 5 ≤ buffer.ipHl) (covers : buffer.ChecksumInDatagram)
    (transport : buffer.IsTransport) :
    TransportChecksumValid (transportRecalculation buffer.ipP buffer) := by
  have apart : 34 ≤ buffer.transportOffset := by simp only [transportOffset]; omega
  have distinct : IPPROTO_TCP ≠ IPPROTO_UDP := by decide
  unfold ChecksumInDatagram checksumField at covers
  rcases transport with protocol | protocol <;>
    simp only [transportRecalculation, recalculateUDPChecksum, recalculateTCPChecksum, protocol,
      distinct, if_true, if_false] at covers ⊢ <;>
    exact recalculateTransportChecksum_valid protocol (by decide) covers (by omega)

theorem checksums_valid (long : 5 ≤ buffer.ipHl) (covers : buffer.ChecksumInDatagram)
    (transport : buffer.IsTransport) :
    IpChecksumValid (recalculateIPChecksum (transportRecalculation buffer.ipP buffer)) ∧
      TransportChecksumValid (recalculateIPChecksum (transportRecalculation buffer.ipP buffer)) := by
  have field := checksumField_cases buffer.ipP
  have hl : (transportRecalculation buffer.ipP buffer).ipHl = buffer.ipHl :=
    ipHl_congr fun i _ upper => transportRecalculation_outside (by simp only [transportOffset]; omega)
  have headerLong : 3 ≤ (transportRecalculation buffer.ipP buffer).ipHl := by omega
  exact ⟨recalculateIPChecksum_valid headerLong,
    (transportChecksumValid_recalculateIPChecksum headerLong).mpr
      (transportRecalculation_valid long covers transport)⟩

theorem checksums_valid_of_agreeOn {other : IntermediateBuffer} (agree : other.AgreeOn buffer 14 24)
    (long : 5 ≤ buffer.ipHl) (covers : buffer.ChecksumInDatagram) (transport : buffer.IsTransport) :
    IpChecksumValid (recalculateIPChecksum (transportRecalculation buffer.ipP other)) ∧
      TransportChecksumValid (recalculateIPChecksum (transportRecalculation buffer.ipP other)) := by
  have protocol : other.ipP = buffer.ipP := ipP_congr (agree.mono (by omega) (le_refl _))
  have hl : other.ipHl = buffer.ipHl := ipHl_congr (agree.mono (le_refl _) (by omega))
  have length : other.transportLength = buffer.transportLength :=
    transportLength_congr (agree.mono (le_refl _) (by omega))
  rw [← protocol]
  exact checksums_valid (hl ▸ long) (by simpa only [ChecksumInDatagram, protocol, length] using covers)
    (by simpa only [IsTransport, protocol] using transport)

end Validity

/-- `scenarioReply` with `ip_len` 24: its UDP header fits in the frame, but the datagram ends
before the checksum field, which the recalculated sum then leaves out. -/
def shortDatagramReply : IntermediateBuffer := IntermediateBuffer.ofBytes
  [0xBB, 0xBB, 0xBB, 0xBB, 0xBB, 0xBB, 0xCC, 0xCC, 0xCC, 0xCC, 0xCC, 0xCC, 0x08, 0x00,
   0x45, 0, 0, 24, 0, 2, 0, 0, 64, 17, 0, 0, 8, 8, 8, 8, 10, 0, 0, 9,
   0, 53, 0x13, 0x88, 0, 8, 0, 0]

end NdisRebind

import NdisRebind.Net.Headers

namespace NdisRebind

/-- The sum of `count` bytes from `offset` read as big-endian 16-bit words, an odd last byte
padded with zero: a byte at an even distance from `offset` is a high octet. -/
def onesSum (bytes : Nat → UInt8) (offset : Nat) : Nat → Nat
  | 0 => 0
  | n + 1 => onesSum bytes offset n + (if n % 2 = 0 then 256 else 1) * (bytes (offset + n)).toNat

/-- The end-around-carry fold `while (sum >> 16) sum = (sum & 0xFFFF) + (sum >> 16)` in closed
form: it keeps the sum modulo 0xFFFF and is zero only for a zero sum. -/
def foldCarries (sum : Nat) : Nat := if sum = 0 then 0 else (sum - 1) % 0xFFFF + 1

/-- The 16 bits of `~sum` after the fold: the value a checksum field receives. -/
def complement (sum : Nat) : Nat := 0xFFFF - foldCarries sum

namespace IntermediateBuffer

/-- The segment a transport checksum covers: the rest of the IPv4 datagram, `ntohs(ip_len)` less
the header's `4 * ip_hl` bytes, whatever `m_Length` says. -/
def transportLength (buffer : IntermediateBuffer) : Nat := buffer.ipLen - 4 * buffer.ipHl

def pseudoHeaderSum (buffer : IntermediateBuffer) (protocol : UInt8) : Nat :=
  buffer.read16 26 + buffer.read16 28 + buffer.read16 30 + buffer.read16 32 + protocol.toNat +
    buffer.transportLength

end IntermediateBuffer

open IntermediateBuffer

/-- Modelled from the spec: `CNdisApi::RecalculateIPChecksum` is not part of the repository. It
stores the standard Internet checksum of the `4 * ip_hl` header bytes in `ip_sum`, computed with
the field cleared, and writes nothing else. -/
def recalculateIPChecksum (buffer : IntermediateBuffer) : IntermediateBuffer :=
  let cleared := buffer.write16 24 0
  cleared.write16 24 (complement (onesSum cleared.mIBuffer 14 (4 * buffer.ipHl)))

/-- Modelled from the spec: the transport checksum recalculations of `CNdisApi` are not part of
the repository. Each stores the standard Internet checksum of the pseudo-header built from the
current addresses and of the segment `ip_len` delimits, computed with its field cleared, in the
field `field` bytes into the TCP or UDP header, and writes nothing else. -/
def recalculateTransportChecksum (protocol : UInt8) (field : Nat) (buffer : IntermediateBuffer) :
    IntermediateBuffer :=
  let position := buffer.transportOffset + field
  let cleared := buffer.write16 position 0
  cleared.write16 position (complement (cleared.pseudoHeaderSum protocol +
    onesSum cleared.mIBuffer buffer.transportOffset buffer.transportLength))

/-- `CNdisApi::RecalculateUDPChecksum`: `udphdr::th_sum` sits 6 bytes into the header. -/
def recalculateUDPChecksum : IntermediateBuffer → IntermediateBuffer :=
  recalculateTransportChecksum IPPROTO_UDP 6

/-- `CNdisApi::RecalculateTCPChecksum`: `tcphdr::th_sum` sits 16 bytes into the header. -/
def recalculateTCPChecksum : IntermediateBuffer → IntermediateBuffer :=
  recalculateTransportChecksum IPPROTO_TCP 16

/-- A receiver accepts the IPv4 header checksum: the header's words sum to all ones. -/
def IpChecksumValid (buffer : IntermediateBuffer) : Prop :=
  foldCarries (onesSum buffer.mIBuffer 14 (4 * buffer.ipHl)) = 0xFFFF

/-- A receiver accepts the TCP or UDP checksum over the pseudo-header for the frame's own
protocol and the segment `ip_len` delimits. -/
def TransportChecksumValid (buffer : IntermediateBuffer) : Prop :=
  foldCarries (buffer.pseudoHeaderSum buffer.ipP +
    onesSum buffer.mIBuffer buffer.transportOffset buffer.transportLength) = 0xFFFF

instance (buffer : IntermediateBuffer) : Decidable (IpChecksumValid buffer) :=
  inferInstanceAs (Decidable (_ = _))

instance (buffer : IntermediateBuffer) : Decidable (TransportChecksumValid buffer) :=
  inferInstanceAs (Decidable (_ = _))

theorem foldCarries_add_complement (sum : Nat) : foldCarries (sum + complement sum) = 0xFFFF := by
  unfold complement foldCarries
  by_cases zero : sum = 0
  · subst zero
    rfl
  · rw [if_neg zero, if_neg (by omega)]
    omega

theorem complement_lt (sum : Nat) : complement sum < 65536 := by
  unfold complement
  omega

section Sums

variable {bytes other : Nat → UInt8} {offset : Nat}

theorem onesSum_congr {count : Nat} (agree : ∀ k < count, bytes (offset + k) = other (offset + k)) :
    onesSum bytes offset count = onesSum other offset count := by
  induction count with
  | zero => rfl
  | succ n ih =>
    simp only [onesSum, ih fun k lane => agree k (by omega), agree n (by omega)]

theorem onesSum_add {first : Nat} (even : first % 2 = 0) (second : Nat) :
    onesSum bytes offset (first + second) =
      onesSum bytes offset first + onesSum bytes (offset + first) second := by
  induction second with
  | zero => rfl
  | succ n ih =>
    have parity : (first + n) % 2 = 0 ↔ n % 2 = 0 := by omega
    show onesSum bytes offset (first + n + 1) = _
    simp only [onesSum, ih, parity, Nat.add_assoc]

theorem onesSum_two (buffer : IntermediateBuffer) (position : Nat) :
    onesSum buffer.mIBuffer position 2 = buffer.read16 position := by
  simp [onesSum, read16]
  omega

theorem onesSum_write16 (buffer : IntermediateBuffer) {position count value : Nat}
    (inside : offset ≤ position) (even : (position - offset) % 2 = 0)
    (fits : position + 2 ≤ offset + count) (bound : value < 65536) :
    onesSum (buffer.write16 position value).mIBuffer offset count =
      onesSum (buffer.write16 position 0).mIBuffer offset count + value := by
  obtain ⟨rest, rfl⟩ : ∃ rest, count = (position - offset) + (2 + rest) := ⟨count - (position - offset) - 2, by omega⟩
  have start : offset + (position - offset) = position := by omega
  rw [onesSum_add even, onesSum_add even, start, onesSum_add (by decide),
    onesSum_add (by decide), onesSum_two, onesSum_two, read16_write16_self bound,
    read16_write16_self (by decide)]
  have unchanged : ∀ start n, start + n ≤ position ∨ position + 2 ≤ start →
      onesSum (buffer.write16 position value).mIBuffer start n =
        onesSum (buffer.write16 position 0).mIBuffer start n :=
    fun start n apart => onesSum_congr fun k lane => by
      rw [write16_outside (by omega), write16_outside (by omega)]
  rw [unchanged offset _ (by omega), unchanged (position + 2) rest (by omega)]
  omega

end Sums

section Recalculation

variable {buffer other : IntermediateBuffer} {protocol : UInt8} {field : Nat}

theorem transportLength_congr (header : buffer.AgreeOn other 14 18) :
    buffer.transportLength = other.transportLength := by
  simp only [transportLength, ipHl_congr (header.mono (le_refl _) (by omega)),
    ipLen_congr (header.mono (by omega) (le_refl _))]

theorem pseudoHeaderSum_congr (header : buffer.AgreeOn other 14 18)
    (addresses : buffer.AgreeOn other 26 34) :
    buffer.pseudoHeaderSum protocol = other.pseudoHeaderSum protocol := by
  have word : ∀ position, 26 ≤ position → position < 33 → buffer.read16 position = other.read16 position :=
    fun position lower upper =>
      read16_congr (addresses _ (by omega) (by omega)) (addresses _ (by omega) (by omega))
  simp only [pseudoHeaderSum, word 26 (by omega) (by omega), word 28 (by omega) (by omega),
    word 30 (by omega) (by omega), word 32 (by omega) (by omega), transportLength_congr header]

theorem transportChecksumValid_congr (header : buffer.AgreeOn other 14 24)
    (addresses : buffer.AgreeOn other 26 34)
    (segment : buffer.AgreeOn other buffer.transportOffset
      (buffer.transportOffset + buffer.transportLength)) :
    TransportChecksumValid buffer ↔ TransportChecksumValid other := by
  have front := header.mono (le_refl _) (by omega : 18 ≤ 24)
  have offset := transportOffset_congr (front.mono (le_refl _) (by omega : 15 ≤ 18))
  have sums : onesSum buffer.mIBuffer buffer.transportOffset buffer.transportLength =
      onesSum other.mIBuffer other.transportOffset other.transportLength := by
    rw [← offset, ← transportLength_congr front]
    exact onesSum_congr fun k lane => segment _ (by omega) (by omega)
  simp only [TransportChecksumValid, sums, pseudoHeaderSum_congr front addresses,
    ipP_congr (header.mono (by omega : 14 ≤ 23) (le_refl _))]

theorem recalculateIPChecksum_outside {i : Nat} (outside : i < 24 ∨ 26 ≤ i) :
    (recalculateIPChecksum buffer).mIBuffer i = buffer.mIBuffer i := by
  simp only [recalculateIPChecksum]
  rw [write16_outside outside, write16_outside outside]

theorem recalculateTransportChecksum_outside {i : Nat}
    (outside : i < buffer.transportOffset + field ∨ buffer.transportOffset + field + 2 ≤ i) :
    (recalculateTransportChecksum protocol field buffer).mIBuffer i = buffer.mIBuffer i := by
  simp only [recalculateTransportChecksum]
  rw [write16_outside outside, write16_outside outside]

@[simp] theorem recalculateIPChecksum_mLength :
    (recalculateIPChecksum buffer).mLength = buffer.mLength := rfl

@[simp] theorem recalculateTransportChecksum_mLength :
    (recalculateTransportChecksum protocol field buffer).mLength = buffer.mLength := rfl

theorem recalculateIPChecksum_valid (long : 3 ≤ buffer.ipHl) :
    IpChecksumValid (recalculateIPChecksum buffer) := by
  have hl : (recalculateIPChecksum buffer).ipHl = buffer.ipHl := by
    simp only [ipHl, recalculateIPChecksum_outside (show 14 < 24 ∨ 26 ≤ 14 by decide)]
  unfold IpChecksumValid
  rw [hl]
  simp only [recalculateIPChecksum]
  rw [onesSum_write16 _ (by omega) (by omega) (by omega) (complement_lt _), write16_write16]
  exact foldCarries_add_complement _

theorem recalculateTransportChecksum_valid (protocol_eq : buffer.ipP = protocol)
    (even : field % 2 = 0) (covers : field + 2 ≤ buffer.transportLength)
    (apart : 34 ≤ buffer.transportOffset + field) :
    TransportChecksumValid (recalculateTransportChecksum protocol field buffer) := by
  set position := buffer.transportOffset + field
  set cleared := buffer.write16 position 0
  set sum := cleared.pseudoHeaderSum protocol +
    onesSum cleared.mIBuffer buffer.transportOffset buffer.transportLength
  have result : recalculateTransportChecksum protocol field buffer =
      cleared.write16 position (complement sum) := rfl
  have agree : (cleared.write16 position (complement sum)).AgreeOn buffer 14 34 :=
    fun i _ below => by rw [write16_outside (by omega), write16_outside (by omega)]
  have clearedAgree : (cleared.write16 position (complement sum)).AgreeOn cleared 14 34 :=
    fun i _ below => write16_outside (by omega)
  have front := agree.mono (le_refl _) (by omega : 18 ≤ 34)
  unfold TransportChecksumValid
  rw [result, ipP_congr (agree.mono (by omega : 14 ≤ 23) (by omega : 24 ≤ 34)), protocol_eq,
    pseudoHeaderSum_congr (clearedAgree.mono (le_refl _) (by omega : 18 ≤ 34))
      (clearedAgree.mono (by omega : 14 ≤ 26) (le_refl _)),
    transportOffset_congr (front.mono (le_refl _) (by omega)), transportLength_congr front,
    onesSum_write16 _ (by omega) (by omega) (by omega) (complement_lt _), write16_write16,
    ← Nat.add_assoc]
  exact foldCarries_add_complement sum

theorem transportChecksumValid_recalculateIPChecksum (long : 3 ≤ buffer.ipHl) :
    TransportChecksumValid (recalculateIPChecksum buffer) ↔ TransportChecksumValid buffer := by
  have hl : (recalculateIPChecksum buffer).transportOffset = buffer.transportOffset :=
    transportOffset_congr fun i _ below => recalculateIPChecksum_outside (by omega)
  refine transportChecksumValid_congr (fun i _ below => recalculateIPChecksum_outside (by omega))
    (fun i lower _ => recalculateIPChecksum_outside (by omega)) (fun i lower _ => ?_)
  rw [hl] at lower
  exact recalculateIPChecksum_outside (by simp only [transportOffset] at lower; omega)

end Recalculation

end NdisRebind

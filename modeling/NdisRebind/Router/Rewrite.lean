import NdisRebind.Router.Filters

namespace NdisRebind

open IntermediateBuffer

namespace IntermediateBuffer

/-- The bytes the outgoing rewrite writes: both MAC addresses, `ip_sum`, `ip_src` and the TCP or
UDP checksum field. -/
def EgressFootprint (buffer : IntermediateBuffer) (i : Nat) : Prop :=
  i < 12 ∨ (24 ≤ i ∧ i < 30) ∨
    (buffer.transportChecksumOffset ≤ i ∧ i < buffer.transportChecksumOffset + 2)

/-- The bytes the incoming rewrite writes: `h_dest`, `ip_sum`, `ip_dst` and the TCP or UDP
checksum field. -/
def IngressFootprint (buffer : IntermediateBuffer) (i : Nat) : Prop :=
  i < 6 ∨ (24 ≤ i ∧ i < 26) ∨ (30 ≤ i ∧ i < 34) ∨
    (buffer.transportChecksumOffset ≤ i ∧ i < buffer.transportChecksumOffset + 2)

def ChecksumClearOf (buffer : IntermediateBuffer) (offset : Nat) : Prop :=
  buffer.transportChecksumOffset + 2 ≤ offset ∨ offset + 4 ≤ buffer.transportChecksumOffset

end IntermediateBuffer

theorem checksumField_cases (protocol : UInt8) :
    checksumField protocol = 6 ∨ checksumField protocol = 16 := by
  unfold checksumField
  split_ifs <;> simp

section Checksums

variable {buffer : IntermediateBuffer} {protocol : UInt8}

@[simp] theorem transportRecalculation_mLength :
    (transportRecalculation protocol buffer).mLength = buffer.mLength := by
  unfold transportRecalculation
  split_ifs <;> rfl

theorem transportRecalculation_outside {i : Nat}
    (outside : i < buffer.transportOffset + checksumField protocol ∨
      buffer.transportOffset + checksumField protocol + 2 ≤ i) :
    (transportRecalculation protocol buffer).mIBuffer i = buffer.mIBuffer i := by
  unfold transportRecalculation checksumField at *
  by_cases udp : protocol = IPPROTO_UDP <;> simp only [udp, if_true, if_false] at outside ⊢
  · exact recalculateTransportChecksum_outside outside
  · exact recalculateTransportChecksum_outside outside

theorem checksums_agreeOn {low high : Nat} (header : high ≤ 24 ∨ 26 ≤ low)
    (field : high ≤ buffer.transportOffset + checksumField protocol ∨
      buffer.transportOffset + checksumField protocol + 2 ≤ low) :
    (recalculateIPChecksum (transportRecalculation protocol buffer)).AgreeOn buffer low high :=
  fun i lower upper => by
    rw [recalculateIPChecksum_outside (by omega), transportRecalculation_outside (by omega)]

theorem checksums_agreeOn_front :
    (recalculateIPChecksum (transportRecalculation protocol buffer)).AgreeOn buffer 0 20 ∧
      (recalculateIPChecksum (transportRecalculation protocol buffer)).AgreeOn buffer 22 24 := by
  have field := checksumField_cases protocol
  constructor <;> exact checksums_agreeOn (by omega) (by simp only [transportOffset]; omega)

end Checksums

section Egress

variable {router : RebindRouter} {buffer : IntermediateBuffer}

theorem egressAddresses_outside {i : Nat} (outside : 12 ≤ i ∧ (i < 26 ∨ 30 ≤ i)) :
    (egressAddresses router buffer).mIBuffer i = buffer.mIBuffer i := by
  rw [egressAddresses, setHDest_outside _ (by omega), setHSource_outside _ (by omega),
    setIpSrc_outside _ (by omega)]

theorem egressAddresses_agreeOn_header : (egressAddresses router buffer).AgreeOn buffer 12 26 :=
  fun _ lower upper => egressAddresses_outside (by omega)

theorem egressRewrite_outside {i : Nat} (outside : ¬ buffer.EgressFootprint i) :
    (egressRewrite router (transportRecalculation buffer.ipP) buffer).mIBuffer i =
      buffer.mIBuffer i := by
  have offset : (egressAddresses router buffer).transportOffset = buffer.transportOffset :=
    transportOffset_congr (egressAddresses_agreeOn_header.mono (by omega) (by omega))
  have field := checksumField_cases buffer.ipP
  simp only [EgressFootprint, transportChecksumOffset, transportOffset] at outside offset
  rw [egressRewrite, recalculateIPChecksum_outside (by omega),
    transportRecalculation_outside (by simp only [transportOffset] at offset ⊢; omega),
    egressAddresses_outside (by omega)]

theorem egressRewrite_agreeOn {low high : Nat}
    (apart : ∀ i, low ≤ i → i < high → ¬ buffer.EgressFootprint i) :
    (egressRewrite router (transportRecalculation buffer.ipP) buffer).AgreeOn buffer low high :=
  fun i lower upper => egressRewrite_outside (apart i lower upper)

@[simp] theorem egressRewrite_mLength (recalculate : IntermediateBuffer → IntermediateBuffer)
    (length : ∀ frame, (recalculate frame).mLength = frame.mLength) :
    (egressRewrite router recalculate buffer).mLength = buffer.mLength := by
  simp [egressRewrite, length, egressAddresses]

theorem hDest_egressRewrite :
    (egressRewrite router (transportRecalculation buffer.ipP) buffer).hDest =
      router.rebindGwHwAddress := by
  rw [egressRewrite, hDest_congr (checksums_agreeOn_front.1.mono (le_refl _) (by omega)),
    egressAddresses, hDest_setHDest]

theorem hSource_egressRewrite :
    (egressRewrite router (transportRecalculation buffer.ipP) buffer).hSource =
      router.rebindSrcHwAddress := by
  rw [egressRewrite, hSource_congr (checksums_agreeOn_front.1.mono (by omega) (by omega)),
    egressAddresses, hSource_congr fun i lower _ => setHDest_outside _ lower, hSource_setHSource]

theorem ipSrc_egressRewrite (clear : buffer.ChecksumClearOf 26) :
    (egressRewrite router (transportRecalculation buffer.ipP) buffer).ipSrc =
      router.rebindSrcIpAddress := by
  have offset : (egressAddresses router buffer).transportOffset = buffer.transportOffset :=
    transportOffset_congr (egressAddresses_agreeOn_header.mono (by omega) (by omega))
  simp only [ChecksumClearOf, transportChecksumOffset] at clear
  rw [egressRewrite, ipSrc_congr (checksums_agreeOn (by omega) (by rw [offset]; omega)),
    egressAddresses, ipSrc_congr fun i lower _ => setHDest_outside _ (by omega),
    ipSrc_congr fun i lower upper => setHSource_outside _ (by omega), ipSrc_setIpSrc]

end Egress

section Ingress

variable {router : RebindRouter} {buffer : IntermediateBuffer}

theorem ingressAddresses_outside {i : Nat} (outside : 6 ≤ i ∧ (i < 30 ∨ 34 ≤ i)) :
    (ingressAddresses router buffer).mIBuffer i = buffer.mIBuffer i := by
  rw [ingressAddresses, setHDest_outside _ (by omega), setIpDst_outside _ (by omega)]

theorem ingressAddresses_agreeOn_header : (ingressAddresses router buffer).AgreeOn buffer 6 30 :=
  fun _ lower upper => ingressAddresses_outside (by omega)

theorem ingressRewrite_eq (transport : buffer.IsTransport) :
    ingressRewrite router buffer =
      recalculateIPChecksum (transportRecalculation buffer.ipP (ingressAddresses router buffer)) := by
  have protocol : (ingressAddresses router buffer).ipP = buffer.ipP :=
    ipP_congr (ingressAddresses_agreeOn_header.mono (by omega) (by omega))
  rcases transport with udp | tcp
  · simp [ingressRewrite, transportRecalculation, protocol, udp]
  · have distinct : IPPROTO_TCP ≠ IPPROTO_UDP := by decide
    simp [ingressRewrite, transportRecalculation, protocol, tcp, distinct]

theorem ingressRewrite_outside (transport : buffer.IsTransport) {i : Nat}
    (outside : ¬ buffer.IngressFootprint i) :
    (ingressRewrite router buffer).mIBuffer i = buffer.mIBuffer i := by
  have offset : (ingressAddresses router buffer).transportOffset = buffer.transportOffset :=
    transportOffset_congr (ingressAddresses_agreeOn_header.mono (by omega) (by omega))
  have field := checksumField_cases buffer.ipP
  simp only [IngressFootprint, transportChecksumOffset, transportOffset] at outside offset
  rw [ingressRewrite_eq transport, recalculateIPChecksum_outside (by omega),
    transportRecalculation_outside (by simp only [transportOffset] at offset ⊢; omega),
    ingressAddresses_outside (by omega)]

theorem ingressRewrite_agreeOn (transport : buffer.IsTransport) {low high : Nat}
    (apart : ∀ i, low ≤ i → i < high → ¬ buffer.IngressFootprint i) :
    (ingressRewrite router buffer).AgreeOn buffer low high :=
  fun i lower upper => ingressRewrite_outside transport (apart i lower upper)

@[simp] theorem ingressRewrite_mLength :
    (ingressRewrite router buffer).mLength = buffer.mLength := by
  simp only [ingressRewrite]
  split_ifs <;> rfl

theorem hDest_ingressRewrite (transport : buffer.IsTransport) :
    (ingressRewrite router buffer).hDest = router.defaultSrcHwAddress := by
  rw [ingressRewrite_eq transport, hDest_congr (checksums_agreeOn_front.1.mono (le_refl _) (by omega)),
    ingressAddresses, hDest_setHDest]

theorem ipDst_ingressRewrite (transport : buffer.IsTransport) (clear : buffer.ChecksumClearOf 30) :
    (ingressRewrite router buffer).ipDst = router.defaultSrcIpAddress := by
  have offset : (ingressAddresses router buffer).transportOffset = buffer.transportOffset :=
    transportOffset_congr (ingressAddresses_agreeOn_header.mono (by omega) (by omega))
  have protocol : (ingressAddresses router buffer).ipP = buffer.ipP :=
    ipP_congr (ingressAddresses_agreeOn_header.mono (by omega) (by omega))
  simp only [ChecksumClearOf, transportChecksumOffset] at clear
  rw [ingressRewrite_eq transport, ipDst_congr (checksums_agreeOn (by omega) (by rw [offset]; omega)),
    ingressAddresses, ipDst_congr fun i lower _ => setHDest_outside _ (by omega), ipDst_setIpDst]

end Ingress

end NdisRebind

import NdisRebind.Router.Verdicts

namespace NdisRebind

open IntermediateBuffer

/-- A frame answering `forward`: IPv4, the same protocol, addresses and ports swapped. -/
def IntermediateBuffer.IsReplyTo (reply forward : IntermediateBuffer) : Prop :=
  reply.hProto = ETH_P_IP ∧ reply.ipP = forward.ipP ∧ reply.ipSrc = forward.ipDst ∧
    reply.ipDst = forward.ipSrc ∧ reply.thSport = forward.thDport ∧ reply.thDport = forward.thSport

instance (reply forward : IntermediateBuffer) : Decidable (reply.IsReplyTo forward) :=
  inferInstanceAs (Decidable (_ ∧ _ ∧ _ ∧ _ ∧ _ ∧ _))

theorem checksumClearOf_of_long {buffer : IntermediateBuffer} (long : 5 ≤ buffer.ipHl) {offset : Nat}
    (below : offset ≤ 30) : buffer.ChecksumClearOf offset := by
  have field := checksumField_cases buffer.ipP
  simp only [ChecksumClearOf, transportChecksumOffset, transportOffset]
  omega

theorem egressRewrite_keeps_flow (router : RebindRouter) {buffer : IntermediateBuffer}
    (long : 5 ≤ buffer.ipHl) :
    (egressRewrite router (transportRecalculation buffer.ipP) buffer).ipP = buffer.ipP ∧
    (egressRewrite router (transportRecalculation buffer.ipP) buffer).ipDst = buffer.ipDst ∧
    (egressRewrite router (transportRecalculation buffer.ipP) buffer).thSport = buffer.thSport ∧
    (egressRewrite router (transportRecalculation buffer.ipP) buffer).thDport = buffer.thDport := by
  have field := checksumField_cases buffer.ipP
  have toff : buffer.transportOffset = 14 + 4 * buffer.ipHl := rfl
  have apart : ∀ low high, (30 ≤ low ∨ high ≤ 24) → (12 ≤ low) → high ≤ buffer.transportOffset + 6 →
      (egressRewrite router (transportRecalculation buffer.ipP) buffer).AgreeOn buffer low high :=
    fun low high header front upper => egressRewrite_agreeOn fun i lower below => by
      simp only [EgressFootprint, transportChecksumOffset] at *
      omega
  have offset : (egressRewrite router (transportRecalculation buffer.ipP) buffer).transportOffset =
      buffer.transportOffset :=
    transportOffset_congr (apart 14 15 (by omega) (by omega) (by omega))
  refine ⟨ipP_congr (apart 23 24 (by omega) (by omega) (by omega)),
    ipDst_congr (apart 30 34 (by omega) (by omega) (by omega)),
    ports_congr offset (by rw [offset]; exact apart _ _ (by omega) (by omega) (by omega))⟩

theorem ingressRewrite_keeps_flow (router : RebindRouter) {buffer : IntermediateBuffer}
    (transport : buffer.IsTransport) (long : 5 ≤ buffer.ipHl) :
    (ingressRewrite router buffer).ipSrc = buffer.ipSrc ∧
    (ingressRewrite router buffer).thSport = buffer.thSport ∧
    (ingressRewrite router buffer).thDport = buffer.thDport := by
  have field := checksumField_cases buffer.ipP
  have toff : buffer.transportOffset = 14 + 4 * buffer.ipHl := rfl
  have apart : ∀ low high, 26 ≤ low → (34 ≤ low ∨ high ≤ 30) → high ≤ buffer.transportOffset + 6 →
      (ingressRewrite router buffer).AgreeOn buffer low high :=
    fun low high front header upper => ingressRewrite_agreeOn transport fun i lower below => by
      simp only [IngressFootprint, transportChecksumOffset] at *
      omega
  have offset : (ingressRewrite router buffer).transportOffset = buffer.transportOffset :=
    transportOffset_congr fun i lower upper => ingressRewrite_outside transport (by
      simp only [IngressFootprint, transportChecksumOffset]; omega)
  exact ⟨ipSrc_congr (apart 26 30 (le_refl _) (by omega) (by omega)),
    ports_congr offset (by rw [offset]; exact apart _ _ (by omega) (by omega) (by omega))⟩

theorem RebindRouter.binding_eq_iff {router other : RebindRouter} :
    other.binding = router.binding ↔
      other.appName = router.appName ∧ other.defaultSrcIpAddress = router.defaultSrcIpAddress ∧
      other.rebindSrcIpAddress = router.rebindSrcIpAddress ∧
      other.defaultSrcHwAddress = router.defaultSrcHwAddress ∧
      other.rebindSrcHwAddress = router.rebindSrcHwAddress ∧
      other.rebindGwHwAddress = router.rebindGwHwAddress := by
  simp only [RebindRouter.binding, Binding.mk.injEq]

theorem ingress_reverses_egress (router other : RebindRouter) (forward reply : IntermediateBuffer)
    (step : FilterStep) (routed : egressFilter router forward = .ok step)
    (route : step.action = .route) (answers : reply.IsReplyTo step.buffer)
    (same : other.binding = router.binding) (forwardLong : 5 ≤ forward.ipHl)
    (replyLong : 5 ≤ reply.ipHl) :
    (ingressFilter other reply).action = .route ∧
    (ingressFilter other reply).buffer.ipSrc = forward.ipDst ∧
    (ingressFilter other reply).buffer.ipDst = forward.ipSrc ∧
    (ingressFilter other reply).buffer.thSport = forward.thDport ∧
    (ingressFilter other reply).buffer.thDport = forward.thSport ∧
    (ingressFilter other reply).buffer.hDest = router.defaultSrcHwAddress := by
  rcases egressFilter_eq_ok routed with ⟨pass, -⟩ | ⟨-, matched, rewritten, -⟩
  · simp [route] at pass
  obtain ⟨-, source, transport, -⟩ := matched
  obtain ⟨proto, protocol, replySource, replyDestination, sport, dport⟩ := answers
  obtain ⟨keepP, keepDst, keepSport, keepDport⟩ := egressRewrite_keeps_flow router forwardLong
  obtain ⟨-, defaultIp, rebindIp, defaultHw, -⟩ := RebindRouter.binding_eq_iff.mp same
  rw [rewritten] at protocol replySource replyDestination sport dport
  have transported : reply.IsTransport := by
    simpa only [IsTransport, protocol, keepP] using transport
  have matchedReply : IngressMatches other reply :=
    ⟨proto, by rw [replyDestination, ipSrc_egressRewrite (checksumClearOf_of_long forwardLong
      (by omega)), rebindIp], transported⟩
  obtain ⟨keepSrc, keepReplySport, keepReplyDport⟩ :=
    ingressRewrite_keeps_flow other transported replyLong
  rw [ingressFilter_of_matches matchedReply]
  exact ⟨rfl, by rw [keepSrc, replySource, keepDst],
    by rw [ipDst_ingressRewrite transported (checksumClearOf_of_long replyLong (by omega)),
      defaultIp, source],
    by rw [keepReplySport, sport, keepDport], by rw [keepReplyDport, dport, keepSport],
    by rw [hDest_ingressRewrite transported, defaultHw]⟩

theorem egress_passes_routed_frame {router other : RebindRouter} {buffer : IntermediateBuffer}
    {step : FilterStep} (distinct : router.defaultSrcIpAddress ≠ router.rebindSrcIpAddress)
    (routed : egressFilter router buffer = .ok step) (route : step.action = .route)
    (clear : buffer.ChecksumClearOf 26) (same : other.binding = router.binding) :
    egressFilter other step.buffer = .ok ⟨.pass, step.buffer, other⟩ := by
  rcases egressFilter_eq_ok routed with ⟨pass, -⟩ | ⟨-, -, rewritten, -⟩
  · simp [route] at pass
  obtain ⟨-, defaultIp, -⟩ := RebindRouter.binding_eq_iff.mp same
  rw [egressFilter_eq, if_neg]
  rintro ⟨-, source, -⟩
  rw [rewritten, ipSrc_egressRewrite clear, defaultIp] at source
  exact distinct source.symm

def scenarioStep : FilterStep :=
  ⟨.route, egressRewrite scenarioRouter recalculateUDPChecksum scenarioDatagram,
    { scenarioRouter with
      processHelper := (resolveProcessForUdp scenarioRouter.processHelper scenarioDatagram).2
      fileStream := [egressRewrite scenarioRouter recalculateUDPChecksum scenarioDatagram] }⟩

theorem scenario_reply_reverses_datagram :
    egressFilter scenarioRouter scenarioDatagram = .ok scenarioStep ∧
    scenarioStep.action = .route ∧ scenarioReply.IsReplyTo scenarioStep.buffer ∧
    scenarioRouter.binding = scenarioRouter.binding ∧ 5 ≤ scenarioDatagram.ipHl ∧
    5 ≤ scenarioReply.ipHl ∧
    ((ingressFilter scenarioRouter scenarioReply).action = .route ∧
      (ingressFilter scenarioRouter scenarioReply).buffer.ipSrc = scenarioDatagram.ipDst ∧
      (ingressFilter scenarioRouter scenarioReply).buffer.ipDst = scenarioDatagram.ipSrc ∧
      (ingressFilter scenarioRouter scenarioReply).buffer.thSport = scenarioDatagram.thDport ∧
      (ingressFilter scenarioRouter scenarioReply).buffer.thDport = scenarioDatagram.thSport ∧
      (ingressFilter scenarioRouter scenarioReply).buffer.hDest =
        scenarioRouter.defaultSrcHwAddress) :=
  ⟨rfl, rfl, by decide, rfl, by decide, by decide,
    ingress_reverses_egress _ _ _ _ _ rfl rfl (by decide) rfl (by decide) (by decide)⟩

def tcpRouter : RebindRouter :=
  { scenarioRouter with
    processHelper := ⟨[(⟨⟨[10, 0, 0, 5], rfl⟩, ⟨[8, 8, 8, 8], rfl⟩, 40, 16384⟩,
      ⟨"C:\\apps\\vpnclient.exe"⟩)], [], [], []⟩ }

/-- A SYN from 10.0.0.5:40 to 8.8.8.8:16384. -/
def tcpSegment : IntermediateBuffer := IntermediateBuffer.ofBytes
  [0x11, 0x11, 0x11, 0x11, 0x11, 0x11, 0xAA, 0xAA, 0xAA, 0xAA, 0xAA, 0xAA, 0x08, 0x00,
   0x45, 0, 0, 40, 0, 5, 0, 0, 64, 6, 0, 0, 10, 0, 0, 5, 8, 8, 8, 8,
   0, 40, 0x40, 0, 0, 0, 0, 0, 0, 0, 0, 0, 0x50, 0x02, 0x20, 0, 0, 0, 0, 0]

def tcpStep : FilterStep :=
  ⟨.route, egressRewrite tcpRouter recalculateTCPChecksum tcpSegment,
    { tcpRouter with
      processHelper := (resolveProcessForTcp tcpRouter.processHelper tcpSegment).2
      fileStream := [egressRewrite tcpRouter recalculateTCPChecksum tcpSegment] }⟩

/-- `shortHeaderSegment` answers the routed SYN, yet with `ip_hl = 0` its TCP checksum lands on
`ip_dst`, which then is not the SYN's source. -/
theorem short_header_reply_misses_flow :
    egressFilter tcpRouter tcpSegment = .ok tcpStep ∧ tcpStep.action = .route ∧
    shortHeaderSegment.IsReplyTo tcpStep.buffer ∧
    (ingressFilter tcpRouter shortHeaderSegment).buffer.ipDst ≠ tcpSegment.ipSrc :=
  ⟨rfl, rfl, by decide, by decide⟩

end NdisRebind

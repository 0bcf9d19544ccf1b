import NdisRebind.Router.Rewrite

namespace NdisRebind

open IntermediateBuffer

section Congruence

variable {router : RebindRouter} {buffer other : IntermediateBuffer}

theorem routeOwned_action (recalculate recalculate' : IntermediateBuffer → IntermediateBuffer)
    (owner : Option NetworkProcess × ProcessLookup) :
    (routeOwned router buffer recalculate owner).map FilterStep.action =
      (routeOwned router other recalculate' owner).map FilterStep.action := by
  rcases owner with ⟨_ | process, helper⟩
  · rfl
  · simp only [routeOwned]
    split_ifs <;> rfl

theorem egressFilter_action_congr (proto : buffer.hProto = other.hProto)
    (source : buffer.ipSrc = other.ipSrc) (protocol : buffer.ipP = other.ipP)
    (owner : egressOwner router.processHelper buffer = egressOwner router.processHelper other) :
    (egressFilter router buffer).map FilterStep.action =
      (egressFilter router other).map FilterStep.action := by
  rw [egressFilter_eq, egressFilter_eq]
  simp only [IsTransport, proto, source, protocol, owner]
  split_ifs
  · exact routeOwned_action _ _ _
  · rfl

theorem egressOwner_congr {helper : ProcessLookup} (protocol : buffer.ipP = other.ipP)
    (session : buffer.tcpSession = other.tcpSession) (endpoint : buffer.udpEndpoint = other.udpEndpoint) :
    egressOwner helper buffer = egressOwner helper other := by
  simp only [egressOwner, resolveProcessForUdp, resolveProcessForTcp, protocol, session, endpoint]

theorem ingressFilter_action_congr (proto : buffer.hProto = other.hProto)
    (destination : buffer.ipDst = other.ipDst) (protocol : buffer.ipP = other.ipP) :
    (ingressFilter router buffer).action = (ingressFilter router other).action := by
  have same : IngressMatches router buffer ↔ IngressMatches router other := by
    simp only [IngressMatches, IsTransport, proto, destination, protocol]
  by_cases matched : IngressMatches router buffer
  · rw [ingressFilter_of_matches matched, ingressFilter_of_matches (same.mp matched)]
  · rw [ingressFilter_of_not_matches matched, ingressFilter_of_not_matches (mt same.mpr matched)]

theorem ingress_action_of_headers (headers : buffer.AgreeOn other 0 34) :
    (ingressFilter router buffer).action = (ingressFilter router other).action :=
  ingressFilter_action_congr (hProto_congr (headers.mono (by omega) (by omega)))
    (ipDst_congr (headers.mono (by omega) (le_refl _))) (ipP_congr (headers.mono (by omega) (by omega)))

theorem egress_action_of_headers (headers : buffer.AgreeOn other 0 34)
    (ports : buffer.AgreeOn other buffer.transportOffset (buffer.transportOffset + 4)) :
    (egressFilter router buffer).map FilterStep.action =
      (egressFilter router other).map FilterStep.action := by
  obtain ⟨sport, dport⟩ :=
    ports_congr (transportOffset_congr (headers.mono (by omega) (by omega))) ports
  have source := ipSrc_congr (headers.mono (by omega) (by omega))
  have destination := ipDst_congr (headers.mono (by omega) (le_refl _))
  have protocol := ipP_congr (headers.mono (by omega) (by omega))
  exact egressFilter_action_congr (hProto_congr (headers.mono (by omega) (by omega))) source protocol
    (egressOwner_congr protocol (by simp only [tcpSession, source, destination, sport, dport])
      (by simp only [udpEndpoint, source, sport]))

end Congruence

section Effects

variable {router : RebindRouter} {buffer : IntermediateBuffer}

theorem egress_action_ne_drop {step : FilterStep} (routed : egressFilter router buffer = .ok step) :
    step.action ≠ .drop := by
  rcases egressFilter_eq_ok routed with ⟨pass, -⟩ | ⟨route, -⟩ <;> simp [*]

theorem ingress_action_ne_drop : (ingressFilter router buffer).action ≠ .drop := by
  by_cases matched : IngressMatches router buffer
  · simp [ingressFilter_of_matches matched]
  · simp [ingressFilter_of_not_matches matched]

theorem egress_changes_only_rewritten_fields {step : FilterStep}
    (routed : egressFilter router buffer = .ok step) :
    (step.action = .pass → step.buffer = buffer ∧ step.router.fileStream = router.fileStream) ∧
    (step.action = .route → EgressMatches router buffer ∧ step.buffer.mLength = buffer.mLength ∧
      (∀ i, ¬ buffer.EgressFootprint i → step.buffer.mIBuffer i = buffer.mIBuffer i) ∧
      step.buffer.hDest = router.rebindGwHwAddress ∧
      step.buffer.hSource = router.rebindSrcHwAddress ∧
      (buffer.ChecksumClearOf 26 → step.buffer.ipSrc = router.rebindSrcIpAddress)) := by
  rcases egressFilter_eq_ok routed with ⟨pass, same, -, stream⟩ | ⟨route, matched, rewritten, -⟩
  · exact ⟨fun _ => ⟨same, stream⟩, fun route => by simp [pass] at route⟩
  · refine ⟨fun pass => by simp [route] at pass, fun _ => ?_⟩
    rw [rewritten]
    exact ⟨matched, by simp, fun i outside => egressRewrite_outside outside, hDest_egressRewrite,
      hSource_egressRewrite, ipSrc_egressRewrite⟩

theorem ingress_changes_only_rewritten_fields (router : RebindRouter) (buffer : IntermediateBuffer) :
    ((ingressFilter router buffer).action = .pass →
      (ingressFilter router buffer).buffer = buffer ∧
        (ingressFilter router buffer).router.fileStream = router.fileStream) ∧
    ((ingressFilter router buffer).action = .route → IngressMatches router buffer ∧
      (ingressFilter router buffer).buffer.mLength = buffer.mLength ∧
      (∀ i, ¬ buffer.IngressFootprint i →
        (ingressFilter router buffer).buffer.mIBuffer i = buffer.mIBuffer i) ∧
      (ingressFilter router buffer).buffer.hDest = router.defaultSrcHwAddress ∧
      (buffer.ChecksumClearOf 30 →
        (ingressFilter router buffer).buffer.ipDst = router.defaultSrcIpAddress)) := by
  by_cases matched : IngressMatches router buffer
  · rw [ingressFilter_of_matches matched]
    exact ⟨fun pass => (by cases pass), fun _ => ⟨matched, by simp,
      fun i outside => ingressRewrite_outside matched.2.2 outside, hDest_ingressRewrite matched.2.2,
      ipDst_ingressRewrite matched.2.2⟩⟩
  · rw [ingressFilter_of_not_matches matched]
    exact ⟨fun _ => ⟨rfl, rfl⟩, fun route => by cases route⟩

end Effects

theorem filters_change_only_rewritten_fields (router : RebindRouter) (buffer : IntermediateBuffer) :
    (∀ step, egressFilter router buffer = .ok step →
      (step.action = .pass → step.buffer = buffer ∧ step.router.fileStream = router.fileStream) ∧
      (step.action = .route → EgressMatches router buffer ∧ step.buffer.mLength = buffer.mLength ∧
        (∀ i, ¬ buffer.EgressFootprint i → step.buffer.mIBuffer i = buffer.mIBuffer i) ∧
        step.buffer.hDest = router.rebindGwHwAddress ∧
        step.buffer.hSource = router.rebindSrcHwAddress ∧
        (buffer.ChecksumClearOf 26 → step.buffer.ipSrc = router.rebindSrcIpAddress))) ∧
    ((ingressFilter router buffer).action = .pass →
      (ingressFilter router buffer).buffer = buffer ∧
        (ingressFilter router buffer).router.fileStream = router.fileStream) ∧
    ((ingressFilter router buffer).action = .route → IngressMatches router buffer ∧
      (ingressFilter router buffer).buffer.mLength = buffer.mLength ∧
      (∀ i, ¬ buffer.IngressFootprint i →
        (ingressFilter router buffer).buffer.mIBuffer i = buffer.mIBuffer i) ∧
      (ingressFilter router buffer).buffer.hDest = router.defaultSrcHwAddress ∧
      (buffer.ChecksumClearOf 30 →
        (ingressFilter router buffer).buffer.ipDst = router.defaultSrcIpAddress)) :=
  ⟨fun _ routed => egress_changes_only_rewritten_fields routed,
    ingress_changes_only_rewritten_fields router buffer⟩

/-- A TCP segment to the rebind address whose IPv4 header claims no words at all. -/
def shortHeaderSegment : IntermediateBuffer := IntermediateBuffer.ofBytes
  [0xBB, 0xBB, 0xBB, 0xBB, 0xBB, 0xBB, 0x22, 0x22, 0x22, 0x22, 0x22, 0x22, 0x08, 0x00,
   0x40, 0, 0, 40, 0, 3, 0, 0, 64, 6, 0, 0, 8, 8, 8, 8, 10, 0, 0, 9,
   0, 80, 0x13, 0x88, 0, 0, 0, 0, 0, 0, 0, 0, 0x50, 0x10, 0x10, 0, 0, 0, 0, 0]

/-- With `ip_hl = 0` the TCP checksum field is `ip_dst`'s first two bytes, so the routed frame
does not carry `default_src_ip_address_`. -/
theorem short_header_rewrite_overwrites_destination :
    (ingressFilter scenarioRouter shortHeaderSegment).action = .route ∧
      (ingressFilter scenarioRouter shortHeaderSegment).buffer.ipDst ≠
        scenarioRouter.defaultSrcIpAddress := by
  decide

theorem verdicts_ignore_frame_length (router : RebindRouter) (buffer other : IntermediateBuffer)
    (agree : buffer.AgreeOn other 0 78) :
    (∀ step, egressFilter router buffer = .ok step → step.action ≠ .drop) ∧
    (ingressFilter router buffer).action ≠ .drop ∧
    (egressFilter router buffer).map FilterStep.action =
      (egressFilter router other).map FilterStep.action ∧
    (ingressFilter router buffer).action = (ingressFilter router other).action := by
  have hl := buffer.ipHl_lt
  refine ⟨fun _ => egress_action_ne_drop, ingress_action_ne_drop,
    egress_action_of_headers (agree.mono (le_refl _) (by omega)) (agree.mono (by omega) ?_),
    ingress_action_of_headers (agree.mono (le_refl _) (by omega))⟩
  simp only [transportOffset]
  omega

theorem scenario_verdicts_ignore_frame_length :
    scenarioDatagram.AgreeOn ⟨0, scenarioDatagram.mIBuffer⟩ 0 78 ∧
    (∀ step, egressFilter scenarioRouter scenarioDatagram = .ok step → step.action ≠ .drop) ∧
    (ingressFilter scenarioRouter scenarioDatagram).action ≠ .drop ∧
    (egressFilter scenarioRouter scenarioDatagram).map FilterStep.action =
      (egressFilter scenarioRouter ⟨0, scenarioDatagram.mIBuffer⟩).map FilterStep.action ∧
    (ingressFilter scenarioRouter scenarioDatagram).action =
      (ingressFilter scenarioRouter ⟨0, scenarioDatagram.mIBuffer⟩).action :=
  ⟨by decide, verdicts_ignore_frame_length scenarioRouter _ _ (by decide)⟩

/-- `scenarioReply` as the stale contents of a buffer whose `m_Length` is 0. -/
def staleReply : IntermediateBuffer := ⟨0, scenarioReply.mIBuffer⟩

theorem stale_frame_is_routed_and_rewritten :
    staleReply.mLength = 0 ∧ (ingressFilter scenarioRouter staleReply).action = .route ∧
      (ingressFilter scenarioRouter staleReply).buffer.mIBuffer 0 ≠ staleReply.mIBuffer 0 := by
  decide

theorem egress_dereferences_unresolved_owner (router : RebindRouter) (buffer : IntermediateBuffer)
    (proto : buffer.hProto = ETH_P_IP) (source : buffer.ipSrc = router.defaultSrcIpAddress)
    (missing : (buffer.ipP = IPPROTO_UDP ∧
        router.processHelper.udpSnapshot.lookup buffer.udpEndpoint = none ∧
        router.processHelper.udpTable.lookup buffer.udpEndpoint = none) ∨
      (buffer.ipP = IPPROTO_TCP ∧
        router.processHelper.tcpSnapshot.lookup buffer.tcpSession = none ∧
        router.processHelper.tcpTable.lookup buffer.tcpSession = none)) :
    egressFilter router buffer = .error .nullProcessDereference := by
  rw [egressFilter_eq_error_iff]
  refine ⟨proto, source, missing.imp And.left And.left, ?_⟩
  rcases missing with ⟨udp, miss⟩ | ⟨tcp, miss⟩
  · simp only [egressOwner, udp, if_true]
    exact resolveProcessForUdp_eq_none_iff.mpr miss
  · have distinct : IPPROTO_TCP ≠ IPPROTO_UDP := by decide
    simp only [egressOwner, tcp, distinct, if_false]
    exact resolveProcessForTcp_eq_none_iff.mpr miss

def unattributedRouter : RebindRouter := { scenarioRouter with processHelper := ⟨[], [], [], []⟩ }

theorem scenario_datagram_without_owner_faults :
    scenarioDatagram.hProto = ETH_P_IP ∧
    scenarioDatagram.ipSrc = unattributedRouter.defaultSrcIpAddress ∧
    ((scenarioDatagram.ipP = IPPROTO_UDP ∧
        unattributedRouter.processHelper.udpSnapshot.lookup scenarioDatagram.udpEndpoint = none ∧
        unattributedRouter.processHelper.udpTable.lookup scenarioDatagram.udpEndpoint = none) ∨
      (scenarioDatagram.ipP = IPPROTO_TCP ∧
        unattributedRouter.processHelper.tcpSnapshot.lookup scenarioDatagram.tcpSession = none ∧
        unattributedRouter.processHelper.tcpTable.lookup scenarioDatagram.tcpSession = none)) ∧
    egressFilter unattributedRouter scenarioDatagram = .error .nullProcessDereference :=
  ⟨by decide, by decide, by decide,
    egress_dereferences_unresolved_owner _ _ (by decide) (by decide) (by decide)⟩

/-- The frame with every byte from offset 38 cleared: past the ports when `ip_hl` is 5. -/
def clearedPayload (buffer : IntermediateBuffer) : IntermediateBuffer :=
  ⟨buffer.mLength, fun i => if i < 38 then buffer.mIBuffer i else 0⟩

def twoSocketRouter : RebindRouter :=
  { scenarioRouter with
    processHelper := ⟨[], [], [], [(⟨⟨[10, 0, 0, 5], rfl⟩, 5000⟩, ⟨"C:\\apps\\vpnclient.exe"⟩),
      (⟨⟨[10, 0, 0, 5], rfl⟩, 5001⟩, ⟨"C:\\apps\\browser.exe"⟩)]⟩ }

/-- A UDP fragment from 10.0.0.5 at fragment offset 1 whose payload starts `first second`. -/
def trailingFragment (first second : UInt8) : IntermediateBuffer := IntermediateBuffer.ofBytes
  [0x11, 0x11, 0x11, 0x11, 0x11, 0x11, 0xAA, 0xAA, 0xAA, 0xAA, 0xAA, 0xAA, 0x08, 0x00,
   0x45, 0, 0, 28, 0, 4, 0, 1, 64, 17, 0, 0, 10, 0, 0, 5, 8, 8, 8, 8,
   first, second, 0, 0, 0, 0, 0, 0]

/-- An empty application name, what an empty console line gives, is found in every process name: the
outgoing lambda then routes every IPv4 TCP or UDP frame from the default address it does not fault
on. -/
theorem empty_application_name_routes_every_owned_flow (router : RebindRouter)
    (buffer : IntermediateBuffer) (step : FilterStep) (empty : router.appName = "")
    (routed : egressFilter router buffer = .ok step) :
    step.action = .route ↔
      buffer.hProto = ETH_P_IP ∧ buffer.ipSrc = router.defaultSrcIpAddress ∧ buffer.IsTransport := by
  constructor
  · intro route
    rcases egressFilter_eq_ok routed with ⟨pass, -⟩ | ⟨-, matched, -⟩
    · simp [pass] at route
    · exact ⟨matched.1, matched.2.1, matched.2.2.1⟩
  · intro conditions
    rw [egressFilter_eq, if_pos conditions] at routed
    rcases owner : egressOwner router.processHelper buffer with ⟨_ | process, helper⟩ <;>
      rw [owner] at routed
    · cases routed
    · have found : (stringFind process.name router.appName).isSome :=
        stringFind_isSome_iff.mpr (by simp [empty])
      simp only [routeOwned, found, if_true, Except.ok.injEq] at routed
      rw [← routed]

theorem nameless_router_routes_datagram :
    ∃ step, egressFilter { scenarioRouter with appName := "" } scenarioDatagram = .ok step ∧
      (step.action = .route ↔ scenarioDatagram.hProto = ETH_P_IP ∧
        scenarioDatagram.ipSrc = scenarioRouter.defaultSrcIpAddress ∧ scenarioDatagram.IsTransport) :=
  ⟨_, rfl, empty_application_name_routes_every_owned_flow { scenarioRouter with appName := "" }
    scenarioDatagram _ rfl rfl⟩

end NdisRebind

import NdisRebind.Net.Checksum
import NdisRebind.Process.Lookup
import NdisRebind.Driver.Adapters

namespace NdisRebind

/-- Modelled from the spec: `ndisapi::dual_packet_filter::packet_action` is not part of the
repository; these are the verdicts the spec names. -/
inductive PacketAction
  | pass
  | drop
  | route
  deriving DecidableEq, Repr

/-- How a lambda call ends without a verdict: `process->name` on an empty `shared_ptr`. -/
inductive FilterFault
  | nullProcessDereference
  deriving DecidableEq, Repr

/-- `rebind_router`, beside the `process_lookup` singleton its lambdas consult. -/
structure RebindRouter where
  filter : DualPacketFilter
  defaultAdapterHandle : Handle
  rebindAdapterHandle : Handle
  appName : String
  rebindSrcHwAddress : MacAddress
  defaultSrcHwAddress : MacAddress
  rebindGwHwAddress : MacAddress
  rebindSrcIpAddress : IpAddressV4
  defaultSrcIpAddress : IpAddressV4
  fileStream : List IntermediateBuffer
  processHelper : ProcessLookup

/-- The members the two lambdas read. -/
structure Binding where
  appName : String
  defaultSrcIpAddress : IpAddressV4
  rebindSrcIpAddress : IpAddressV4
  defaultSrcHwAddress : MacAddress
  rebindSrcHwAddress : MacAddress
  rebindGwHwAddress : MacAddress
  deriving DecidableEq

def RebindRouter.binding (router : RebindRouter) : Binding :=
  ⟨router.appName, router.defaultSrcIpAddress, router.rebindSrcIpAddress,
    router.defaultSrcHwAddress, router.rebindSrcHwAddress, router.rebindGwHwAddress⟩

structure FilterStep where
  action : PacketAction
  buffer : IntermediateBuffer
  router : RebindRouter

namespace IntermediateBuffer

def IsTransport (buffer : IntermediateBuffer) : Prop :=
  buffer.ipP = IPPROTO_UDP ∨ buffer.ipP = IPPROTO_TCP

instance (buffer : IntermediateBuffer) : Decidable buffer.IsTransport :=
  inferInstanceAs (Decidable (_ ∨ _))

end IntermediateBuffer

open IntermediateBuffer

/-- Where `th_sum` sits in the UDP header and, for any other protocol, in the TCP header. -/
def checksumField (protocol : UInt8) : Nat := if protocol = IPPROTO_UDP then 6 else 16

def IntermediateBuffer.transportChecksumOffset (buffer : IntermediateBuffer) : Nat :=
  buffer.transportOffset + checksumField buffer.ipP

def transportRecalculation (protocol : UInt8) : IntermediateBuffer → IntermediateBuffer :=
  if protocol = IPPROTO_UDP then recalculateUDPChecksum else recalculateTCPChecksum

def egressOwner (helper : ProcessLookup) (buffer : IntermediateBuffer) :
    Option NetworkProcess × ProcessLookup :=
  if buffer.ipP = IPPROTO_UDP then resolveProcessForUdp helper buffer
  else resolveProcessForTcp helper buffer

/-- `ip_src`, `h_source` and `h_dest` as the outgoing lambda assigns them. -/
def egressAddresses (router : RebindRouter) (buffer : IntermediateBuffer) : IntermediateBuffer :=
  ((buffer.setIpSrc router.rebindSrcIpAddress).setHSource router.rebindSrcHwAddress).setHDest
    router.rebindGwHwAddress

def egressRewrite (router : RebindRouter) (recalculate : IntermediateBuffer → IntermediateBuffer)
    (buffer : IntermediateBuffer) : IntermediateBuffer :=
  recalculateIPChecksum (recalculate (egressAddresses router buffer))

/-- The tail both branches of the outgoing lambda share once `resolve_process_for_*` returned. -/
def routeOwned (router : RebindRouter) (buffer : IntermediateBuffer)
    (recalculate : IntermediateBuffer → IntermediateBuffer) :
    Option NetworkProcess × ProcessLookup → Except FilterFault FilterStep
  | (none, _) => .error .nullProcessDereference
  | (some process, helper) =>
    if (stringFind process.name router.appName).isSome then
      let routed := egressRewrite router recalculate buffer
      .ok ⟨.route, routed,
        { router with processHelper := helper, fileStream := router.fileStream ++ [routed] }⟩
    else .ok ⟨.pass, buffer, { router with processHelper := helper }⟩

/-- The outgoing lambda of the default adapter. -/
def egressFilter (router : RebindRouter) (buffer : IntermediateBuffer) :
    Except FilterFault FilterStep :=
  if buffer.hProto = ETH_P_IP then
    if buffer.ipSrc ≠ router.defaultSrcIpAddress then .ok ⟨.pass, buffer, router⟩
    else if buffer.ipP = IPPROTO_UDP then
      routeOwned router buffer recalculateUDPChecksum (resolveProcessForUdp router.processHelper buffer)
    else if buffer.ipP = IPPROTO_TCP then
      routeOwned router buffer recalculateTCPChecksum (resolveProcessForTcp router.processHelper buffer)
    else .ok ⟨.pass, buffer, router⟩
  else .ok ⟨.pass, buffer, router⟩

/-- `ip_dst` and `h_dest` as the incoming lambda assigns them. -/
def ingressAddresses (router : RebindRouter) (buffer : IntermediateBuffer) : IntermediateBuffer :=
  (buffer.setIpDst router.defaultSrcIpAddress).setHDest router.defaultSrcHwAddress

def ingressRewrite (router : RebindRouter) (buffer : IntermediateBuffer) : IntermediateBuffer :=
  let rewritten := ingressAddresses router buffer
  recalculateIPChecksum
    (if rewritten.ipP = IPPROTO_UDP then recalculateUDPChecksum rewritten
    else if rewritten.ipP = IPPROTO_TCP then recalculateTCPChecksum rewritten
    else rewritten)

/-- The incoming lambda of the rebind adapter. -/
def ingressFilter (router : RebindRouter) (buffer : IntermediateBuffer) : FilterStep :=
  if buffer.hProto = ETH_P_IP then
    if buffer.ipDst ≠ router.rebindSrcIpAddress then ⟨.pass, buffer, router⟩
    else if buffer.ipP = IPPROTO_UDP ∨ buffer.ipP = IPPROTO_TCP then
      let routed := ingressRewrite router buffer
      ⟨.route, routed, { router with fileStream := router.fileStream ++ [routed] }⟩
    else ⟨.pass, buffer, router⟩
  else ⟨.pass, buffer, router⟩

def EgressMatches (router : RebindRouter) (buffer : IntermediateBuffer) : Prop :=
  buffer.hProto = ETH_P_IP ∧ buffer.ipSrc = router.defaultSrcIpAddress ∧ buffer.IsTransport ∧
    ∃ process, (egressOwner router.processHelper buffer).1 = some process ∧
      router.appName.data <:+: process.name.data

def IngressMatches (router : RebindRouter) (buffer : IntermediateBuffer) : Prop :=
  buffer.hProto = ETH_P_IP ∧ buffer.ipDst = router.rebindSrcIpAddress ∧ buffer.IsTransport

instance (router : RebindRouter) (buffer : IntermediateBuffer) :
    Decidable (IngressMatches router buffer) :=
  inferInstanceAs (Decidable (_ ∧ _ ∧ _))

/-- A router bound to default address 10.0.0.5 with MAC `AA`, rebind address 10.0.0.9 with MAC `BB`,
gateway MAC `CC` and application `vpnclient.exe`, before `start`. Its snapshots are empty, and the
system's UDP table gives port 5000 on 10.0.0.5 to `C:\apps\vpnclient.exe`. -/
def scenarioRouter : RebindRouter where
  filter := ⟨[], none, none⟩
  defaultAdapterHandle := INVALID_HANDLE_VALUE
  rebindAdapterHandle := INVALID_HANDLE_VALUE
  appName := "vpnclient.exe"
  rebindSrcHwAddress := ⟨[0xBB, 0xBB, 0xBB, 0xBB, 0xBB, 0xBB], rfl⟩
  defaultSrcHwAddress := ⟨[0xAA, 0xAA, 0xAA, 0xAA, 0xAA, 0xAA], rfl⟩
  rebindGwHwAddress := ⟨[0xCC, 0xCC, 0xCC, 0xCC, 0xCC, 0xCC], rfl⟩
  rebindSrcIpAddress := ⟨[10, 0, 0, 9], rfl⟩
  defaultSrcIpAddress := ⟨[10, 0, 0, 5], rfl⟩
  fileStream := []
  processHelper := ⟨[], [], [], [(⟨⟨[10, 0, 0, 5], rfl⟩, 5000⟩, ⟨"C:\\apps\\vpnclient.exe"⟩)]⟩

/-- UDP from 10.0.0.5:5000 to 8.8.8.8:53, sent to MAC `11`, with no payload. -/
def scenarioDatagram : IntermediateBuffer := IntermediateBuffer.ofBytes
  [0x11, 0x11, 0x11, 0x11, 0x11, 0x11, 0xAA, 0xAA, 0xAA, 0xAA, 0xAA, 0xAA, 0x08, 0x00,
   0x45, 0, 0, 28, 0, 1, 0, 0, 64, 17, 0, 0, 10, 0, 0, 5, 8, 8, 8, 8,
   0x13, 0x88, 0, 53, 0, 8, 0, 0]

/-- The answer to the rewritten datagram: UDP from 8.8.8.8:53 to 10.0.0.9:5000 through gateway `CC`. -/
def scenarioReply : IntermediateBuffer := IntermediateBuffer.ofBytes
  [0xBB, 0xBB, 0xBB, 0xBB, 0xBB, 0xBB, 0xCC, 0xCC, 0xCC, 0xCC, 0xCC, 0xCC, 0x08, 0x00,
   0x45, 0, 0, 28, 0, 2, 0, 0, 64, 17, 0, 0, 8, 8, 8, 8, 10, 0, 0, 9,
   0, 53, 0x13, 0x88, 0, 8, 0, 0]

section Inversion

variable {router : RebindRouter} {buffer : IntermediateBuffer}

theorem egressFilter_eq (router : RebindRouter) (buffer : IntermediateBuffer) :
    egressFilter router buffer =
      if buffer.hProto = ETH_P_IP ∧ buffer.ipSrc = router.defaultSrcIpAddress ∧ buffer.IsTransport then
        routeOwned router buffer (transportRecalculation buffer.ipP)
          (egressOwner router.processHelper buffer)
      else .ok ⟨.pass, buffer, router⟩ := by
  have distinct : IPPROTO_UDP ≠ IPPROTO_TCP := by decide
  unfold egressFilter IsTransport transportRecalculation egressOwner
  by_cases proto : buffer.hProto = ETH_P_IP <;>
    by_cases source : buffer.ipSrc = router.defaultSrcIpAddress <;>
    by_cases udp : buffer.ipP = IPPROTO_UDP <;> by_cases tcp : buffer.ipP = IPPROTO_TCP <;>
    simp [proto, source, udp, tcp, distinct.symm]

theorem routeOwned_eq_ok {recalculate : IntermediateBuffer → IntermediateBuffer}
    {owner : Option NetworkProcess × ProcessLookup} {step : FilterStep}
    (h : routeOwned router buffer recalculate owner = .ok step) :
    (step.action = .pass ∧ step.buffer = buffer ∧
      step.router = { router with processHelper := owner.snd }) ∨
    (step.action = .route ∧
      (∃ process, owner.fst = some process ∧ router.appName.data <:+: process.name.data) ∧
      step.buffer = egressRewrite router recalculate buffer ∧
      step.router =
        { router with processHelper := owner.snd, fileStream := router.fileStream ++ [step.buffer] }) := by
  rcases owner with ⟨_ | process, helper⟩
  · cases h
  · simp only [routeOwned] at h
    split_ifs at h with found
    · cases h
      exact .inr ⟨rfl, ⟨process, rfl, stringFind_isSome_iff.mp found⟩, rfl, rfl⟩
    · cases h
      exact .inl ⟨rfl, rfl, rfl⟩

theorem egressFilter_eq_ok {step : FilterStep} (h : egressFilter router buffer = .ok step) :
    (step.action = .pass ∧ step.buffer = buffer ∧ step.router.binding = router.binding ∧
      step.router.fileStream = router.fileStream) ∨
    (step.action = .route ∧ EgressMatches router buffer ∧
      step.buffer = egressRewrite router (transportRecalculation buffer.ipP) buffer ∧
      step.router.binding = router.binding ∧
      step.router.fileStream = router.fileStream ++ [step.buffer]) := by
  rw [egressFilter_eq] at h
  split_ifs at h with matched
  · rcases routeOwned_eq_ok h with ⟨pass, same, hrouter⟩ | ⟨route, owned, rewritten, hrouter⟩
    · exact .inl ⟨pass, same, by rw [hrouter]; rfl, by rw [hrouter]⟩
    · exact .inr ⟨route, ⟨matched.1, matched.2.1, matched.2.2, owned⟩, rewritten,
        by rw [hrouter]; rfl, by rw [hrouter]⟩
  · cases h
    exact .inl ⟨rfl, rfl, rfl, rfl⟩

theorem egressFilter_eq_error_iff :
    egressFilter router buffer = .error .nullProcessDereference ↔
      buffer.hProto = ETH_P_IP ∧ buffer.ipSrc = router.defaultSrcIpAddress ∧ buffer.IsTransport ∧
        (egressOwner router.processHelper buffer).1 = none := by
  rw [egressFilter_eq]
  rcases egressOwner router.processHelper buffer with ⟨_ | process, helper⟩
  · split_ifs with matched <;> simp [routeOwned, matched]
  · split_ifs with matched
    · simp only [routeOwned]
      split_ifs <;> simp
    · simp [matched]

theorem ingressFilter_of_matches (matched : IngressMatches router buffer) :
    ingressFilter router buffer = ⟨.route, ingressRewrite router buffer,
      { router with fileStream := router.fileStream ++ [ingressRewrite router buffer] }⟩ := by
  obtain ⟨proto, destination, transport⟩ := matched
  simp only [IsTransport] at transport
  simp only [ingressFilter, proto, destination, ne_eq, not_true_eq_false, if_false, if_true,
    if_pos transport]

theorem ingressFilter_of_not_matches (unmatched : ¬ IngressMatches router buffer) :
    ingressFilter router buffer = ⟨.pass, buffer, router⟩ := by
  simp only [IngressMatches, IsTransport, not_and] at unmatched
  unfold ingressFilter
  split_ifs with proto destination transport <;> simp_all

end Inversion

end NdisRebind

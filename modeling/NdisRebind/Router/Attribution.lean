import NdisRebind.Router.Faults

namespace NdisRebind

namespace ProcessLookup

/-- Every entry of each snapshot is the system table's entry for its key. -/
def Coherent (helper : ProcessLookup) : Prop :=
  (∀ session process, helper.tcpSnapshot.lookup session = some process →
    helper.tcpTable.lookup session = some process) ∧
  (∀ endpoint process, helper.udpSnapshot.lookup endpoint = some process →
    helper.udpTable.lookup endpoint = some process)

theorem Coherent.actualize {helper : ProcessLookup} (coherent : helper.Coherent) (tcp udp : Bool) :
    (helper.actualize tcp udp).Coherent := by
  refine ⟨fun session process found => ?_, fun endpoint process found => ?_⟩
  · cases tcp
    · exact coherent.1 session process found
    · exact found
  · cases udp
    · exact coherent.2 endpoint process found
    · exact found

end ProcessLookup

/-- The owner the system table gives the frame's key, on the protocol branch the outgoing lambda
takes. -/
def tableOwner (helper : ProcessLookup) (buffer : IntermediateBuffer) : Option NetworkProcess :=
  if buffer.ipP = IPPROTO_UDP then helper.udpTable.lookup buffer.udpEndpoint
  else helper.tcpTable.lookup buffer.tcpSession

section Owner

variable {helper : ProcessLookup} {buffer : IntermediateBuffer}

theorem egressOwner_fst_of_coherent (coherent : helper.Coherent) :
    (egressOwner helper buffer).1 = tableOwner helper buffer := by
  unfold egressOwner tableOwner
  split_ifs
  · rw [(resolveProcessFor_fst helper buffer).2]
    cases found : helper.udpSnapshot.lookup buffer.udpEndpoint with
    | none => rfl
    | some process => exact (coherent.2 _ _ found).symm
  · rw [(resolveProcessFor_fst helper buffer).1]
    cases found : helper.tcpSnapshot.lookup buffer.tcpSession with
    | none => rfl
    | some process => exact (coherent.1 _ _ found).symm

theorem egressOwner_snd (helper : ProcessLookup) (buffer : IntermediateBuffer) :
    ∃ tcp udp, (egressOwner helper buffer).2 = helper ∨
      (egressOwner helper buffer).2 = (helper.actualize tcp udp).actualize tcp udp := by
  unfold egressOwner resolveProcessForUdp resolveProcessForTcp
  split_ifs
  · exact ⟨false, true, resolveProcess_snd ProcessLookup.lookupProcessForUdp
      (·.actualize false true) helper buffer.udpEndpoint⟩
  · exact ⟨true, false, resolveProcess_snd ProcessLookup.lookupProcessForTcp
      (·.actualize true false) helper buffer.tcpSession⟩

end Owner

namespace RebindRouter

variable {router next : RebindRouter} {call : RouterCall}

theorem egressFilter_processHelper {buffer : IntermediateBuffer} {step : FilterStep}
    (routed : egressFilter router buffer = .ok step) :
    step.router.processHelper = router.processHelper ∨
      step.router.processHelper = (egressOwner router.processHelper buffer).2 := by
  rw [egressFilter_eq] at routed
  split_ifs at routed
  · rcases routeOwned_eq_ok routed with ⟨-, -, same⟩ | ⟨-, -, -, same⟩ <;> exact .inr (by rw [same])
  · cases routed
    exact .inl rfl

theorem step_processHelper (stepped : router.step call = some next)
    (steady : ∀ tcp udp, call ≠ .connectionTables tcp udp) :
    next.processHelper = router.processHelper ∨
      ∃ buffer, next.processHelper = (egressOwner router.processHelper buffer).2 := by
  cases call with
  | setNdisInterfacesByAdapterInfo defaultAdapter rebindAdapter =>
    simp only [step] at stepped
    split at stepped
    next configures =>
      obtain ⟨_, _, -, -, rfl⟩ := setNdisInterfacesByAdapterInfo_eq_ok configures
      cases stepped
      exact .inl rfl
    next =>
      cases stepped
      exact .inl rfl
  | start defaultAccepted rebindAccepted =>
    simp only [step, start, Option.some.injEq] at stepped
    subst stepped
    left
    split_ifs <;> rfl
  | defaultAdapterPacket buffer =>
    obtain ⟨filterStep, routed, rfl⟩ := step_defaultAdapterPacket stepped
    exact (egressFilter_processHelper routed).imp_right fun changed => ⟨buffer, changed⟩
  | rebindAdapterPacket buffer =>
    rw [← step_rebindAdapterPacket stepped, ingressFilter_router]
    exact .inl rfl
  | connectionTables tcp udp => exact absurd rfl (steady tcp udp)
  | setApplicationName | stop =>
    cases stepped
    exact .inl rfl

theorem run_coherent {calls : List RouterCall} {final : RebindRouter}
    (coherent : router.processHelper.Coherent)
    (steady : ∀ call ∈ calls, ∀ tcp udp, call ≠ .connectionTables tcp udp)
    (ran : router.run calls = some final) :
    final.processHelper.Coherent ∧ final.processHelper.tcpTable = router.processHelper.tcpTable ∧
      final.processHelper.udpTable = router.processHelper.udpTable := by
  induction calls generalizing router with
  | nil =>
    cases ran
    exact ⟨coherent, rfl, rfl⟩
  | cons call calls ih =>
    obtain ⟨next, stepped, rest⟩ := Option.bind_eq_some.mp ran
    have nextCoherent : next.processHelper.Coherent ∧
        next.processHelper.tcpTable = router.processHelper.tcpTable ∧
        next.processHelper.udpTable = router.processHelper.udpTable := by
      rcases step_processHelper stepped (steady call (List.mem_cons_self _ _)) with
        same | ⟨buffer, changed⟩
      · rw [same]
        exact ⟨coherent, rfl, rfl⟩
      · obtain ⟨tcp, udp, kept | reloaded⟩ := egressOwner_snd router.processHelper buffer
        · rw [changed, kept]
          exact ⟨coherent, rfl, rfl⟩
        · rw [changed, reloaded]
          exact ⟨(coherent.actualize tcp udp).actualize tcp udp, rfl, rfl⟩
    obtain ⟨finalCoherent, tcpSame, udpSame⟩ :=
      ih nextCoherent.1 (fun call member => steady call (List.mem_cons_of_mem _ member)) rest
    exact ⟨finalCoherent, tcpSame.trans nextCoherent.2.1, udpSame.trans nextCoherent.2.2⟩

end RebindRouter

theorem snapshot_refines_system_table (router : RebindRouter) (calls : List RouterCall)
    (final : RebindRouter) (coherent : router.processHelper.Coherent)
    (steady : ∀ call ∈ calls, ∀ tcp udp, call ≠ .connectionTables tcp udp)
    (ran : router.run calls = some final) :
    final.processHelper.Coherent ∧
      ∀ buffer, (egressOwner final.processHelper buffer).1 = tableOwner router.processHelper buffer := by
  obtain ⟨finalCoherent, tcpSame, udpSame⟩ := RebindRouter.run_coherent coherent steady ran
  refine ⟨finalCoherent, fun buffer => ?_⟩
  rw [egressOwner_fst_of_coherent finalCoherent, tableOwner, tableOwner, tcpSame, udpSame]

theorem scenario_snapshot_refines_table :
    ∃ final, scenarioRouter.run [.start true true, .defaultAdapterPacket scenarioDatagram] = some final ∧
      final.processHelper.Coherent ∧
      ∀ buffer, (egressOwner final.processHelper buffer).1 = tableOwner scenarioRouter.processHelper buffer :=
  ⟨_, rfl, snapshot_refines_system_table scenarioRouter
    [.start true true, .defaultAdapterPacket scenarioDatagram] _
    ⟨fun _ _ found => (by cases found), fun _ _ found => (by cases found)⟩ (by simp) rfl⟩

end NdisRebind

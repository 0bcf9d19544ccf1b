import NdisRebind.Router.Interleaving

namespace NdisRebind

/-- The outgoing lambda dereferences an empty owner on this frame. -/
def UnattributedEgress (router : RebindRouter) (buffer : IntermediateBuffer) : Prop :=
  buffer.hProto = ETH_P_IP ∧ buffer.ipSrc = router.defaultSrcIpAddress ∧ buffer.IsTransport ∧
    (egressOwner router.processHelper buffer).1 = none

namespace RebindRouter

section Steps

variable {router next : RebindRouter} {call : RouterCall}

theorem egressFilter_toOption_eq_none {buffer : IntermediateBuffer} :
    (egressFilter router buffer).toOption = none ↔ UnattributedEgress router buffer := by
  rw [UnattributedEgress, ← egressFilter_eq_error_iff]
  rcases egressFilter router buffer with ⟨⟩ | step <;> simp [Except.toOption]

theorem step_eq_none_iff_of_filtering (filtering : router.Filtering) :
    router.step call = none ↔
      ∃ buffer, call = .defaultAdapterPacket buffer ∧ UnattributedEgress router buffer := by
  obtain ⟨first, second⟩ := filtering
  cases call with
  | setNdisInterfacesByAdapterInfo =>
    simp only [step, reduceCtorEq, false_and, exists_false, iff_false]
    split <;> simp
  | defaultAdapterPacket buffer =>
    simp [step, first, egressFilter_toOption_eq_none]
  | rebindAdapterPacket buffer => simp [step, second]
  | _ => simp [step]

theorem step_filtering (filtering : router.Filtering) (running : call ≠ .stop)
    (stepped : router.step call = some next) : next.Filtering := by
  obtain ⟨first, second⟩ := filtering
  cases call with
  | setNdisInterfacesByAdapterInfo defaultAdapter rebindAdapter =>
    simp only [step] at stepped
    split at stepped
    next configures =>
      obtain ⟨_, _, -, -, rfl⟩ := setNdisInterfacesByAdapterInfo_eq_ok configures
      cases stepped
      exact ⟨first, second⟩
    next =>
      cases stepped
      exact ⟨first, second⟩
  | start defaultAccepted rebindAccepted =>
    cases stepped
    cases defaultAccepted <;> cases rebindAccepted <;>
      simp [Filtering, start, DualPacketFilter.startFilter, first, second]
  | stop => exact absurd rfl running
  | defaultAdapterPacket buffer =>
    obtain ⟨filterStep, routed, rfl⟩ := step_defaultAdapterPacket stepped
    obtain ⟨helper, shape⟩ := egressFilter_eq_ok_router routed
    rw [shape]
    exact ⟨first, second⟩
  | rebindAdapterPacket buffer =>
    rw [← step_rebindAdapterPacket stepped, ingressFilter_router]
    exact ⟨first, second⟩
  | setApplicationName | connectionTables =>
    cases stepped
    exact ⟨first, second⟩

end Steps

end RebindRouter

theorem filtering_session_faults_only_on_unattributed (router : RebindRouter)
    (calls : List RouterCall) (filtering : router.Filtering) (running : ∀ call ∈ calls, call ≠ .stop) :
    router.run calls = none ↔
      ∃ front buffer rest middle, calls = front ++ .defaultAdapterPacket buffer :: rest ∧
        router.run front = some middle ∧ UnattributedEgress middle buffer := by
  induction calls generalizing router with
  | nil => simp [RebindRouter.run]
  | cons call calls ih =>
    have stillRunning := fun call member => running call (List.mem_cons_of_mem _ member)
    cases stepped : router.step call with
    | none =>
      obtain ⟨buffer, rfl, fault⟩ := (RebindRouter.step_eq_none_iff_of_filtering filtering).mp stepped
      simp only [RebindRouter.run, stepped, Option.none_bind, true_iff]
      exact ⟨[], buffer, calls, router, rfl, rfl, fault⟩
    | some next =>
      have nextFiltering :=
        RebindRouter.step_filtering filtering (running call (List.mem_cons_self _ _)) stepped
      rw [RebindRouter.run, stepped, Option.some_bind, ih next nextFiltering stillRunning]
      constructor
      · rintro ⟨front, buffer, rest, middle, rfl, ran, fault⟩
        exact ⟨call :: front, buffer, rest, middle, rfl,
          by simpa only [RebindRouter.run, stepped, Option.some_bind] using ran, fault⟩
      · rintro ⟨_ | ⟨first, front⟩, buffer, rest, middle, split, ran, fault⟩
        · simp only [List.nil_append, List.cons.injEq] at split
          obtain ⟨rfl, rfl⟩ := split
          cases ran
          have blocked := (RebindRouter.step_eq_none_iff_of_filtering filtering).mpr ⟨buffer, rfl, fault⟩
          rw [stepped] at blocked
          cases blocked
        · simp only [List.cons_append, List.cons.injEq] at split
          obtain ⟨rfl, rfl⟩ := split
          exact ⟨front, buffer, rest, middle, rfl,
            by simpa only [RebindRouter.run, stepped, Option.some_bind] using ran, fault⟩

theorem closed_socket_faults_filtering_session :
    filteringRouter.Filtering ∧
      (∀ call ∈ [RouterCall.connectionTables [] [], .defaultAdapterPacket scenarioDatagram],
        call ≠ .stop) ∧
      filteringRouter.run [.connectionTables [] [], .defaultAdapterPacket scenarioDatagram] = none ∧
        ∃ front buffer rest middle,
          [RouterCall.connectionTables [] [], .defaultAdapterPacket scenarioDatagram] =
            front ++ .defaultAdapterPacket buffer :: rest ∧
          filteringRouter.run front = some middle ∧ UnattributedEgress middle buffer :=
  have faults := filtering_session_faults_only_on_unattributed filteringRouter
    [.connectionTables [] [], .defaultAdapterPacket scenarioDatagram] (by decide) (by simp)
  have stops : filteringRouter.run [.connectionTables [] [], .defaultAdapterPacket scenarioDatagram] =
    none := rfl
  ⟨by decide, by simp, stops, faults.mp stops⟩

end NdisRebind

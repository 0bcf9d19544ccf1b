import NdisRebind.Router.Configuration

namespace NdisRebind

/-- The calls one `rebind_router` sees: `main`'s configuration calls, `start` and `stop` with the
driver's answers, the two lambdas as the driver invokes them, and changes of the system's
connection tables. -/
inductive RouterCall
  | setNdisInterfacesByAdapterInfo (defaultAdapter rebindAdapter : NetworkAdapterInfo)
  | setApplicationName (name : String)
  | start (defaultAccepted rebindAccepted : Bool)
  | stop
  | defaultAdapterPacket (buffer : IntermediateBuffer)
  | rebindAdapterPacket (buffer : IntermediateBuffer)
  | connectionTables (tcp : List (IpSession × NetworkProcess)) (udp : List (IpEndpoint × NetworkProcess))

def RouterCall.IsConfiguration : RouterCall → Prop
  | .setNdisInterfacesByAdapterInfo _ _ | .setApplicationName _ => True
  | _ => False

/-- What `file_stream_ << buffer` writes after a callback: the frame, when it is routed. -/
def FilterStep.written (filterStep : FilterStep) : List IntermediateBuffer :=
  if filterStep.action = .route then [filterStep.buffer] else []

namespace RebindRouter

def Filtering (router : RebindRouter) : Prop :=
  router.filter.firstAdapter.isSome ∧ router.filter.secondAdapter.isSome

instance (router : RebindRouter) : Decidable router.Filtering :=
  inferInstanceAs (Decidable (_ ∧ _))

/-- One call. `none` when it cannot happen, a packet on an adapter that is not being filtered,
or when the lambda faults. A failed `set_ndis_interfaces_by_adapter_info` leaves the router. -/
def step (router : RebindRouter) : RouterCall → Option RebindRouter
  | .setNdisInterfacesByAdapterInfo defaultAdapter rebindAdapter =>
    match router.setNdisInterfacesByAdapterInfo defaultAdapter rebindAdapter with
    | .ok configured => some configured
    | .error _ => some router
  | .setApplicationName name => some (router.setApplicationName name)
  | .start defaultAccepted rebindAccepted => some (router.start defaultAccepted rebindAccepted).2
  | .stop => some router.stop
  | .defaultAdapterPacket buffer =>
    if router.filter.firstAdapter.isSome then (egressFilter router buffer).toOption.map (·.router)
    else none
  | .rebindAdapterPacket buffer =>
    if router.filter.secondAdapter.isSome then some (ingressFilter router buffer).router else none
  | .connectionTables tcp udp =>
    some { router with processHelper := { router.processHelper with tcpTable := tcp, udpTable := udp } }

def run (router : RebindRouter) : List RouterCall → Option RebindRouter
  | [] => some router
  | call :: calls => (router.step call).bind fun next => next.run calls

def routedFrames (router : RebindRouter) : RouterCall → List IntermediateBuffer
  | .defaultAdapterPacket buffer => match egressFilter router buffer with
    | .ok filterStep => filterStep.written
    | .error _ => []
  | .rebindAdapterPacket buffer => (ingressFilter router buffer).written
  | _ => []

def dump (router : RebindRouter) : List RouterCall → List IntermediateBuffer
  | [] => []
  | call :: calls => match router.step call with
    | some next => router.routedFrames call ++ next.dump calls
    | none => []

section Steps

variable {router next : RebindRouter} {buffer : IntermediateBuffer}

theorem step_defaultAdapterPacket (stepped : router.step (.defaultAdapterPacket buffer) = some next) :
    ∃ filterStep, egressFilter router buffer = .ok filterStep ∧ filterStep.router = next := by
  simp only [step] at stepped
  split_ifs at stepped
  cases routed : egressFilter router buffer with
  | error => simp [routed, Except.toOption] at stepped
  | ok filterStep => exact ⟨filterStep, rfl, by simpa [routed, Except.toOption] using stepped⟩

theorem step_rebindAdapterPacket (stepped : router.step (.rebindAdapterPacket buffer) = some next) :
    (ingressFilter router buffer).router = next := by
  simp only [step] at stepped
  split_ifs at stepped
  exact Option.some.inj stepped

theorem ingressFilter_router (router : RebindRouter) (buffer : IntermediateBuffer) :
    (ingressFilter router buffer).router =
      { router with fileStream := router.fileStream ++ (ingressFilter router buffer).written } := by
  by_cases matched : IngressMatches router buffer
  · rw [ingressFilter_of_matches matched]
    rfl
  · simp [ingressFilter_of_not_matches matched, FilterStep.written]

theorem egressFilter_fileStream {filterStep : FilterStep}
    (routed : egressFilter router buffer = .ok filterStep) :
    filterStep.router.fileStream = router.fileStream ++ filterStep.written := by
  rcases egressFilter_eq_ok routed with ⟨pass, -, -, log⟩ | ⟨route, -, -, -, log⟩
  · simp [FilterStep.written, pass, log]
  · simp [FilterStep.written, route, log]

theorem step_eq_some {call : RouterCall} (stepped : router.step call = some next) :
    next.fileStream = router.fileStream ++ router.routedFrames call ∧
      (call.IsConfiguration → next.filter = router.filter) ∧
      (¬ call.IsConfiguration → next.binding = router.binding) := by
  cases call with
  | setNdisInterfacesByAdapterInfo defaultAdapter rebindAdapter =>
    simp only [step] at stepped
    split at stepped
    next configures =>
      obtain ⟨_, _, -, -, rfl⟩ := setNdisInterfacesByAdapterInfo_eq_ok configures
      cases stepped
      exact ⟨(List.append_nil _).symm, fun _ => rfl, fun quiet => absurd trivial quiet⟩
    next =>
      cases stepped
      exact ⟨(List.append_nil _).symm, fun _ => rfl, fun quiet => absurd trivial quiet⟩
  | setApplicationName =>
    cases stepped
    exact ⟨(List.append_nil _).symm, fun _ => rfl, fun quiet => absurd trivial quiet⟩
  | start defaultAccepted rebindAccepted =>
    simp only [step, start, Option.some.injEq] at stepped
    subst stepped
    split_ifs <;> exact ⟨(List.append_nil _).symm, False.elim, fun _ => rfl⟩
  | defaultAdapterPacket buffer =>
    obtain ⟨filterStep, routed, rfl⟩ := step_defaultAdapterPacket stepped
    refine ⟨by simp only [routedFrames, routed, egressFilter_fileStream routed], False.elim, fun _ => ?_⟩
    rcases egressFilter_eq_ok routed with ⟨-, -, same, -⟩ | ⟨-, -, -, same, -⟩ <;> exact same
  | rebindAdapterPacket buffer =>
    rw [← step_rebindAdapterPacket stepped, ingressFilter_router]
    exact ⟨rfl, False.elim, fun _ => rfl⟩
  | stop | connectionTables =>
    cases stepped
    exact ⟨(List.append_nil _).symm, False.elim, fun _ => rfl⟩

end Steps

theorem run_binding {router final : RebindRouter} {calls : List RouterCall}
    (ran : router.run calls = some final) (quiet : ∀ call ∈ calls, ¬ call.IsConfiguration) :
    final.binding = router.binding := by
  induction calls generalizing router with
  | nil =>
    cases ran
    rfl
  | cons call calls ih =>
    obtain ⟨next, stepped, rest⟩ := Option.bind_eq_some.mp ran
    rw [ih rest fun other member => quiet other (List.mem_cons_of_mem _ member),
      (step_eq_some stepped).2.2 (quiet call (List.mem_cons_self _ _))]

theorem run_fileStream {router final : RebindRouter} {calls : List RouterCall}
    (ran : router.run calls = some final) : final.fileStream = router.fileStream ++ router.dump calls := by
  induction calls generalizing router with
  | nil =>
    cases ran
    exact (List.append_nil _).symm
  | cons call calls ih =>
    obtain ⟨next, stepped, rest⟩ := Option.bind_eq_some.mp ran
    rw [ih rest, (step_eq_some stepped).1, dump, stepped, List.append_assoc]

theorem scenario_session_dump :
    ∃ final, scenarioRouter.run [.start true true, .defaultAdapterPacket scenarioDatagram,
        .rebindAdapterPacket scenarioReply] = some final ∧
      final.fileStream = scenarioRouter.fileStream ++ scenarioRouter.dump [.start true true,
        .defaultAdapterPacket scenarioDatagram, .rebindAdapterPacket scenarioReply] :=
  ⟨_, rfl, run_fileStream rfl⟩

theorem setNdisInterfacesByAdapterInfo_filtering (router : RebindRouter)
    (firstAdapter secondAdapter : Option Handle) (defaultAdapter rebindAdapter : NetworkAdapterInfo) :
    ({ router with filter := { router.filter with firstAdapter, secondAdapter } }
        |>.setNdisInterfacesByAdapterInfo defaultAdapter rebindAdapter).toOption.map binding =
      (router.setNdisInterfacesByAdapterInfo defaultAdapter rebindAdapter).toOption.map binding := by
  unfold setNdisInterfacesByAdapterInfo
  dsimp only
  split <;> (try split_ifs) <;> rfl

end RebindRouter

theorem binding_changes_only_by_configuration :
    (∀ (router final : RebindRouter) (calls : List RouterCall), router.run calls = some final →
      (∀ call ∈ calls, ¬ call.IsConfiguration) → final.binding = router.binding) ∧
    (∀ (router next : RebindRouter) (call : RouterCall), router.step call = some next →
      call.IsConfiguration → next.filter = router.filter) ∧
    (∀ (router : RebindRouter) (name : String),
      (router.step (.setApplicationName name)).map RebindRouter.binding =
        some { router.binding with appName := name }) ∧
    (∀ (router : RebindRouter) (firstAdapter secondAdapter : Option Handle)
      (defaultAdapter rebindAdapter : NetworkAdapterInfo),
      ({ router with filter := { router.filter with firstAdapter, secondAdapter } }
          |>.setNdisInterfacesByAdapterInfo defaultAdapter rebindAdapter).toOption.map
            RebindRouter.binding =
        (router.setNdisInterfacesByAdapterInfo defaultAdapter rebindAdapter).toOption.map
          RebindRouter.binding) :=
  ⟨fun _ _ _ ran quiet => RebindRouter.run_binding ran quiet,
    fun _ _ _ stepped => (RebindRouter.step_eq_some stepped).2.1,
    fun _ _ => rfl, RebindRouter.setNdisInterfacesByAdapterInfo_filtering⟩

def filteringRouter : RebindRouter := (scenarioRouter.start true true).2

theorem renaming_while_filtering_changes_verdict :
    filteringRouter.Filtering ∧
      (egressFilter filteringRouter scenarioDatagram).toOption.map (·.action) = some .route ∧
      ∃ renamed, filteringRouter.step (.setApplicationName "browser.exe") = some renamed ∧
        renamed.Filtering ∧
        (egressFilter renamed scenarioDatagram).toOption.map (·.action) = some .pass :=
  ⟨by decide, by decide, _, rfl, by decide, by decide⟩

end NdisRebind

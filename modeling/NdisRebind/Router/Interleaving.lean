import NdisRebind.Router.Session

namespace NdisRebind

/-- `Interleave t u w`: `w` merges `t` and `u`, keeping the order of each. -/
inductive Interleave {α : Type} : List α → List α → List α → Prop
  | nil : Interleave [] [] []
  | left {a : α} {t u w : List α} : Interleave t u w → Interleave (a :: t) u (a :: w)
  | right {a : α} {t u w : List α} : Interleave t u w → Interleave t (a :: u) (a :: w)

namespace Interleave

variable {α : Type} {t u w : List α}

theorem append_left (front : List α) (merged : Interleave t u w) :
    Interleave (front ++ t) u (front ++ w) := by
  induction front with
  | nil => exact merged
  | cons a _ ih => exact ih.left

theorem append_right (front : List α) (merged : Interleave t u w) :
    Interleave t (front ++ u) (front ++ w) := by
  induction front with
  | nil => exact merged
  | cons a _ ih => exact ih.right

end Interleave

def RebindRouter.withoutFileStream (router : RebindRouter) : RebindRouter :=
  { router with fileStream := [] }

section Filters

variable {router other : RebindRouter} {buffer : IntermediateBuffer}

theorem egressFilter_ignores_fileStream (router : RebindRouter) (buffer : IntermediateBuffer)
    (fileStream : List IntermediateBuffer) :
    egressFilter { router with fileStream } buffer = (egressFilter router buffer).map fun step =>
      { step with router := { step.router with fileStream := fileStream ++ step.written } } := by
  have rewrite : egressRewrite { router with fileStream } = egressRewrite router := rfl
  rw [egressFilter_eq, egressFilter_eq]
  split_ifs with matched
  · rcases egressOwner router.processHelper buffer with ⟨_ | process, helper⟩
    · rfl
    · simp only [routeOwned]
      split_ifs <;> simp [FilterStep.written, Except.map, rewrite]
  · simp [FilterStep.written, Except.map]

theorem egressFilter_eq_ok_router {step : FilterStep} (routed : egressFilter router buffer = .ok step) :
    ∃ helper, step.router =
      { router with processHelper := helper, fileStream := router.fileStream ++ step.written } := by
  rw [egressFilter_eq] at routed
  split_ifs at routed
  · refine ⟨(egressOwner router.processHelper buffer).2, ?_⟩
    rcases routeOwned_eq_ok routed with ⟨pass, -, same⟩ | ⟨route, -, -, same⟩
    · simp [same, FilterStep.written, pass]
    · simp [same, FilterStep.written, route]
  · cases routed
    exact ⟨router.processHelper, by simp [FilterStep.written]⟩

theorem ingressFilter_of_binding (same : router.binding = other.binding) :
    (ingressFilter router buffer).action = (ingressFilter other buffer).action ∧
      (ingressFilter router buffer).buffer = (ingressFilter other buffer).buffer := by
  obtain ⟨-, defaultIp, rebindIp, defaultHw, -⟩ := RebindRouter.binding_eq_iff.mp same
  have rewritten : ingressRewrite router buffer = ingressRewrite other buffer := by
    simp only [ingressRewrite, ingressAddresses, defaultIp, defaultHw]
  by_cases matched : IngressMatches router buffer
  · have matchedOther : IngressMatches other buffer := by
      simpa only [IngressMatches, rebindIp] using matched
    simp only [ingressFilter_of_matches matched, ingressFilter_of_matches matchedOther, rewritten,
      and_self]
  · have unmatchedOther : ¬ IngressMatches other buffer := by
      simpa only [IngressMatches, rebindIp] using matched
    simp only [ingressFilter_of_not_matches matched, ingressFilter_of_not_matches unmatchedOther,
      and_self]

end Filters

namespace RebindRouter

def callResponse (router : RebindRouter) : RouterCall → List (PacketAction × IntermediateBuffer)
  | .defaultAdapterPacket buffer => match egressFilter router buffer with
    | .ok filterStep => [(filterStep.action, filterStep.buffer)]
    | .error _ => []
  | .rebindAdapterPacket buffer =>
    [((ingressFilter router buffer).action, (ingressFilter router buffer).buffer)]
  | _ => []

/-- What `obs` reads off each call of a run, up to the first call that cannot go through. -/
def observe {β : Type} (obs : RebindRouter → RouterCall → List β) (router : RebindRouter) :
    List RouterCall → List β
  | [] => []
  | call :: calls => match router.step call with
    | some next => obs router call ++ next.observe obs calls
    | none => []

def responses (router : RebindRouter) (calls : List RouterCall) :
    List (PacketAction × IntermediateBuffer) :=
  router.observe callResponse calls

theorem dump_eq_observe (router : RebindRouter) (calls : List RouterCall) :
    router.dump calls = router.observe routedFrames calls := by
  induction calls generalizing router with
  | nil => rfl
  | cons call calls ih =>
    rw [dump, observe]
    cases router.step call with
    | none => rfl
    | some next => exact congrArg _ (ih next)

section Steps

variable {router other next : RebindRouter} {buffer : IntermediateBuffer}

theorem eq_of_withoutFileStream (same : router.withoutFileStream = other.withoutFileStream) :
    router = { other with fileStream := router.fileStream } := by
  cases router
  cases other
  simp_all [withoutFileStream]

theorem step_defaultAdapterPacket_of_same (same : router.withoutFileStream = other.withoutFileStream) :
    router.step (.defaultAdapterPacket buffer) =
      (other.step (.defaultAdapterPacket buffer)).map fun next =>
        { next with fileStream := router.fileStream ++ other.routedFrames (.defaultAdapterPacket buffer) } := by
  rw [eq_of_withoutFileStream same]
  simp only [step, routedFrames]
  split_ifs
  · rw [egressFilter_ignores_fileStream]
    cases egressFilter other buffer <;> rfl
  · rfl

theorem step_defaultAdapterPacket_keeps (stepped : router.step (.defaultAdapterPacket buffer) = some next) :
    next.binding = router.binding ∧ next.filter = router.filter := by
  obtain ⟨filterStep, routed, rfl⟩ := step_defaultAdapterPacket stepped
  obtain ⟨helper, shape⟩ := egressFilter_eq_ok_router routed
  rw [shape]
  exact ⟨rfl, rfl⟩

theorem step_rebindAdapterPacket_eq (second : router.filter.secondAdapter.isSome) :
    router.step (.rebindAdapterPacket buffer) = some
      { router with fileStream := router.fileStream ++ router.routedFrames (.rebindAdapterPacket buffer) } := by
  simp only [step, second, if_true, ingressFilter_router]
  rfl

theorem step_rebindAdapterPacket_eq_none (second : router.filter.secondAdapter.isSome = false) :
    router.step (.rebindAdapterPacket buffer) = none := by
  simp [step, second]

end Steps

section Observation

variable {β : Type} {obs : RebindRouter → RouterCall → List β}

theorem observe_ingress
    (readsBinding : ∀ router other buffer, router.binding = other.binding →
      obs router (.rebindAdapterPacket buffer) = obs other (.rebindAdapterPacket buffer))
    {calls : List RouterCall} (ingressOnly : ∀ call ∈ calls, ∃ buffer, call = .rebindAdapterPacket buffer)
    {router other : RebindRouter} (binding : router.binding = other.binding)
    (second : router.filter.secondAdapter = other.filter.secondAdapter) :
    router.observe obs calls = other.observe obs calls := by
  induction calls generalizing router other with
  | nil => rfl
  | cons call calls ih =>
    obtain ⟨buffer, rfl⟩ := ingressOnly call (List.mem_cons_self _ _)
    have rest := fun call member => ingressOnly call (List.mem_cons_of_mem _ member)
    cases filtered : router.filter.secondAdapter.isSome
    · have otherFiltered : other.filter.secondAdapter.isSome = false := by rw [← second]; exact filtered
      simp only [observe, step_rebindAdapterPacket_eq_none filtered,
        step_rebindAdapterPacket_eq_none otherFiltered]
    · have otherFiltered : other.filter.secondAdapter.isSome := by rw [← second]; exact filtered
      simp only [observe, step_rebindAdapterPacket_eq filtered, step_rebindAdapterPacket_eq otherFiltered,
        readsBinding router other buffer binding]
      exact congrArg _ (ih rest binding second)

theorem observe_interleave
    (readsCore : ∀ router other call, router.withoutFileStream = other.withoutFileStream →
      obs router call = obs other call)
    (readsBinding : ∀ router other buffer, router.binding = other.binding →
      obs router (.rebindAdapterPacket buffer) = obs other (.rebindAdapterPacket buffer))
    {t u w : List RouterCall} (merged : Interleave t u w)
    (egressOnly : ∀ call ∈ t, ∃ buffer, call = .defaultAdapterPacket buffer)
    (ingressOnly : ∀ call ∈ u, ∃ buffer, call = .rebindAdapterPacket buffer)
    (router other : RebindRouter) (same : router.withoutFileStream = other.withoutFileStream)
    (second : other.filter.secondAdapter.isSome) :
    (router.run w).map withoutFileStream = (other.run t).map withoutFileStream ∧
      ((router.run w).isSome →
        Interleave (other.observe obs t) (other.observe obs u) (router.observe obs w)) := by
  induction merged generalizing router other with
  | nil => exact ⟨by simp only [run, Option.map_some', same], fun _ => .nil⟩
  | @left call t u w _ ih =>
    obtain ⟨buffer, rfl⟩ := egressOnly call (List.mem_cons_self _ _)
    have restEgress := fun call member => egressOnly call (List.mem_cons_of_mem _ member)
    cases stepped : other.step (.defaultAdapterPacket buffer) with
    | none =>
      have blocked : router.step (.defaultAdapterPacket buffer) = none := by
        rw [step_defaultAdapterPacket_of_same same, stepped]
        rfl
      simp [run, blocked, stepped]
    | some next =>
      set routerNext := { next with
        fileStream := router.fileStream ++ other.routedFrames (.defaultAdapterPacket buffer) }
      have routerStep : router.step (.defaultAdapterPacket buffer) = some routerNext := by
        rw [step_defaultAdapterPacket_of_same same, stepped]
        rfl
      obtain ⟨keepBinding, keepFilter⟩ := step_defaultAdapterPacket_keeps stepped
      obtain ⟨runs, merges⟩ := ih restEgress ingressOnly routerNext next rfl
        (by rw [keepFilter]; exact second)
      refine ⟨by simpa only [run, routerStep, stepped, Option.some_bind] using runs, fun ran => ?_⟩
      simp only [run, routerStep, Option.some_bind] at ran
      have ingressSeen : other.observe obs u = next.observe obs u :=
        observe_ingress readsBinding ingressOnly keepBinding.symm (congrArg _ keepFilter.symm)
      simp only [observe, routerStep, stepped, readsCore router other _ same, ingressSeen]
      exact (merges ran).append_left _
  | @right call t u w _ ih =>
    obtain ⟨buffer, rfl⟩ := ingressOnly call (List.mem_cons_self _ _)
    have restIngress := fun call member => ingressOnly call (List.mem_cons_of_mem _ member)
    have routerSecond : router.filter.secondAdapter.isSome :=
      (congrArg (·.filter.secondAdapter.isSome) same).trans second
    set routerNext := { router with
      fileStream := router.fileStream ++ router.routedFrames (.rebindAdapterPacket buffer) }
    set otherNext := { other with
      fileStream := other.fileStream ++ other.routedFrames (.rebindAdapterPacket buffer) }
    obtain ⟨runs, merges⟩ := ih egressOnly restIngress routerNext other same second
    refine ⟨by simpa only [run, step_rebindAdapterPacket_eq routerSecond, Option.some_bind] using runs,
      fun ran => ?_⟩
    simp only [run, step_rebindAdapterPacket_eq routerSecond, Option.some_bind] at ran
    have ingressSeen : otherNext.observe obs u = other.observe obs u :=
      observe_ingress readsBinding restIngress rfl rfl
    simp only [observe, step_rebindAdapterPacket_eq routerSecond, step_rebindAdapterPacket_eq second,
      readsCore router other _ same, ingressSeen]
    exact (merges ran).append_right _

end Observation

section Reads

variable {router other : RebindRouter}

theorem ingress_reads_binding (buffer : IntermediateBuffer) (binding : router.binding = other.binding) :
    router.callResponse (.rebindAdapterPacket buffer) = other.callResponse (.rebindAdapterPacket buffer) ∧
      router.routedFrames (.rebindAdapterPacket buffer) =
        other.routedFrames (.rebindAdapterPacket buffer) := by
  simp only [callResponse, routedFrames, FilterStep.written, (ingressFilter_of_binding binding).1,
    (ingressFilter_of_binding binding).2, and_self]

theorem reads_core (call : RouterCall) (same : router.withoutFileStream = other.withoutFileStream) :
    router.callResponse call = other.callResponse call ∧
      router.routedFrames call = other.routedFrames call := by
  cases call with
  | defaultAdapterPacket buffer =>
    rw [eq_of_withoutFileStream same]
    simp only [callResponse, routedFrames, egressFilter_ignores_fileStream]
    cases egressFilter other buffer <;> exact ⟨rfl, rfl⟩
  | rebindAdapterPacket buffer => exact ingress_reads_binding buffer (congrArg binding same :)
  | _ => exact ⟨rfl, rfl⟩

end Reads

end RebindRouter

theorem adapters_do_not_interfere (router : RebindRouter) (egress ingress : List IntermediateBuffer)
    (calls : List RouterCall) (filtering : router.Filtering)
    (interleaved : Interleave (egress.map .defaultAdapterPacket) (ingress.map .rebindAdapterPacket) calls) :
    (router.run calls).map RebindRouter.withoutFileStream =
        (router.run (egress.map .defaultAdapterPacket)).map RebindRouter.withoutFileStream ∧
      ((router.run calls).isSome →
        Interleave (router.responses (egress.map .defaultAdapterPacket))
          (router.responses (ingress.map .rebindAdapterPacket)) (router.responses calls) ∧
        Interleave (router.dump (egress.map .defaultAdapterPacket))
          (router.dump (ingress.map .rebindAdapterPacket)) (router.dump calls)) := by
  have egressOnly : ∀ call ∈ egress.map .defaultAdapterPacket, ∃ buffer,
      call = RouterCall.defaultAdapterPacket buffer :=
    fun _ member => (List.mem_map.mp member).imp fun _ found => found.2.symm
  have ingressOnly : ∀ call ∈ ingress.map .rebindAdapterPacket, ∃ buffer,
      call = RouterCall.rebindAdapterPacket buffer :=
    fun _ member => (List.mem_map.mp member).imp fun _ found => found.2.symm
  obtain ⟨runs, responded⟩ := RebindRouter.observe_interleave
    (fun _ _ call same => (RebindRouter.reads_core call same).1)
    (fun _ _ buffer binding => (RebindRouter.ingress_reads_binding buffer binding).1)
    interleaved egressOnly ingressOnly router router rfl filtering.2
  obtain ⟨-, dumped⟩ := RebindRouter.observe_interleave
    (fun _ _ call same => (RebindRouter.reads_core call same).2)
    (fun _ _ buffer binding => (RebindRouter.ingress_reads_binding buffer binding).2)
    interleaved egressOnly ingressOnly router router rfl filtering.2
  refine ⟨runs, fun ran => ⟨responded ran, ?_⟩⟩
  simpa only [RebindRouter.dump_eq_observe] using dumped ran

theorem scenario_adapters_do_not_interfere :
    filteringRouter.Filtering ∧
      Interleave [RouterCall.defaultAdapterPacket scenarioDatagram]
        [.rebindAdapterPacket scenarioReply]
        [.rebindAdapterPacket scenarioReply, .defaultAdapterPacket scenarioDatagram] ∧
      (filteringRouter.run [.rebindAdapterPacket scenarioReply,
          .defaultAdapterPacket scenarioDatagram]).map RebindRouter.withoutFileStream =
        (filteringRouter.run [.defaultAdapterPacket scenarioDatagram]).map
          RebindRouter.withoutFileStream ∧
      ((filteringRouter.run [.rebindAdapterPacket scenarioReply,
          .defaultAdapterPacket scenarioDatagram]).isSome →
        Interleave (filteringRouter.responses [.defaultAdapterPacket scenarioDatagram])
          (filteringRouter.responses [.rebindAdapterPacket scenarioReply])
          (filteringRouter.responses [.rebindAdapterPacket scenarioReply,
            .defaultAdapterPacket scenarioDatagram]) ∧
        Interleave (filteringRouter.dump [.defaultAdapterPacket scenarioDatagram])
          (filteringRouter.dump [.rebindAdapterPacket scenarioReply])
          (filteringRouter.dump [.rebindAdapterPacket scenarioReply,
            .defaultAdapterPacket scenarioDatagram])) :=
  ⟨by decide, .right (.left .nil),
    adapters_do_not_interfere filteringRouter [scenarioDatagram] [scenarioReply] _ (by decide)
      (.right (.left .nil))⟩

end NdisRebind

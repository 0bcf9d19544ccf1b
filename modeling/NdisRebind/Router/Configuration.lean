import NdisRebind.Router.Symmetry

namespace NdisRebind

def findIndex {α : Type} (p : α → Bool) : (list : List α) → Option (Fin list.length)
  | [] => none
  | a :: rest => if p a then some ⟨0, Nat.succ_pos _⟩ else (findIndex p rest).map Fin.succ

theorem findIndex_eq_some_iff {α : Type} {p : α → Bool} {list : List α} {index : Fin list.length} :
    findIndex p list = some index ↔
      p (list.get index) ∧ ∀ earlier < index, p (list.get earlier) = false := by
  induction list with
  | nil => exact index.elim0
  | cons a rest ih =>
    cases index using Fin.cases with
    | zero => by_cases first : p a <;> simp [findIndex, first, Fin.not_lt_zero, Fin.succ_ne_zero]
    | succ index =>
      by_cases first : p a
      · refine iff_of_false (fun found => by simp [findIndex, first, Fin.ext_iff] at found)
          fun ⟨_, before⟩ => ?_
        have head := before ⟨0, Nat.succ_pos _⟩ (Fin.succ_pos index)
        simp [first] at head
      · simp [findIndex, first, ih, Fin.forall_fin_succ, Fin.succ_lt_succ_iff]

/-- The test of the PPP branch's search: the NDIS interface has RAS links and one of them carries an
address of the adapter. -/
def rasLinkMatches (info : NetworkAdapterInfo) (ndisAdapter : NetworkAdapter) : Bool :=
  match ndisAdapter.rasLinks with
  | some wanInfo => wanInfo.any fun rasLink => info.hasAddress rasLink.ipAddress
  | none => false

theorem rasLinkMatches_iff {info : NetworkAdapterInfo} {ndisAdapter : NetworkAdapter} :
    rasLinkMatches info ndisAdapter = true ↔ ∃ wanInfo, ndisAdapter.rasLinks = some wanInfo ∧
      ∃ rasLink ∈ wanInfo, info.hasAddress rasLink.ipAddress := by
  unfold rasLinkMatches
  split <;> simp_all

/-- `rebind_router::get_ndis_interface_by_adapter_info`: an adapter other than PPP is the NDIS
interface whose internal name contains its adapter name; a PPP adapter is the one with a RAS link
on one of its addresses. -/
def getNdisInterfaceByAdapterInfo (ndisAdapters : List NetworkAdapter) (info : NetworkAdapterInfo) :
    Option (Fin ndisAdapters.length) :=
  if info.ifType ≠ IF_TYPE_PPP then
    findIndex (fun ndisAdapter => (stringFind ndisAdapter.internalName info.adapterName).isSome)
      ndisAdapters
  else
    findIndex (rasLinkMatches info) ndisAdapters

def IsNdisInterfaceOf (info : NetworkAdapterInfo) (ndisAdapter : NetworkAdapter) : Prop :=
  if info.ifType ≠ IF_TYPE_PPP then info.adapterName.data <:+: ndisAdapter.internalName.data
  else ∃ wanInfo, ndisAdapter.rasLinks = some wanInfo ∧
    ∃ rasLink ∈ wanInfo, info.hasAddress rasLink.ipAddress

theorem ndis_interface_is_first_match (ndisAdapters : List NetworkAdapter)
    (info : NetworkAdapterInfo) (index : Fin ndisAdapters.length) :
    getNdisInterfaceByAdapterInfo ndisAdapters info = some index ↔
      IsNdisInterfaceOf info (ndisAdapters.get index) ∧
        ∀ earlier < index, ¬ IsNdisInterfaceOf info (ndisAdapters.get earlier) := by
  unfold getNdisInterfaceByAdapterInfo IsNdisInterfaceOf
  split_ifs with ethernet
  · simp [findIndex_eq_some_iff, stringFind_isSome_iff, stringFind_eq_none_iff]
  · simp [findIndex_eq_some_iff, ← rasLinkMatches_iff]

/-- The `for` loops over an address list: the last entry of family `AF_INET` wins, and without
one the member keeps `current`. -/
def lastInet {α β : Type} (family : α → Nat) (value : α → β) (list : List α) (current : β) : β :=
  list.foldl (fun member entry => if family entry = AF_INET then value entry else member) current

def lastInetAddress : List IpAddressInfo → IpAddressV4 → IpAddressV4 :=
  lastInet IpAddressInfo.ssFamily IpAddressInfo.sinAddr

def lastInetGateway : List IpGatewayInfo → MacAddress → MacAddress :=
  lastInet IpGatewayInfo.ssFamily IpGatewayInfo.hardwareAddress

namespace RebindRouter

/-- `rebind_router::rebind_router()` before any configuration: the members' initializers. -/
def init (interfaceList : List NetworkAdapter) (processHelper : ProcessLookup) : RebindRouter where
  filter := ⟨interfaceList, none, none⟩
  defaultAdapterHandle := INVALID_HANDLE_VALUE
  rebindAdapterHandle := INVALID_HANDLE_VALUE
  appName := ""
  rebindSrcHwAddress := ⟨[0, 0, 0, 0, 0, 0], rfl⟩
  defaultSrcHwAddress := ⟨[0, 0, 0, 0, 0, 0], rfl⟩
  rebindGwHwAddress := ⟨[0, 0, 0, 0, 0, 0], rfl⟩
  rebindSrcIpAddress := ⟨[0, 0, 0, 0], rfl⟩
  defaultSrcIpAddress := ⟨[0, 0, 0, 0], rfl⟩
  fileStream := []
  processHelper := processHelper

/-- `set_ndis_interfaces_by_adapter_info`: `.error` carries the line printed before returning
false, `.ok` the router after returning true. -/
def setNdisInterfacesByAdapterInfo (router : RebindRouter)
    (defaultAdapter rebindAdapter : NetworkAdapterInfo) : Except String RebindRouter :=
  let ndisAdapters := router.filter.interfaceList
  match getNdisInterfaceByAdapterInfo ndisAdapters defaultAdapter,
      getNdisInterfaceByAdapterInfo ndisAdapters rebindAdapter with
  | none, _ => .error "Failed to identify NDIS adapter for the default network interface.\n"
  | some _, none => .error "Failed to identify NDIS adapter for the rebind network interface.\n"
  | some ndisDefault, some ndisRebind =>
    if (ndisAdapters.get ndisRebind).ndisWanType ≠ .ndisWanNone then
      .error "For simplicity rebind to NDISWAN interfaces is not supported by this demo!\n"
    else
      .ok { router with
        defaultAdapterHandle := (ndisAdapters.get ndisDefault).adapter
        rebindAdapterHandle := (ndisAdapters.get ndisRebind).adapter
        defaultSrcHwAddress := (ndisAdapters.get ndisDefault).hwAddress
        rebindSrcHwAddress := (ndisAdapters.get ndisRebind).hwAddress
        rebindGwHwAddress := lastInetGateway rebindAdapter.gatewayAddressList router.rebindGwHwAddress
        rebindSrcIpAddress :=
          lastInetAddress rebindAdapter.unicastAddressList router.rebindSrcIpAddress
        defaultSrcIpAddress :=
          lastInetAddress defaultAdapter.unicastAddressList router.defaultSrcIpAddress }

def setApplicationName (router : RebindRouter) (name : String) : RebindRouter :=
  { router with appName := name }

/-- `rebind_router::start`; the two answers are the driver's to `start_filter`, and the line is
the one printed before returning false. -/
def start (router : RebindRouter) (defaultAccepted rebindAccepted : Bool) :
    Except String Unit × RebindRouter :=
  let (started, filter) := router.filter.startFilter router.defaultAdapterHandle 0 defaultAccepted
  if !started then
    (.error "Failed to start filtering on default network interface!\n", { router with filter })
  else
    let (started, filter) := filter.startFilter router.rebindAdapterHandle 1 rebindAccepted
    if !started then
      (.error "Failed to start filtering on rebind network interface!\n", { router with filter })
    else (.ok (), { router with filter })

def stop (router : RebindRouter) : RebindRouter :=
  { router with filter := (router.filter.stopFilter 0).stopFilter 1 }

section Setters

variable {router configured : RebindRouter} {defaultAdapter rebindAdapter : NetworkAdapterInfo}

theorem setNdisInterfacesByAdapterInfo_succeeds_iff :
    (∃ configured, router.setNdisInterfacesByAdapterInfo defaultAdapter rebindAdapter = .ok configured) ↔
      (getNdisInterfaceByAdapterInfo router.filter.interfaceList defaultAdapter).isSome ∧
      ∃ ndisRebind, getNdisInterfaceByAdapterInfo router.filter.interfaceList rebindAdapter =
        some ndisRebind ∧ (router.filter.interfaceList.get ndisRebind).ndisWanType = .ndisWanNone := by
  unfold setNdisInterfacesByAdapterInfo
  dsimp only
  split
  next missing => simp [missing]
  next missing => simp [missing]
  next found foundRebind =>
    split_ifs with wan
    · simp only [found, foundRebind, reduceCtorEq, exists_false, Option.isSome_some,
        Option.some.injEq, true_and, exists_eq_left', false_iff]
      exact wan
    · simp only [Except.ok.injEq, exists_eq', found, foundRebind, Option.isSome_some,
        Option.some.injEq, true_and, exists_eq_left, true_iff]
      simpa using wan

theorem setNdisInterfacesByAdapterInfo_eq_ok
    (configures : router.setNdisInterfacesByAdapterInfo defaultAdapter rebindAdapter = .ok configured) :
    ∃ ndisDefault ndisRebind,
      getNdisInterfaceByAdapterInfo router.filter.interfaceList defaultAdapter = some ndisDefault ∧
      getNdisInterfaceByAdapterInfo router.filter.interfaceList rebindAdapter = some ndisRebind ∧
      configured = { router with
        defaultAdapterHandle := (router.filter.interfaceList.get ndisDefault).adapter
        rebindAdapterHandle := (router.filter.interfaceList.get ndisRebind).adapter
        defaultSrcHwAddress := (router.filter.interfaceList.get ndisDefault).hwAddress
        rebindSrcHwAddress := (router.filter.interfaceList.get ndisRebind).hwAddress
        rebindGwHwAddress := lastInetGateway rebindAdapter.gatewayAddressList router.rebindGwHwAddress
        rebindSrcIpAddress :=
          lastInetAddress rebindAdapter.unicastAddressList router.rebindSrcIpAddress
        defaultSrcIpAddress :=
          lastInetAddress defaultAdapter.unicastAddressList router.defaultSrcIpAddress } := by
  unfold setNdisInterfacesByAdapterInfo at configures
  dsimp only at configures
  split at configures
  · cases configures
  · cases configures
  next found foundRebind =>
    split_ifs at configures
    cases configures
    exact ⟨_, _, found, foundRebind, rfl⟩

variable {defaultAccepted rebindAccepted : Bool} {started : RebindRouter}

theorem start_eq_ok
    (starts : router.start defaultAccepted rebindAccepted = (.ok (), started)) :
    started = { router with filter := { router.filter with
      firstAdapter := some router.defaultAdapterHandle
      secondAdapter := some router.rebindAdapterHandle } } := by
  cases defaultAccepted <;> cases rebindAccepted <;>
    simp [start, DualPacketFilter.startFilter] at starts
  exact starts.symm

end Setters

end RebindRouter

theorem configuration_never_compares_addresses (router : RebindRouter)
    (defaultAdapter rebindAdapter : NetworkAdapterInfo) :
    ((∃ configured,
        router.setNdisInterfacesByAdapterInfo defaultAdapter rebindAdapter = .ok configured) ↔
      (getNdisInterfaceByAdapterInfo router.filter.interfaceList defaultAdapter).isSome ∧
      ∃ ndisRebind, getNdisInterfaceByAdapterInfo router.filter.interfaceList rebindAdapter =
        some ndisRebind ∧ (router.filter.interfaceList.get ndisRebind).ndisWanType = .ndisWanNone) ∧
    (∀ configured,
      router.setNdisInterfacesByAdapterInfo defaultAdapter rebindAdapter = .ok configured →
      configured.defaultSrcIpAddress =
          lastInetAddress defaultAdapter.unicastAddressList router.defaultSrcIpAddress ∧
        configured.rebindSrcIpAddress =
          lastInetAddress rebindAdapter.unicastAddressList router.rebindSrcIpAddress) ∧
    (∀ (bound : RebindRouter) (buffer : IntermediateBuffer) (step : FilterStep),
      bound.defaultSrcIpAddress ≠ bound.rebindSrcIpAddress →
      egressFilter bound buffer = .ok step → step.action = .route → buffer.ChecksumClearOf 26 →
      egressFilter step.router step.buffer = .ok ⟨.pass, step.buffer, step.router⟩) := by
  refine ⟨RebindRouter.setNdisInterfacesByAdapterInfo_succeeds_iff,
    fun _ configures => ?_, fun bound buffer step distinct routed route clear => ?_⟩
  · obtain ⟨_, _, -, -, rfl⟩ := RebindRouter.setNdisInterfacesByAdapterInfo_eq_ok configures
    exact ⟨rfl, rfl⟩
  have same : step.router.binding = bound.binding := by
    rcases egressFilter_eq_ok routed with ⟨-, -, same, -⟩ | ⟨-, -, -, same, -⟩ <;> exact same
  exact egress_passes_routed_frame distinct routed route clear same

def unaddressedInterfaces : List NetworkAdapter :=
  [⟨⟨1⟩, "\\DEVICE\\ETH0", ⟨[2, 0, 0, 0, 0, 1], rfl⟩, .ndisWanNone, none⟩,
   ⟨⟨2⟩, "\\DEVICE\\ETH1", ⟨[2, 0, 0, 0, 0, 2], rfl⟩, .ndisWanNone, none⟩]

def unaddressedAdapter (name : String) : NetworkAdapterInfo := ⟨name, 6, [], []⟩

theorem fresh_router_accepts_equal_addresses :
    ((RebindRouter.init unaddressedInterfaces ⟨[], [], [], []⟩).setNdisInterfacesByAdapterInfo
      (unaddressedAdapter "ETH0") (unaddressedAdapter "ETH1")).toOption.map
        (fun configured => decide (configured.defaultSrcIpAddress = configured.rebindSrcIpAddress)) =
      some true := by
  decide

end NdisRebind

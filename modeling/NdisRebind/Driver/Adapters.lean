import NdisRebind.Net.Buffer

namespace NdisRebind

def AF_INET : Nat := 2

def IF_TYPE_PPP : Nat := 23

/-- A Windows `HANDLE`, compared by value. -/
structure Handle where
  value : Nat
  deriving DecidableEq, Repr

def INVALID_HANDLE_VALUE : Handle := ⟨18446744073709551615⟩

/-- `ndisapi::ndis_wan_type`. -/
inductive NdisWanType
  | ndisWanNone
  | ndisWanIp
  | ndisWanIpv6
  | ndisWanBh
  deriving DecidableEq, Repr

structure RasLink where
  ipAddress : IpAddressV4
  deriving DecidableEq

/-- `ndisapi::network_adapter`, as `get_interface_list()` reports it. -/
structure NetworkAdapter where
  adapter : Handle
  internalName : String
  hwAddress : MacAddress
  ndisWanType : NdisWanType
  rasLinks : Option (List RasLink)
  deriving DecidableEq

/-- An entry of `get_unicast_address_list()`: its family and, for `AF_INET`, the address
`sockaddr_in(ip).sin_addr` reads. -/
structure IpAddressInfo where
  ssFamily : Nat
  sinAddr : IpAddressV4
  deriving DecidableEq

/-- An entry of `get_gateway_address_list()`: its family and the gateway's hardware address. -/
structure IpGatewayInfo where
  ssFamily : Nat
  hardwareAddress : MacAddress
  deriving DecidableEq

/-- `iphelper::network_adapter_info`, with the members the router reads. -/
structure NetworkAdapterInfo where
  adapterName : String
  ifType : Nat
  unicastAddressList : List IpAddressInfo
  gatewayAddressList : List IpGatewayInfo
  deriving DecidableEq

/-- `network_adapter_info::has_address`, which is not part of the repository: one of the
adapter's IPv4 unicast addresses is `address`. -/
def NetworkAdapterInfo.hasAddress (info : NetworkAdapterInfo) (address : IpAddressV4) : Bool :=
  info.unicastAddressList.any fun ip => ip.ssFamily == AF_INET && ip.sinAddr == address

/-- Modelled from the spec: `ndisapi::dual_packet_filter` is not part of the repository. The
router reads its NDIS interface list, and starts and stops filtering by index, 0 for the default
adapter and 1 for the rebind adapter; the slot holds the adapter filtered there. -/
structure DualPacketFilter where
  interfaceList : List NetworkAdapter
  firstAdapter : Option Handle
  secondAdapter : Option Handle

namespace DualPacketFilter

/-- `start_filter(handle, index)`; `accepted` is the driver's answer. -/
def startFilter (filter : DualPacketFilter) (handle : Handle) (index : Fin 2) (accepted : Bool) :
    Bool × DualPacketFilter :=
  if accepted then
    (true, if index = 0 then { filter with firstAdapter := some handle }
      else { filter with secondAdapter := some handle })
  else (false, filter)

def stopFilter (filter : DualPacketFilter) (index : Fin 2) : DualPacketFilter :=
  if index = 0 then { filter with firstAdapter := none } else { filter with secondAdapter := none }

@[simp] theorem startFilter_interfaceList (filter : DualPacketFilter) (handle : Handle)
    (index : Fin 2) (accepted : Bool) :
    (filter.startFilter handle index accepted).2.interfaceList = filter.interfaceList := by
  unfold startFilter
  split_ifs <;> rfl

@[simp] theorem stopFilter_interfaceList (filter : DualPacketFilter) (index : Fin 2) :
    (filter.stopFilter index).interfaceList = filter.interfaceList := by
  unfold stopFilter
  split_ifs <;> rfl

end DualPacketFilter

end NdisRebind

import Mathlib.Data.List.Infix
import NdisRebind.Net.Headers

namespace NdisRebind

/-- `std::basic_string::find` from `position` on: the first index at which `needle` starts in
`haystack`, `none` for `npos`. -/
def findFrom (needle haystack : List Char) (position : Nat) : Option Nat :=
  if needle.isPrefixOf haystack then some position
  else match haystack with
    | [] => none
    | _ :: rest => findFrom needle rest (position + 1)

def stringFind (haystack needle : String) : Option Nat := findFrom needle.data haystack.data 0

theorem findFrom_isSome_iff {needle haystack : List Char} {position : Nat} :
    (findFrom needle haystack position).isSome ↔ needle <:+: haystack := by
  induction haystack generalizing position with
  | nil => cases needle <;> simp [findFrom]
  | cons c rest ih =>
    rw [findFrom, List.infix_cons_iff, ← List.isPrefixOf_iff_prefix]
    by_cases start : needle.isPrefixOf (c :: rest) <;> simp [start, ih]

theorem stringFind_isSome_iff {haystack needle : String} :
    (stringFind haystack needle).isSome ↔ needle.data <:+: haystack.data :=
  findFrom_isSome_iff

theorem stringFind_eq_none_iff {haystack needle : String} :
    stringFind haystack needle = none ↔ ¬ needle.data <:+: haystack.data := by
  rw [← stringFind_isSome_iff, Option.not_isSome_iff_eq_none]

/-- `iphelper::network_process`; the lambdas read its image `name`. -/
structure NetworkProcess where
  name : String
  deriving DecidableEq

/-- `net::ip_session<net::ip_address_v4>`: a TCP connection as the connection table keys it. -/
structure IpSession where
  localAddress : IpAddressV4
  remoteAddress : IpAddressV4
  localPort : Nat
  remotePort : Nat
  deriving DecidableEq

/-- `net::ip_endpoint<net::ip_address_v4>`: a UDP socket as the connection table keys it. -/
structure IpEndpoint where
  ipAddress : IpAddressV4
  port : Nat
  deriving DecidableEq

/-- Modelled from the spec: `iphelper::process_lookup` is not part of the repository. It answers
from snapshots of the TCP and UDP connection tables; `actualize` reloads the chosen snapshots from
the tables the system reports at that moment. -/
structure ProcessLookup where
  tcpSnapshot : List (IpSession × NetworkProcess)
  udpSnapshot : List (IpEndpoint × NetworkProcess)
  tcpTable : List (IpSession × NetworkProcess)
  udpTable : List (IpEndpoint × NetworkProcess)

namespace ProcessLookup

def actualize (helper : ProcessLookup) (tcp udp : Bool) : ProcessLookup :=
  { helper with
    tcpSnapshot := if tcp then helper.tcpTable else helper.tcpSnapshot
    udpSnapshot := if udp then helper.udpTable else helper.udpSnapshot }

/-- `lookup_process_for_tcp<refresh>`: with `refresh` the TCP snapshot is reloaded first. -/
def lookupProcessForTcp (refresh : Bool) (helper : ProcessLookup) (session : IpSession) :
    Option NetworkProcess × ProcessLookup :=
  let helper := if refresh then helper.actualize true false else helper
  (helper.tcpSnapshot.lookup session, helper)

/-- `lookup_process_for_udp<refresh>`: with `refresh` the UDP snapshot is reloaded first. -/
def lookupProcessForUdp (refresh : Bool) (helper : ProcessLookup) (endpoint : IpEndpoint) :
    Option NetworkProcess × ProcessLookup :=
  let helper := if refresh then helper.actualize false true else helper
  (helper.udpSnapshot.lookup endpoint, helper)

end ProcessLookup

/-- The shape both `resolve_process_for_*` share: a snapshot lookup, and on a miss one
`actualize` of the relevant table and one refreshing lookup. -/
def resolveProcess {κ : Type} (lookup : Bool → ProcessLookup → κ → Option NetworkProcess × ProcessLookup)
    (refresh : ProcessLookup → ProcessLookup) (helper : ProcessLookup) (key : κ) :
    Option NetworkProcess × ProcessLookup :=
  match lookup false helper key with
  | (some process, helper) => (some process, helper)
  | (none, helper) => lookup true (refresh helper) key

namespace IntermediateBuffer

/-- The `net::ip_session` the TCP lambda branch builds from the frame. -/
def tcpSession (buffer : IntermediateBuffer) : IpSession :=
  ⟨buffer.ipSrc, buffer.ipDst, buffer.thSport, buffer.thDport⟩

/-- The `net::ip_endpoint` the UDP lambda branch builds from the frame. -/
def udpEndpoint (buffer : IntermediateBuffer) : IpEndpoint := ⟨buffer.ipSrc, buffer.thSport⟩

end IntermediateBuffer

/-- `rebind_router::resolve_process_for_tcp`. -/
def resolveProcessForTcp (helper : ProcessLookup) (buffer : IntermediateBuffer) :
    Option NetworkProcess × ProcessLookup :=
  resolveProcess ProcessLookup.lookupProcessForTcp (·.actualize true false) helper buffer.tcpSession

/-- `rebind_router::resolve_process_for_udp`. -/
def resolveProcessForUdp (helper : ProcessLookup) (buffer : IntermediateBuffer) :
    Option NetworkProcess × ProcessLookup :=
  resolveProcess ProcessLookup.lookupProcessForUdp (·.actualize false true) helper buffer.udpEndpoint

section Resolve

variable {κ : Type} {lookup : Bool → ProcessLookup → κ → Option NetworkProcess × ProcessLookup}
  {refresh : ProcessLookup → ProcessLookup} {helper : ProcessLookup} {key : κ}

theorem resolveProcess_fst :
    (resolveProcess lookup refresh helper key).1 =
      (lookup false helper key).1.or (lookup true (refresh (lookup false helper key).2) key).1 := by
  unfold resolveProcess
  rcases lookup false helper key with ⟨_ | process, helper⟩ <;> rfl

theorem resolveProcess_snd (lookup : Bool → ProcessLookup → κ → Option NetworkProcess × ProcessLookup)
    (refresh : ProcessLookup → ProcessLookup) (helper : ProcessLookup) (key : κ) :
    (resolveProcess lookup refresh helper key).2 = (lookup false helper key).2 ∨
      (resolveProcess lookup refresh helper key).2 =
        (lookup true (refresh (lookup false helper key).2) key).2 := by
  unfold resolveProcess
  rcases lookup false helper key with ⟨_ | process, helper⟩
  · exact .inr rfl
  · exact .inl rfl

end Resolve

theorem resolveProcessFor_fst (helper : ProcessLookup) (buffer : IntermediateBuffer) :
    (resolveProcessForTcp helper buffer).1 =
        (helper.tcpSnapshot.lookup buffer.tcpSession).or (helper.tcpTable.lookup buffer.tcpSession) ∧
      (resolveProcessForUdp helper buffer).1 =
        (helper.udpSnapshot.lookup buffer.udpEndpoint).or (helper.udpTable.lookup buffer.udpEndpoint) :=
  ⟨resolveProcess_fst, resolveProcess_fst⟩

theorem resolveProcessForTcp_eq_none_iff {helper : ProcessLookup} {buffer : IntermediateBuffer} :
    (resolveProcessForTcp helper buffer).1 = none ↔
      helper.tcpSnapshot.lookup buffer.tcpSession = none ∧
        helper.tcpTable.lookup buffer.tcpSession = none := by
  rw [(resolveProcessFor_fst helper buffer).1, Option.or_eq_none]

theorem resolveProcessForUdp_eq_none_iff {helper : ProcessLookup} {buffer : IntermediateBuffer} :
    (resolveProcessForUdp helper buffer).1 = none ↔
      helper.udpSnapshot.lookup buffer.udpEndpoint = none ∧
        helper.udpTable.lookup buffer.udpEndpoint = none := by
  rw [(resolveProcessFor_fst helper buffer).2, Option.or_eq_none]

end NdisRebind

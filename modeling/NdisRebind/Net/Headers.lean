import NdisRebind.Net.Buffer

namespace NdisRebind

def ETH_P_IP : Nat := 0x0800

def IPPROTO_TCP : UInt8 := 6

def IPPROTO_UDP : UInt8 := 17

namespace IntermediateBuffer

def hDest (buffer : IntermediateBuffer) : MacAddress := ⟨buffer.readBytes 0 6, length_readBytes⟩

def hSource (buffer : IntermediateBuffer) : MacAddress := ⟨buffer.readBytes 6 6, length_readBytes⟩

def hProto (buffer : IntermediateBuffer) : Nat := buffer.read16 12

/-- `iphdr::ip_hl`: the low nibble of the first IPv4 byte, as the bit field lies on a
little-endian host. -/
def ipHl (buffer : IntermediateBuffer) : Nat := (buffer.mIBuffer 14).toNat % 16

def ipLen (buffer : IntermediateBuffer) : Nat := buffer.read16 16

def ipOff (buffer : IntermediateBuffer) : Nat := buffer.read16 20

def ipP (buffer : IntermediateBuffer) : UInt8 := buffer.mIBuffer 23

def ipSrc (buffer : IntermediateBuffer) : IpAddressV4 := ⟨buffer.readBytes 26 4, length_readBytes⟩

def ipDst (buffer : IntermediateBuffer) : IpAddressV4 := ⟨buffer.readBytes 30 4, length_readBytes⟩

/-- Where the lambdas put the TCP or UDP header: `ip_header + sizeof(DWORD) * ip_hl`. -/
def transportOffset (buffer : IntermediateBuffer) : Nat := 14 + 4 * buffer.ipHl

def thSport (buffer : IntermediateBuffer) : Nat := buffer.read16 buffer.transportOffset

def thDport (buffer : IntermediateBuffer) : Nat := buffer.read16 (buffer.transportOffset + 2)

def setHDest (buffer : IntermediateBuffer) (address : MacAddress) : IntermediateBuffer :=
  buffer.writeBytes 0 address.data

def setHSource (buffer : IntermediateBuffer) (address : MacAddress) : IntermediateBuffer :=
  buffer.writeBytes 6 address.data

def setIpSrc (buffer : IntermediateBuffer) (address : IpAddressV4) : IntermediateBuffer :=
  buffer.writeBytes 26 address.octets

def setIpDst (buffer : IntermediateBuffer) (address : IpAddressV4) : IntermediateBuffer :=
  buffer.writeBytes 30 address.octets

def AgreeOn (buffer other : IntermediateBuffer) (low high : Nat) : Prop :=
  ∀ i, low ≤ i → i < high → buffer.mIBuffer i = other.mIBuffer i

instance (buffer other : IntermediateBuffer) (low high : Nat) :
    Decidable (buffer.AgreeOn other low high) :=
  Nat.decidableLoHi low high _

variable {buffer other : IntermediateBuffer}

theorem ipHl_lt : buffer.ipHl < 16 := Nat.mod_lt _ (by decide)

@[simp] theorem hDest_setHDest (address : MacAddress) : (buffer.setHDest address).hDest = address := by
  have same := readBytes_writeBytes_self buffer 0 address.data
  rw [address.length_data] at same
  exact MacAddress.ext same

@[simp] theorem hSource_setHSource (address : MacAddress) :
    (buffer.setHSource address).hSource = address := by
  have same := readBytes_writeBytes_self buffer 6 address.data
  rw [address.length_data] at same
  exact MacAddress.ext same

@[simp] theorem ipSrc_setIpSrc (address : IpAddressV4) : (buffer.setIpSrc address).ipSrc = address := by
  have same := readBytes_writeBytes_self buffer 26 address.octets
  rw [address.length_octets] at same
  exact IpAddressV4.ext same

@[simp] theorem ipDst_setIpDst (address : IpAddressV4) : (buffer.setIpDst address).ipDst = address := by
  have same := readBytes_writeBytes_self buffer 30 address.octets
  rw [address.length_octets] at same
  exact IpAddressV4.ext same

theorem setHDest_outside (address : MacAddress) {i : Nat} (outside : 6 ≤ i) :
    (buffer.setHDest address).mIBuffer i = buffer.mIBuffer i :=
  writeBytes_outside (by rw [address.length_data]; omega)

theorem setHSource_outside (address : MacAddress) {i : Nat} (outside : i < 6 ∨ 12 ≤ i) :
    (buffer.setHSource address).mIBuffer i = buffer.mIBuffer i :=
  writeBytes_outside (by rw [address.length_data]; omega)

theorem setIpSrc_outside (address : IpAddressV4) {i : Nat} (outside : i < 26 ∨ 30 ≤ i) :
    (buffer.setIpSrc address).mIBuffer i = buffer.mIBuffer i :=
  writeBytes_outside (by rw [address.length_octets]; omega)

theorem setIpDst_outside (address : IpAddressV4) {i : Nat} (outside : i < 30 ∨ 34 ≤ i) :
    (buffer.setIpDst address).mIBuffer i = buffer.mIBuffer i :=
  writeBytes_outside (by rw [address.length_octets]; omega)

@[simp] theorem setHDest_mLength (address : MacAddress) :
    (buffer.setHDest address).mLength = buffer.mLength := rfl

@[simp] theorem setHSource_mLength (address : MacAddress) :
    (buffer.setHSource address).mLength = buffer.mLength := rfl

@[simp] theorem setIpSrc_mLength (address : IpAddressV4) :
    (buffer.setIpSrc address).mLength = buffer.mLength := rfl

@[simp] theorem setIpDst_mLength (address : IpAddressV4) :
    (buffer.setIpDst address).mLength = buffer.mLength := rfl

theorem AgreeOn.symm {low high : Nat} (agree : buffer.AgreeOn other low high) :
    other.AgreeOn buffer low high :=
  fun i lower upper => (agree i lower upper).symm

theorem AgreeOn.trans {third : IntermediateBuffer} {low high : Nat}
    (first : buffer.AgreeOn other low high) (second : other.AgreeOn third low high) :
    buffer.AgreeOn third low high :=
  fun i lower upper => (first i lower upper).trans (second i lower upper)

theorem AgreeOn.mono {low high low' high' : Nat} (agree : buffer.AgreeOn other low high)
    (lower : low ≤ low') (upper : high' ≤ high) : buffer.AgreeOn other low' high' :=
  fun i below above => agree i (by omega) (by omega)

theorem hDest_congr (agree : buffer.AgreeOn other 0 6) : buffer.hDest = other.hDest :=
  MacAddress.ext (readBytes_congr fun k lane => agree _ (by omega) (by omega))

theorem hSource_congr (agree : buffer.AgreeOn other 6 12) : buffer.hSource = other.hSource :=
  MacAddress.ext (readBytes_congr fun k lane => agree _ (by omega) (by omega))

theorem hProto_congr (agree : buffer.AgreeOn other 12 14) : buffer.hProto = other.hProto :=
  read16_congr (agree _ (by omega) (by omega)) (agree _ (by omega) (by omega))

theorem ipHl_congr (agree : buffer.AgreeOn other 14 15) : buffer.ipHl = other.ipHl := by
  simp only [ipHl, agree 14 (by omega) (by omega)]

theorem ipLen_congr (agree : buffer.AgreeOn other 16 18) : buffer.ipLen = other.ipLen :=
  read16_congr (agree _ (by omega) (by omega)) (agree _ (by omega) (by omega))

theorem ipP_congr (agree : buffer.AgreeOn other 23 24) : buffer.ipP = other.ipP :=
  agree 23 (by omega) (by omega)

theorem ipSrc_congr (agree : buffer.AgreeOn other 26 30) : buffer.ipSrc = other.ipSrc :=
  IpAddressV4.ext (readBytes_congr fun k lane => agree _ (by omega) (by omega))

theorem ipDst_congr (agree : buffer.AgreeOn other 30 34) : buffer.ipDst = other.ipDst :=
  IpAddressV4.ext (readBytes_congr fun k lane => agree _ (by omega) (by omega))

theorem transportOffset_congr (agree : buffer.AgreeOn other 14 15) :
    buffer.transportOffset = other.transportOffset := by
  simp only [transportOffset, ipHl_congr agree]

theorem ports_congr (offset : buffer.transportOffset = other.transportOffset)
    (agree : buffer.AgreeOn other buffer.transportOffset (buffer.transportOffset + 4)) :
    buffer.thSport = other.thSport ∧ buffer.thDport = other.thDport := by
  simp only [thSport, thDport, ← offset]
  exact ⟨read16_congr (agree _ (by omega) (by omega)) (agree _ (by omega) (by omega)),
    read16_congr (agree _ (by omega) (by omega)) (agree _ (by omega) (by omega))⟩

end IntermediateBuffer

end NdisRebind

import Mathlib.Data.List.Basic

namespace NdisRebind

/-- `INTERMEDIATE_BUFFER`: a frame is the first `mLength` bytes of `mIBuffer`. Neither lambda reads
`mLength`, and the bytes past it are the driver's array, total here. -/
@[ext]
structure IntermediateBuffer where
  mLength : Nat
  mIBuffer : Nat → UInt8

/-- `net::ip_address_v4`: the four octets of an `in_addr`, in network order. -/
@[ext]
structure IpAddressV4 where
  octets : List UInt8
  length_octets : octets.length = 4
  deriving DecidableEq

/-- `net::mac_address`: the six octets of `data`. -/
@[ext]
structure MacAddress where
  data : List UInt8
  length_data : data.length = 6
  deriving DecidableEq

namespace IntermediateBuffer

def ofBytes (bytes : List UInt8) : IntermediateBuffer := ⟨bytes.length, fun i => bytes.getD i 0⟩

def readBytes (buffer : IntermediateBuffer) (offset count : Nat) : List UInt8 :=
  (List.range count).map fun k => buffer.mIBuffer (offset + k)

def writeBytes (buffer : IntermediateBuffer) (offset : Nat) (bytes : List UInt8) :
    IntermediateBuffer where
  mLength := buffer.mLength
  mIBuffer i :=
    if offset ≤ i ∧ i < offset + bytes.length then bytes.getD (i - offset) 0 else buffer.mIBuffer i

/-- A 16-bit field in network order, as `ntohs` reads it. -/
def read16 (buffer : IntermediateBuffer) (offset : Nat) : Nat :=
  (buffer.mIBuffer offset).toNat * 256 + (buffer.mIBuffer (offset + 1)).toNat

/-- A 16-bit field stored in network order, as `htons` leaves it. -/
def write16 (buffer : IntermediateBuffer) (offset value : Nat) : IntermediateBuffer :=
  buffer.writeBytes offset [UInt8.ofNat (value / 256), UInt8.ofNat value]

variable {buffer other : IntermediateBuffer} {offset count position : Nat} {bytes : List UInt8}

@[simp] theorem writeBytes_mLength : (buffer.writeBytes offset bytes).mLength = buffer.mLength := rfl

@[simp] theorem write16_mLength (value : Nat) :
    (buffer.write16 offset value).mLength = buffer.mLength := rfl

@[simp] theorem length_readBytes : (buffer.readBytes offset count).length = count := by
  simp [readBytes]

theorem writeBytes_outside {i : Nat} (outside : i < offset ∨ offset + bytes.length ≤ i) :
    (buffer.writeBytes offset bytes).mIBuffer i = buffer.mIBuffer i := by
  simp only [writeBytes]
  rw [if_neg (by omega)]

theorem writeBytes_inside {k : Nat} (lane : k < bytes.length) :
    (buffer.writeBytes offset bytes).mIBuffer (offset + k) = bytes.getD k 0 := by
  simp [writeBytes, lane]

theorem readBytes_congr
    (agree : ∀ k < count, buffer.mIBuffer (offset + k) = other.mIBuffer (offset + k)) :
    buffer.readBytes offset count = other.readBytes offset count :=
  List.map_congr_left fun k member => agree k (List.mem_range.mp member)

theorem readBytes_writeBytes_self (buffer : IntermediateBuffer) (offset : Nat) (bytes : List UInt8) :
    (buffer.writeBytes offset bytes).readBytes offset bytes.length = bytes := by
  apply List.ext_getElem (by simp)
  intro k lane _
  simp only [readBytes, List.getElem_map, List.getElem_range]
  rw [writeBytes_inside (by simpa using lane)]
  simp [List.getD_eq_getElem?_getD, List.getElem?_eq_getElem (by simpa using lane)]

theorem readBytes_writeBytes_apart (apart : offset + count ≤ position ∨ position + bytes.length ≤ offset) :
    (buffer.writeBytes position bytes).readBytes offset count = buffer.readBytes offset count :=
  readBytes_congr fun _ _ => writeBytes_outside (by omega)

theorem read16_congr (first : buffer.mIBuffer offset = other.mIBuffer offset)
    (second : buffer.mIBuffer (offset + 1) = other.mIBuffer (offset + 1)) :
    buffer.read16 offset = other.read16 offset := by
  simp only [read16, first, second]

theorem read16_lt : buffer.read16 offset < 65536 := by
  have high := (buffer.mIBuffer offset).toNat_lt_size
  have low := (buffer.mIBuffer (offset + 1)).toNat_lt_size
  simp only [UInt8.size] at high low
  simp only [read16]
  omega

theorem read16_writeBytes_apart (apart : offset + 2 ≤ position ∨ position + bytes.length ≤ offset) :
    (buffer.writeBytes position bytes).read16 offset = buffer.read16 offset :=
  read16_congr (writeBytes_outside (by omega)) (writeBytes_outside (by omega))

theorem write16_outside {i value : Nat} (outside : i < offset ∨ offset + 2 ≤ i) :
    (buffer.write16 offset value).mIBuffer i = buffer.mIBuffer i :=
  writeBytes_outside outside

theorem read16_write16_self {value : Nat} (bound : value < 65536) :
    (buffer.write16 offset value).read16 offset = value := by
  have high : (UInt8.ofNat (value / 256)).toNat = value / 256 :=
    UInt8.toNat_ofNat_of_lt (by simp only [UInt8.size]; omega)
  have low : (UInt8.ofNat value).toNat = value % 256 := rfl
  simp [read16, write16, writeBytes, high, low]
  omega

theorem write16_write16 {first second : Nat} :
    (buffer.write16 offset first).write16 offset second = buffer.write16 offset second := by
  ext i
  · rfl
  · simp only [write16, writeBytes, List.length_cons, List.length_nil]
    split_ifs <;> rfl

end IntermediateBuffer

end NdisRebind

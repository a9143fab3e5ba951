import Mathlib.Data.List.AList
import Mathlib.Data.Set.Function
import Mathlib.Order.Interval.Set.Defs

/-!
# The GATT server library

The attribute server of the BLE stack is vendored as a binary archive only, without
its source.  What the services call is collected in the structure `GattServApp`, which
every result takes as a parameter; the behaviour the code relies on is the predicate
`GattServApp.Lawful`.  `slotTable` is one server that behaves like the stack's
own: a table of four slots keyed by connection handle.

Main results:

- Theorem `slotTable_lawful`: the four-slot server keeps its configurations as
  documented.
- Theorem `slotTable_readsPayload`: it reads no byte the peer did not send.
-/

namespace PapajBadge

/-- A connection handle, `u16` in the stack. -/
abbrev ConnHandle := UInt16

/-- `INVALID_CONNHANDLE`: the handle of no link. -/
def invalidConnHandle : ConnHandle := 0xFFFF

/-- `ATT_ERR_ATTR_NOT_FOUND`. -/
def attErrAttrNotFound : UInt8 := 0x0A

/-- `ATT_ERR_ATTR_NOT_LONG`. -/
def attErrAttrNotLong : UInt8 := 0x0B

/-- `ATT_ERR_INVALID_VALUE_SIZE`. -/
def attErrInvalidValueSize : UInt8 := 0x0D

/-- `ATT_ERR_INSUFFICIENT_RESOURCES`. -/
def attErrInsufficientResources : UInt8 := 0x11

/-- `ATT_ERR_INVALID_VALUE`. -/
def attErrInvalidValue : UInt8 := 0x80

/-- `GATT_CLIENT_CHAR_CFG_UUID`: the client characteristic configuration. -/
def gattClientCharCfgUuid : UInt16 := 0x2902

/-- `GATT_CLIENT_CFG_NOTIFY`: the notification bit of a configuration. -/
def gattClientCfgNotify : UInt16 := 0x0001

/-- `u16::from_le_bytes`. -/
def u16FromLeBytes (low high : UInt8) : UInt16 :=
  UInt16.ofNat (low.toNat + 256 * high.toNat)

theorem u16FromLeBytes_toNat (low high : UInt8) :
    (u16FromLeBytes low high).toNat = low.toNat + 256 * high.toNat := by
  have hlow := low.toNat_lt
  have hhigh := high.toNat_lt
  rw [u16FromLeBytes, UInt16.toNat_ofNat']
  omega

/-- The bytes of a `u16` in little-endian order decode to it. -/
theorem u16FromLeBytes_split (v : UInt16) : u16FromLeBytes v.toUInt8 (v >>> 8).toUInt8 = v := by
  have hv := v.toNat_lt
  apply UInt16.toNat_inj.mp
  rw [u16FromLeBytes_toNat, UInt16.toNat_toUInt8, UInt16.toNat_toUInt8, UInt16.toNat_shiftRight]
  simp [Nat.shiftRight_eq_div_pow]
  omega

/-- The low byte of a decoded `u16`. -/
theorem u16FromLeBytes_low (low high : UInt8) : (u16FromLeBytes low high).toUInt8 = low := by
  have hlow := low.toNat_lt
  apply UInt8.toNat_inj.mp
  rw [UInt16.toNat_toUInt8, u16FromLeBytes_toNat]
  omega

/-- The high byte of a decoded `u16`. -/
theorem u16FromLeBytes_high (low high : UInt8) :
    (u16FromLeBytes low high >>> 8).toUInt8 = high := by
  have hlow := low.toNat_lt
  have hhigh := high.toNat_lt
  apply UInt8.toNat_inj.mp
  rw [UInt16.toNat_toUInt8, UInt16.toNat_shiftRight, u16FromLeBytes_toNat]
  simp [Nat.shiftRight_eq_div_pow]
  omega

/-- An offset the callbacks do not refuse. -/
theorem offset_eq_zero {offset : UInt16} (h : ¬offset > 0) : offset = 0 := by
  by_contra hne
  exact h (UInt16.pos_iff_ne_zero.mpr hne)

/-- A write request as a service callback receives it.  `value` is the memory
behind the value pointer; only its first `len` bytes were sent by the peer. -/
structure WriteRequest where
  connHandle : ConnHandle
  uuid : UInt16
  value : Nat → UInt8
  len : UInt16
  offset : UInt16

/-- `slice::from_raw_parts(value, len)`: the bytes the peer sent. -/
def WriteRequest.payload (req : WriteRequest) : List UInt8 :=
  (List.range req.len.toNat).map req.value

@[simp]
theorem WriteRequest.payload_length (req : WriteRequest) :
    req.payload.length = req.len.toNat := by
  simp [WriteRequest.payload]

/-- The first byte of a payload is the byte the value pointer points to. -/
theorem WriteRequest.payload_head? (req : WriteRequest) :
    req.payload.head? = if req.len = 0 then none else some (req.value 0) := by
  split_ifs with hlen
  · rw [WriteRequest.payload, hlen]
    rfl
  · have hpos : req.len.toNat ≠ 0 := fun hzero => hlen (UInt16.toNat_inj.mp hzero)
    rcases Nat.exists_eq_succ_of_ne_zero hpos with ⟨n, hn⟩
    rw [WriteRequest.payload, hn, List.range_succ_eq_map]
    rfl

/-- The two-byte little-endian value at the start of the request's memory. -/
def WriteRequest.cccValue (req : WriteRequest) : UInt16 :=
  u16FromLeBytes (req.value 0) (req.value 1)

/-- A read request as a service callback receives it; `maxLen` is the room in the
response buffer. -/
structure ReadRequest where
  connHandle : ConnHandle
  uuid : UInt16
  offset : UInt16
  maxLen : UInt16

/-- What a read callback does: the status it returns, the length it stores through
`plen`, if it stores one, and the bytes it copies to the start of the value buffer. -/
structure ReadReply where
  status : UInt8
  plen : Option UInt16
  written : List UInt8
deriving DecidableEq, Repr

/-- A reply that only reports a status. -/
def ReadReply.refuse (status : UInt8) : ReadReply where
  status := status
  plen := none
  written := []

/-- A reply that stores a length and copies as many bytes, from the first one on. -/
def ReadReply.serve (bytes : List UInt8) : ReadReply where
  status := 0
  plen := some (UInt16.ofNat bytes.length)
  written := bytes

/-- The calls the services make into the GATT server.  `Table` is a table of
client characteristic configurations (`[gattCharCfg_t; 4]`).
`processCccWriteReq` takes the connection handle, the value pointer, the length,
the offset and the permitted configuration bits. -/
structure GattServApp where
  Table : Type
  zeroed : Table
  initCharCfg : ConnHandle → Table → Table
  readCharCfg : ConnHandle → Table → UInt16
  processCccWriteReq :
    ConnHandle → (Nat → UInt8) → UInt16 → UInt16 → UInt16 → Table → Except UInt8 Table

/-- The documented behaviour of the configuration tables: an entry per handle,
set by a successful write, cleared by `initCharCfg` for that handle alone, and
cleared for all handles by `initCharCfg` on the invalid handle. -/
structure GattServApp.Lawful (A : GattServApp) : Prop where
  init_all : ∀ (h : ConnHandle) (t : A.Table),
    A.readCharCfg h (A.initCharCfg invalidConnHandle t) = 0
  init_self : ∀ {h : ConnHandle} (t : A.Table), h ≠ invalidConnHandle →
    A.readCharCfg h (A.initCharCfg h t) = 0
  init_other : ∀ {h h' : ConnHandle} (t : A.Table), h ≠ invalidConnHandle → h' ≠ h →
    A.readCharCfg h' (A.initCharCfg h t) = A.readCharCfg h' t
  write_self : ∀ {h : ConnHandle} {value : Nat → UInt8} {len offset cfg : UInt16}
    {t t' : A.Table}, A.processCccWriteReq h value len offset cfg t = .ok t' →
    A.readCharCfg h t' = u16FromLeBytes (value 0) (value 1)
  write_other : ∀ {h h' : ConnHandle} {value : Nat → UInt8} {len offset cfg : UInt16}
    {t t' : A.Table}, A.processCccWriteReq h value len offset cfg t = .ok t' → h' ≠ h →
    A.readCharCfg h' t' = A.readCharCfg h' t

/-- `processCccWriteReq` reads only the bytes the peer sent. -/
def GattServApp.ReadsPayload (A : GattServApp) : Prop :=
  ∀ (h : ConnHandle) {value value' : Nat → UInt8} (len offset cfg : UInt16) (t : A.Table),
    Set.EqOn value value' (Set.Iio len.toNat) →
      A.processCccWriteReq h value' len offset cfg t = A.processCccWriteReq h value len offset cfg t

/-! ## A four-slot server -/

/-- Configurations keyed by connection handle. -/
abbrev CharCfgSlots := AList fun _ : ConnHandle => UInt16

namespace CharCfgSlots

/-- Clear the entry of one handle, or of every handle for the invalid one. -/
def init (h : ConnHandle) (t : CharCfgSlots) : CharCfgSlots :=
  if h = invalidConnHandle then ∅ else t.erase h

/-- The configuration of a handle, zero when it has no entry. -/
def read (h : ConnHandle) (t : CharCfgSlots) : UInt16 :=
  (t.lookup h).getD 0

/-- A write of two bytes at offset zero with no bits but the permitted ones,
rejected when the handle is new and the four slots are taken.  The value that is read
already needs no slot. -/
def write (h : ConnHandle) (value : Nat → UInt8) (len offset cfg : UInt16)
    (t : CharCfgSlots) : Except UInt8 CharCfgSlots :=
  if offset ≠ 0 then .error attErrAttrNotLong
  else if len ≠ 2 then .error attErrInvalidValueSize
  else if u16FromLeBytes (value 0) (value 1) &&& ~~~cfg ≠ 0 then .error attErrInvalidValue
  else if read h t = u16FromLeBytes (value 0) (value 1) then .ok t
  else if (t.lookup h).isSome ∨ t.entries.length < 4 then
    .ok (t.insert h (u16FromLeBytes (value 0) (value 1)))
  else .error attErrInsufficientResources

theorem read_init_all (h : ConnHandle) (t : CharCfgSlots) :
    read h (init invalidConnHandle t) = 0 := by
  simp [read, init]

theorem read_init_self {h : ConnHandle} (t : CharCfgSlots) (hvalid : h ≠ invalidConnHandle) :
    read h (init h t) = 0 := by
  simp [read, init, hvalid]

theorem read_init_other {h h' : ConnHandle} (t : CharCfgSlots)
    (hvalid : h ≠ invalidConnHandle) (hne : h' ≠ h) :
    read h' (init h t) = read h' t := by
  simp [read, init, hvalid, AList.lookup_erase_ne hne]

/-- A successful write inserted the decoded value, or found it there. -/
theorem write_ok {h : ConnHandle} {value : Nat → UInt8} {len offset cfg : UInt16}
    {t t' : CharCfgSlots} (hw : write h value len offset cfg t = .ok t') :
    t' = t.insert h (u16FromLeBytes (value 0) (value 1)) ∨
      t' = t ∧ read h t = u16FromLeBytes (value 0) (value 1) := by
  unfold write at hw
  split_ifs at hw with hoffset hlen hbits hsame hroom
  · exact Or.inr ⟨(Except.ok.inj hw).symm, hsame⟩
  · exact Or.inl (Except.ok.inj hw).symm

theorem read_insert_self (h : ConnHandle) (v : UInt16) (t : CharCfgSlots) :
    read h (t.insert h v) = v := by
  simp [read]

theorem read_insert_other {h h' : ConnHandle} (v : UInt16) (t : CharCfgSlots) (hne : h' ≠ h) :
    read h' (t.insert h v) = read h' t := by
  simp [read, AList.lookup_insert_ne hne]

end CharCfgSlots

/-- A server with at most four configured connections per table, with the
checks and status codes of the stack's `ProcessCCCWriteReq`. -/
def slotTable : GattServApp where
  Table := CharCfgSlots
  zeroed := ∅
  initCharCfg := CharCfgSlots.init
  readCharCfg := CharCfgSlots.read
  processCccWriteReq := CharCfgSlots.write

/-- The four-slot server behaves as the services assume. -/
theorem slotTable_lawful : slotTable.Lawful where
  init_all := CharCfgSlots.read_init_all
  init_self := CharCfgSlots.read_init_self
  init_other := CharCfgSlots.read_init_other
  write_self hw := by
    rcases CharCfgSlots.write_ok hw with rfl | ⟨rfl, hsame⟩
    · exact CharCfgSlots.read_insert_self _ _ _
    · exact hsame
  write_other hw hne := by
    rcases CharCfgSlots.write_ok hw with rfl | ⟨rfl, -⟩
    · exact CharCfgSlots.read_insert_other _ _ hne
    · rfl

/-- The four-slot server looks at the value only when two bytes were sent. -/
theorem slotTable_readsPayload : slotTable.ReadsPayload := by
  intro h value value' len offset cfg t heq
  change CharCfgSlots.write h value' len offset cfg t = CharCfgSlots.write h value len offset cfg t
  by_cases hlen : len = 2
  · have hlow : value 0 = value' 0 := heq (by simp [hlen])
    have hhigh : value 1 = value' 1 := heq (by simp [hlen])
    simp only [CharCfgSlots.write, hlow, hhigh]
  · simp [CharCfgSlots.write, hlen]

end PapajBadge

import PapajBadge.BlePeriph.BlinkyService
import PapajBadge.BlePeriph.CurrentTimeService

/-!
# Attribute reads

The server passes a read callback the offset of the read and the room in the
response buffer.  This module states what the callback owes it in return, adds the
read callback of the Device Information service, and finds the requests for which
the three callbacks keep the contract.

Main results:

- Theorem `readContract_ofValue_iff`: serving whole values keeps the contract exactly
  for reads from the start into a buffer with room for the value.
- Theorem `readContract_atStart_iff`: once other offsets are refused, only the room is
  owed.
- Theorem `read_contract_iff`: the requests for which all three callbacks keep the
  contract.
-/

namespace PapajBadge

variable {A : GattServApp}

/-! ## The contract of a read -/

/-- What a read of an attribute value (`none` for an unknown attribute) may do:
refuse and store nothing, or store a length within the room of the buffer and as
many bytes of the value, from the requested offset on. -/
inductive ReadContract (value : Option (List UInt8)) (req : ReadRequest) (reply : ReadReply) :
    Prop
  | refused (hstatus : reply.status ≠ 0) (hplen : reply.plen = none)
      (hwritten : reply.written = [])
  | served {bytes : List UInt8} {n : UInt16} (hvalue : value = some bytes)
      (hstatus : reply.status = 0) (hplen : reply.plen = some n) (hroom : n ≤ req.maxLen)
      (hlength : reply.written.length = n.toNat)
      (hbytes : reply.written = (bytes.drop req.offset.toNat).take n.toNat)

/-- A refusal keeps the contract. -/
theorem readContract_refuse (value : Option (List UInt8)) (req : ReadRequest) {status : UInt8}
    (hstatus : status ≠ 0) : ReadContract value req (.refuse status) :=
  .refused hstatus rfl rfl

/-- A window of the length of a nonempty list is the whole list only at offset
zero. -/
theorem eq_zero_of_drop_take_length {bytes : List UInt8} {offset : Nat}
    (hpos : 0 < bytes.length) (h : bytes = (bytes.drop offset).take bytes.length) :
    offset = 0 := by
  have hlength := congrArg List.length h
  rw [List.length_take, List.length_drop] at hlength
  omega

/-- Serving a whole nonempty value keeps the contract exactly when the read starts
at offset zero and the buffer has room for the value. -/
theorem readContract_serve_iff {bytes : List UInt8} (hpos : 0 < bytes.length)
    (hlt : bytes.length < 2 ^ 16) (req : ReadRequest) :
    ReadContract (some bytes) req (.serve bytes) ↔
      req.offset = 0 ∧ bytes.length ≤ req.maxLen.toNat := by
  have hlen : (UInt16.ofNat bytes.length).toNat = bytes.length := by
    rw [UInt16.toNat_ofNat']
    exact Nat.mod_eq_of_lt hlt
  constructor
  · intro h
    cases h with
    | refused hstatus hplen hwritten => cases hplen
    | @served bytes' n hvalue hstatus hplen hroom hlength hbytes =>
        cases hvalue
        cases hplen
        rw [UInt16.le_iff_toNat_le, hlen] at hroom
        rw [hlen] at hbytes
        have hoffset : req.offset.toNat = 0 := eq_zero_of_drop_take_length hpos hbytes
        exact ⟨UInt16.toNat_inj.mp hoffset, hroom⟩
  · rintro ⟨hoffset, hroom⟩
    refine .served rfl rfl rfl ?_ ?_ ?_
    · rw [UInt16.le_iff_toNat_le, hlen]
      exact hroom
    · exact hlen.symm
    · rw [hoffset, hlen]
      simp [ReadReply.serve]

/-- A callback that serves the whole value of a known attribute and refuses any
other. -/
def ReadReply.ofValue : Option (List UInt8) → ReadReply
  | some bytes => .serve bytes
  | none => .refuse attErrAttrNotFound

/-- The values of the modelled attributes: neither empty nor too long for a length. -/
def Servable (value : Option (List UInt8)) : Prop :=
  ∀ bytes ∈ value, 0 < bytes.length ∧ bytes.length < 2 ^ 16

/-- A callback that looks at neither the offset nor the room keeps the contract exactly
for a read from the start with room for the value. -/
theorem readContract_ofValue_iff {value : Option (List UInt8)} (hvalue : Servable value)
    (req : ReadRequest) :
    ReadContract value req (.ofValue value) ↔
      ∀ bytes ∈ value, req.offset = 0 ∧ bytes.length ≤ req.maxLen.toNat := by
  cases value with
  | none =>
      refine iff_of_true (readContract_refuse none req (by decide)) ?_
      intro bytes hbytes
      cases hbytes
  | some bytes =>
      rcases hvalue bytes rfl with ⟨hpos, hlt⟩
      rw [ReadReply.ofValue, readContract_serve_iff hpos hlt]
      simp

/-- A callback that refuses every other offset owes the server only the room. -/
theorem readContract_atStart_iff {value : Option (List UInt8)} (hvalue : Servable value)
    (req : ReadRequest) :
    ReadContract value req
        (if req.offset > 0 then .refuse attErrAttrNotLong else .ofValue value) ↔
      ∀ bytes ∈ value, req.offset = 0 → bytes.length ≤ req.maxLen.toNat := by
  by_cases hoffset : req.offset > 0
  · rw [if_pos hoffset]
    refine iff_of_true (readContract_refuse value req (by decide)) ?_
    intro bytes _ hzero
    exact absurd hzero (UInt16.pos_iff_ne_zero.mp hoffset)
  · have hzero : req.offset = 0 := offset_eq_zero hoffset
    rw [if_neg hoffset, readContract_ofValue_iff hvalue]
    simp [hzero]

/-! ## The Device Information service -/

/-- `SYSTEM_ID_UUID`. -/
def systemIdUuid : UInt16 := 0x2A23

/-- `SERIAL_NUMBER_UUID`. -/
def serialNumberUuid : UInt16 := 0x2A25

/-- `TEMP_UUID`. -/
def tempUuid : UInt16 := 0x2A6E

/-- `DEVINFO_SYSTEM_ID_LEN`. -/
def devInfoSystemIdLen : ℕ := 8

/-- The serial number, `b"No. 9527"`. -/
def serialNumber : List UInt8 :=
  ['N', 'o', '.', ' ', '9', '5', '2', '7'].map Char.toUInt8

/-- The constant temperature in hundredths of a degree. -/
def temperature : Int16 := 3200

/-- The two bytes of an `i16` in memory. -/
def i16Bytes (v : Int16) : List UInt8 :=
  [v.toUInt16.toUInt8, (v.toUInt16 >>> 8).toUInt8]

/-- `dev_info_on_read_attr` with `SYSTEM_ID` as its static.  Neither the offset nor
`max_len` is looked at. -/
def devInfoOnReadAttr (systemId : Vector UInt8 8) (req : ReadRequest) : ReadReply :=
  if req.uuid = systemIdUuid then
    { status := 0
      plen := some (UInt16.ofNat devInfoSystemIdLen)
      written := systemId.toList.take devInfoSystemIdLen }
  else if req.uuid = serialNumberUuid then
    -- the length of the string is stored first, and then overwritten by 8
    { status := 0, plen := some 8, written := serialNumber }
  else if req.uuid = tempUuid then .serve (i16Bytes temperature)
  else .refuse attErrAttrNotFound

/-- The values of the service's attributes. -/
def devInfoValue (systemId : Vector UInt8 8) (uuid : UInt16) : Option (List UInt8) :=
  if uuid = systemIdUuid then some systemId.toList
  else if uuid = serialNumberUuid then some serialNumber
  else if uuid = tempUuid then some (i16Bytes temperature)
  else none

/-- The callback serves whole values, with their length. -/
theorem devInfoOnReadAttr_eq (systemId : Vector UInt8 8) (req : ReadRequest) :
    devInfoOnReadAttr systemId req = .ofValue (devInfoValue systemId req.uuid) := by
  have hlength : systemId.toList.length = devInfoSystemIdLen := Vector.length_toList
  unfold devInfoOnReadAttr devInfoValue
  split_ifs with hsystem hserial htemp
  · rw [← hlength, List.take_length]
    rfl
  · rfl
  · rfl
  · rfl

/-- A known attribute has eight bytes, or two. -/
theorem devInfoValue_cases {systemId : Vector UInt8 8} {uuid : UInt16} {bytes : List UInt8}
    (h : bytes ∈ devInfoValue systemId uuid) :
    (uuid = systemIdUuid ∧ bytes.length = 8) ∨ (uuid = serialNumberUuid ∧ bytes.length = 8) ∨
      (uuid = tempUuid ∧ bytes.length = 2) := by
  unfold devInfoValue at h
  split_ifs at h with hsystem hserial htemp
  · cases h
    exact Or.inl ⟨hsystem, Vector.length_toList⟩
  · cases h
    exact Or.inr (Or.inl ⟨hserial, rfl⟩)
  · cases h
    exact Or.inr (Or.inr ⟨htemp, rfl⟩)
  · cases h

theorem devInfoValue_servable (systemId : Vector UInt8 8) (uuid : UInt16) :
    Servable (devInfoValue systemId uuid) := by
  intro bytes hbytes
  rcases devInfoValue_cases hbytes with ⟨-, hlength⟩ | ⟨-, hlength⟩ | ⟨-, hlength⟩
  · omega
  · omega
  · omega

/-- A read of the Device Information service keeps the contract. -/
def DevInfoReadKept (systemId : Vector UInt8 8) (req : ReadRequest) : Prop :=
  ReadContract (devInfoValue systemId req.uuid) req (devInfoOnReadAttr systemId req)

/-- Reads of a whole value: every known attribute is read from the start, with room
for its eight or two bytes. -/
structure DevInfoReadWhole (req : ReadRequest) : Prop where
  systemId : req.uuid = systemIdUuid → req.offset = 0 ∧ 8 ≤ req.maxLen.toNat
  serialNumber : req.uuid = serialNumberUuid → req.offset = 0 ∧ 8 ≤ req.maxLen.toNat
  temp : req.uuid = tempUuid → req.offset = 0 ∧ 2 ≤ req.maxLen.toNat

/-- The Device Information callback keeps the contract exactly on whole reads and
unknown attributes. -/
theorem devInfoRead_kept_iff (systemId : Vector UInt8 8) (req : ReadRequest) :
    DevInfoReadKept systemId req ↔ DevInfoReadWhole req := by
  rw [DevInfoReadKept, devInfoOnReadAttr_eq,
    readContract_ofValue_iff (devInfoValue_servable systemId req.uuid)]
  constructor
  · intro h
    refine ⟨fun huuid => ?_, fun huuid => ?_, fun huuid => ?_⟩
    · have hwhole := h systemId.toList (by rw [huuid]; rfl)
      rw [Vector.length_toList] at hwhole
      exact hwhole
    · exact h serialNumber (by rw [huuid]; rfl)
    · exact h (i16Bytes temperature) (by rw [huuid]; rfl)
  · intro h bytes hbytes
    rcases devInfoValue_cases hbytes with ⟨huuid, hlength⟩ | ⟨huuid, hlength⟩ | ⟨huuid, hlength⟩
    · rw [hlength]
      exact h.systemId huuid
    · rw [hlength]
      exact h.serialNumber huuid
    · rw [hlength]
      exact h.temp huuid

/-! ## The blinky and Current Time services -/

/-- A request from another offset than zero, or with room for so many bytes. -/
def RoomAtStart (req : ReadRequest) (length : ℕ) : Prop :=
  req.offset = 0 → length ≤ req.maxLen.toNat

/-- The values of the attributes the blinky callback serves. -/
def blinkyValue (s : BlinkyState A) (uuid : UInt16) : Option (List UInt8) :=
  if uuid = blinkyDataUuid then some [if s.blinkyOn then 0x01 else 0x00] else none

/-- A read of the blinky service keeps the contract. -/
def BlinkyReadKept (req : ReadRequest) (s : BlinkyState A) : Prop :=
  ReadContract (blinkyValue s req.uuid) req (blinkyOnReadAttr req s)

/-- The blinky callback refuses every other offset and serves whole values. -/
theorem blinkyOnReadAttr_eq (req : ReadRequest) (s : BlinkyState A) :
    blinkyOnReadAttr req s =
      if req.offset > 0 then .refuse attErrAttrNotLong else .ofValue (blinkyValue s req.uuid) := by
  unfold blinkyOnReadAttr blinkyValue
  split_ifs <;> rfl

/-- The data is one byte. -/
theorem mem_blinkyValue {s : BlinkyState A} {uuid : UInt16} {bytes : List UInt8}
    (h : bytes ∈ blinkyValue s uuid) : uuid = blinkyDataUuid ∧ bytes.length = 1 := by
  by_cases hdata : uuid = blinkyDataUuid
  · rw [blinkyValue, if_pos hdata] at h
    cases h
    exact ⟨hdata, rfl⟩
  · rw [blinkyValue, if_neg hdata] at h
    cases h

/-- The blinky callback keeps the contract unless a read of its data from the start
leaves no room for one byte. -/
theorem blinkyRead_kept_iff (req : ReadRequest) (s : BlinkyState A) :
    BlinkyReadKept req s ↔ (req.uuid = blinkyDataUuid → RoomAtStart req 1) := by
  have hservable : Servable (blinkyValue s req.uuid) := by
    intro bytes hbytes
    rw [(mem_blinkyValue hbytes).2]
    decide
  rw [BlinkyReadKept, blinkyOnReadAttr_eq, readContract_atStart_iff hservable]
  constructor
  · intro h huuid
    exact h [if s.blinkyOn then 0x01 else 0x00] (by rw [huuid]; rfl)
  · intro h bytes hbytes
    rw [(mem_blinkyValue hbytes).2]
    exact h (mem_blinkyValue hbytes).1

/-- The values of the attributes the Current Time callback serves. -/
def ctsValue (now : DateTime) (uuid : UInt16) : Option (List UInt8) :=
  if uuid = currentTimeUuid then some (CurrentTime.servedBytes now) else none

/-- A read of the Current Time service keeps the contract. -/
def CtsReadKept (now : DateTime) (req : ReadRequest) (s : CtsState A) : Prop :=
  ReadContract (ctsValue now req.uuid) req (ctsOnReadAttr now req s).reply

/-- The Current Time callback refuses every other offset and serves whole values. -/
theorem ctsOnReadAttr_eq (now : DateTime) (req : ReadRequest) (s : CtsState A) :
    (ctsOnReadAttr now req s).reply =
      if req.offset > 0 then .refuse attErrAttrNotLong else .ofValue (ctsValue now req.uuid) := by
  unfold ctsOnReadAttr ctsValue
  split_ifs <;> rfl

/-- The time has ten bytes. -/
theorem mem_ctsValue {now : DateTime} {uuid : UInt16} {bytes : List UInt8}
    (h : bytes ∈ ctsValue now uuid) : uuid = currentTimeUuid ∧ bytes.length = 10 := by
  unfold ctsValue at h
  split_ifs at h with htime
  · cases h
    exact ⟨htime, Vector.length_toList⟩
  · cases h

/-- The Current Time callback keeps the contract unless a read of the time from the
start leaves no room for ten bytes. -/
theorem ctsRead_kept_iff (now : DateTime) (req : ReadRequest) (s : CtsState A) :
    CtsReadKept now req s ↔ (req.uuid = currentTimeUuid → RoomAtStart req 10) := by
  have hservable : Servable (ctsValue now req.uuid) := by
    intro bytes hbytes
    rw [(mem_ctsValue hbytes).2]
    decide
  rw [CtsReadKept, ctsOnReadAttr_eq, readContract_atStart_iff hservable]
  constructor
  · intro h huuid
    have hroom := h (CurrentTime.servedBytes now) (by rw [huuid]; rfl)
    rw [CurrentTime.servedBytes, Vector.length_toList] at hroom
    exact hroom
  · intro h bytes hbytes
    rw [(mem_ctsValue hbytes).2]
    exact h (mem_ctsValue hbytes).1

/-! ## All three services -/

/-- The three read callbacks keep the contract exactly when the Device Information
service is read whole and reads of the other two from the start leave room for the
value. -/
theorem read_contract_iff (systemId : Vector UInt8 8) (blinky : BlinkyState A) (now : DateTime)
    (cts : CtsState A) (devInfoReq blinkyReq ctsReq : ReadRequest) :
    (DevInfoReadKept systemId devInfoReq ∧ BlinkyReadKept blinkyReq blinky ∧
        CtsReadKept now ctsReq cts) ↔
      (DevInfoReadWhole devInfoReq ∧
        (blinkyReq.uuid = blinkyDataUuid → RoomAtStart blinkyReq 1) ∧
        (ctsReq.uuid = currentTimeUuid → RoomAtStart ctsReq 10)) := by
  rw [devInfoRead_kept_iff, blinkyRead_kept_iff, ctsRead_kept_iff]

/-- A System ID as the device builds it from its MAC address. -/
def macSystemId : Vector UInt8 8 :=
  #v[0x84, 0xC2, 0xE4, 0x00, 0x00, 0x03, 0x02, 0x02]

/-- The continuation of a read of the System ID, in a buffer of the default size. -/
def systemIdBlob : ReadRequest where
  connHandle := 0
  uuid := systemIdUuid
  offset := 1
  maxLen := 22

/-- The continuation is served the start of the value again. -/
theorem read_contract_broken_systemIdBlob :
    devInfoOnReadAttr macSystemId systemIdBlob = .serve macSystemId.toList ∧
      ¬DevInfoReadKept macSystemId systemIdBlob := by
  refine ⟨by decide, ?_⟩
  intro hkept
  rw [DevInfoReadKept] at hkept
  cases hkept with
  | refused hstatus hplen hwritten => cases hplen
  | @served bytes n hvalue hstatus hplen hroom hlength hbytes =>
      cases hvalue
      cases hplen
      revert hbytes
      decide

end PapajBadge

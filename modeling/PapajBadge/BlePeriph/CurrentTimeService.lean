import PapajBadge.BlePeriph.CurrentTime

/-!
# The Current Time service

The state of the service and its read and write callbacks.  The clock itself is a mock:
`rtc_set_time` converts the decoded time and hands the date-time on, so the model
records the value the clock was given.

Main results:

- Theorem `ctsOnWriteAttr_cases`: what a write can do.
- Theorem `cts_read_write_back`: a time that is read and written back is the time the
  clock showed.
- Theorem `clock_given_valid_time_iff`: the writes after which an accepted time
  exists in the calendar.
-/

namespace PapajBadge

/-- `CURRENT_TIME_UUID`. -/
def currentTimeUuid : UInt16 := 0x2A2B

/-- The statics of the service: `CTS_CLIENT_CHARCFG` and `CURRENT_TIME_VALUE`. -/
structure CtsState (A : GattServApp) where
  charCfg : A.Table
  currentTimeValue : CurrentTime

variable {A : GattServApp}

/-- The statics after `current_time_init`. -/
def CtsState.boot (A : GattServApp) : CtsState A where
  charCfg := A.initCharCfg invalidConnHandle A.zeroed
  currentTimeValue := CurrentTime.default

/-- `rtc_get_time`: the time of the clock, and the statics with the copy kept of
it. -/
def rtcGetTime (now : DateTime) (s : CtsState A) : CurrentTime × CtsState A :=
  let currentTimeValue := CurrentTime.fromDatetime now
  (currentTimeValue, { s with currentTimeValue := currentTimeValue })

/-- `rtc_set_time`: the date-time the clock is given. -/
def rtcSetTime (ct : CurrentTime) : DateTime :=
  ct.toDatetime

/-- The result of a read: the reply for the peer and the statics afterwards. -/
structure CtsRead (A : GattServApp) where
  reply : ReadReply
  state : CtsState A

/-- `on_read_attr` of the Current Time service while the clock shows `now`;
`max_len` is not looked at. -/
def ctsOnReadAttr (now : DateTime) (req : ReadRequest) (s : CtsState A) : CtsRead A :=
  if req.offset > 0 then { reply := .refuse attErrAttrNotLong, state := s }
  else if req.uuid = currentTimeUuid then
    let (ct, state) := rtcGetTime now s
    { reply := .serve ct.toBytes.toList, state := state }
  else { reply := .refuse attErrAttrNotFound, state := s }

/-- The result of a write: the status for the peer, the statics afterwards, and
the time passed to `rtc_set_time`, if it was called. -/
structure CtsWrite (A : GattServApp) where
  status : UInt8
  state : CtsState A
  rtcSet : Option CurrentTime

/-- `on_write_attr` of the Current Time service. -/
def ctsOnWriteAttr (req : WriteRequest) (s : CtsState A) : CtsWrite A :=
  if req.offset > 0 then { status := attErrAttrNotLong, state := s, rtcSet := none }
  else if req.uuid = currentTimeUuid then
    match CurrentTime.fromBytes req.payload with
    | some ct => { status := 0, state := s, rtcSet := some ct }
    | none => { status := 0x0D, state := s, rtcSet := none }
  else if req.uuid = gattClientCharCfgUuid then
    match A.processCccWriteReq req.connHandle req.value req.len req.offset
      gattClientCfgNotify s.charCfg with
    | .ok charCfg => { status := 0, state := { s with charCfg := charCfg }, rtcSet := none }
    | .error _ => { status := 0x0D, state := s, rtcSet := none }
  else { status := attErrAttrNotFound, state := s, rtcSet := none }

/-- The configuration write the request makes in the service's table, if it makes
one and the server accepts it. -/
def ctsCccWrite (req : WriteRequest) (s : CtsState A) : Option A.Table :=
  if req.offset = 0 ∧ req.uuid = gattClientCharCfgUuid then
    (A.processCccWriteReq req.connHandle req.value req.len req.offset
      gattClientCfgNotify s.charCfg).toOption
  else none

theorem currentTimeUuid_ne_ccc : currentTimeUuid ≠ gattClientCharCfgUuid := by
  decide

/-! ### The branches of a write -/

theorem ctsOnWriteAttr_long {req : WriteRequest} (hoffset : req.offset > 0) (s : CtsState A) :
    ctsOnWriteAttr req s = { status := attErrAttrNotLong, state := s, rtcSet := none } := by
  simp [ctsOnWriteAttr, hoffset]

theorem ctsOnWriteAttr_time {req : WriteRequest} (hoffset : ¬req.offset > 0)
    (huuid : req.uuid = currentTimeUuid) (s : CtsState A) :
    ctsOnWriteAttr req s =
      match CurrentTime.fromBytes req.payload with
      | some ct => { status := 0, state := s, rtcSet := some ct }
      | none => { status := 0x0D, state := s, rtcSet := none } := by
  simp only [ctsOnWriteAttr, hoffset, huuid, if_false, if_true]

theorem ctsOnWriteAttr_ccc {req : WriteRequest} (hoffset : ¬req.offset > 0)
    (huuid : req.uuid = gattClientCharCfgUuid) (s : CtsState A) :
    ctsOnWriteAttr req s =
      match A.processCccWriteReq req.connHandle req.value req.len req.offset
        gattClientCfgNotify s.charCfg with
      | .ok charCfg => { status := 0, state := { s with charCfg := charCfg }, rtcSet := none }
      | .error _ => { status := 0x0D, state := s, rtcSet := none } := by
  simp only [ctsOnWriteAttr, hoffset, huuid, currentTimeUuid_ne_ccc.symm, if_false, if_true]

theorem ctsOnWriteAttr_other {req : WriteRequest} (hoffset : ¬req.offset > 0)
    (htime : req.uuid ≠ currentTimeUuid) (hccc : req.uuid ≠ gattClientCharCfgUuid)
    (s : CtsState A) :
    ctsOnWriteAttr req s = { status := attErrAttrNotFound, state := s, rtcSet := none } := by
  simp [ctsOnWriteAttr, hoffset, htime, hccc]

/-- A write changes the statics only by an accepted configuration write. -/
theorem ctsOnWriteAttr_cases (req : WriteRequest) (s : CtsState A) :
    (∃ charCfg,
      A.processCccWriteReq req.connHandle req.value req.len req.offset gattClientCfgNotify
        s.charCfg = .ok charCfg ∧
      ctsCccWrite req s = some charCfg ∧
      (ctsOnWriteAttr req s).state = { s with charCfg := charCfg } ∧
      (ctsOnWriteAttr req s).rtcSet = none) ∨
    (ctsCccWrite req s = none ∧ (ctsOnWriteAttr req s).state = s) := by
  by_cases hoffset : req.offset > 0
  · have hne : req.offset ≠ 0 := UInt16.pos_iff_ne_zero.mp hoffset
    right
    rw [ctsOnWriteAttr_long hoffset]
    simp [ctsCccWrite, hne]
  · have hzero : req.offset = 0 := offset_eq_zero hoffset
    by_cases hccc : req.uuid = gattClientCharCfgUuid
    · rw [ctsOnWriteAttr_ccc hoffset hccc, ctsCccWrite, if_pos ⟨hzero, hccc⟩]
      cases hw : A.processCccWriteReq req.connHandle req.value req.len req.offset
        gattClientCfgNotify s.charCfg with
      | ok charCfg => exact Or.inl ⟨charCfg, rfl, rfl, rfl, rfl⟩
      | error e => exact Or.inr ⟨rfl, rfl⟩
    · right
      have hnone : ctsCccWrite req s = none := by
        simp [ctsCccWrite, hccc]
      refine ⟨hnone, ?_⟩
      by_cases htime : req.uuid = currentTimeUuid
      · rw [ctsOnWriteAttr_time hoffset htime]
        cases CurrentTime.fromBytes req.payload <;> rfl
      · rw [ctsOnWriteAttr_other hoffset htime hccc]

/-! ## Reading the time and writing it back -/

/-- A read of the time from its start serves the bytes of the clock. -/
theorem ctsOnReadAttr_time (now : DateTime) {req : ReadRequest} (hoffset : ¬req.offset > 0)
    (huuid : req.uuid = currentTimeUuid) (s : CtsState A) :
    (ctsOnReadAttr now req s).reply = .serve (CurrentTime.servedBytes now) := by
  rw [ctsOnReadAttr, if_neg hoffset, if_pos huuid]
  rfl

/-- A write of the time hands the clock what the bytes are accepted as. -/
theorem ctsOnWriteAttr_rtcSet {req : WriteRequest} (hoffset : ¬req.offset > 0)
    (huuid : req.uuid = currentTimeUuid) (s : CtsState A) :
    (ctsOnWriteAttr req s).rtcSet.map rtcSetTime = CurrentTime.acceptedDatetime req.payload := by
  rw [ctsOnWriteAttr_time hoffset huuid, CurrentTime.acceptedDatetime]
  cases CurrentTime.fromBytes req.payload with
  | none => rfl
  | some ct => rfl

/-- A peer that reads the time and writes it back hands the clock the time it showed,
without the milliseconds. -/
theorem cts_read_write_back {now : DateTime} (hnow : CurrentTime.Normal now)
    {readReq : ReadRequest} (hreadOffset : ¬readReq.offset > 0)
    (hreadUuid : readReq.uuid = currentTimeUuid) {writeReq : WriteRequest}
    (hwriteOffset : ¬writeReq.offset > 0) (hwriteUuid : writeReq.uuid = currentTimeUuid)
    (s : CtsState A) (hback : writeReq.payload = (ctsOnReadAttr now readReq s).reply.written)
    (s' : CtsState A) :
    (ctsOnWriteAttr writeReq s').rtcSet.map rtcSetTime = some { now with millisecond := 0 } := by
  rw [ctsOnReadAttr_time now hreadOffset hreadUuid] at hback
  rw [ctsOnWriteAttr_rtcSet hwriteOffset hwriteUuid, hback]
  exact CurrentTime.acceptedDatetime_servedBytes hnow

/-! ## Times handed to the clock -/

/-- A write to the Current Time value. -/
def currentTimeWrite (connHandle : ConnHandle) (value : Nat → UInt8) (len offset : UInt16) :
    WriteRequest where
  connHandle := connHandle
  uuid := currentTimeUuid
  value := value
  len := len
  offset := offset

/-- Whether the clock was given a date-time that exists. -/
def CtsWrite.ClockGivenValidTime (w : CtsWrite A) : Prop :=
  ∃ ct, w.rtcSet = some ct ∧ (rtcSetTime ct).Valid

instance (w : CtsWrite A) : Decidable w.ClockGivenValidTime :=
  match h : w.rtcSet with
  | none => .isFalse (by simp [CtsWrite.ClockGivenValidTime, h])
  | some ct =>
      decidable_of_iff (rtcSetTime ct).Valid (by simp [CtsWrite.ClockGivenValidTime, h])

/-- An accepted write to the Current Time value hands the clock a date-time that
exists exactly when the write is refused (a nonzero offset or fewer than ten
bytes) or its bytes are in range. -/
theorem clock_given_valid_time_iff (s : CtsState A) (connHandle : ConnHandle)
    (value : Nat → UInt8) (len offset : UInt16) :
    ((ctsOnWriteAttr (currentTimeWrite connHandle value len offset) s).status = 0 →
      (ctsOnWriteAttr (currentTimeWrite connHandle value len offset) s).ClockGivenValidTime) ↔
    (offset > 0 ∨ len.toNat < 10 ∨ CurrentTime.BytesInRange value) := by
  let req := currentTimeWrite connHandle value len offset
  change ((ctsOnWriteAttr req s).status = 0 → (ctsOnWriteAttr req s).ClockGivenValidTime) ↔
    (offset > 0 ∨ len.toNat < 10 ∨ CurrentTime.BytesInRange value)
  by_cases hoffset : offset > 0
  · rw [ctsOnWriteAttr_long (show req.offset > 0 from hoffset)]
    simp [hoffset, attErrAttrNotLong]
  · rw [ctsOnWriteAttr_time (show ¬req.offset > 0 from hoffset) rfl]
    by_cases hshort : len.toNat < 10
    · have hdecode : CurrentTime.fromBytes req.payload = none := by
        rw [CurrentTime.fromBytes_eq_none_iff, WriteRequest.payload_length]
        exact hshort
      simp [hdecode, hshort]
    · have hdecode : CurrentTime.fromBytes req.payload = some (CurrentTime.ofMemory value) :=
        CurrentTime.fromBytes_map_range value (Nat.le_of_not_lt hshort)
      simp [hdecode, CtsWrite.ClockGivenValidTime, rtcSetTime, hoffset, hshort,
        CurrentTime.toDatetime_valid_iff, CurrentTime.bytesInRange_iff]

/-- The first of month 13 in 2025, at noon. -/
def monthThirteen : Nat → UInt8 :=
  fun i => [0xE9, 0x07, 13, 1, 12, 0, 0, 1, 0, 0].getD i 0

/-- A ten-byte payload with month 13 is acknowledged, and the clock is given a
date that does not exist. -/
theorem clock_given_month_thirteen :
    ¬((ctsOnWriteAttr (currentTimeWrite 0 monthThirteen 10 0) (CtsState.boot slotTable)).status =
        0 →
      (ctsOnWriteAttr (currentTimeWrite 0 monthThirteen 10 0)
        (CtsState.boot slotTable)).ClockGivenValidTime) := by
  decide

end PapajBadge

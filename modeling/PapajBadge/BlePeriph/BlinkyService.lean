import PapajBadge.BleLibrary.GattServApp
import PapajBadge.BlePeriph.GapStateChange

/-!
# The blinky service

The state of the service, its read and write callbacks, and the two branches of the
notification task: one tick of its ticker, and one event received from the
application channel.

Main results:

- Theorem `blinkyOnWriteAttr_cases`: an accepted configuration write stores its
  value and offers one event; every other write touches neither the table nor the
  channel.
-/

namespace PapajBadge

/-- `BLINKY_DATA_UUID`. -/
def blinkyDataUuid : UInt16 := 0xFFE1

/-- `BLINKY_CONF_UUID`. -/
def blinkyConfUuid : UInt16 := 0xFFE2

/-- `BLINKY_CMD_UUID`. -/
def blinkyCmdUuid : UInt16 := 0xFFE3

/-- The statics of the service: `BLINKY_ON`, `BLINKY_CLIENT_CHARCFG`, and the
attribute handle the server assigned to the data value. -/
structure BlinkyState (A : GattServApp) where
  blinkyOn : Bool
  charCfg : A.Table
  dataHandle : UInt16

variable {A : GattServApp}

/-- The statics after `blinky_init`, with the handle the registration assigned. -/
def BlinkyState.boot (A : GattServApp) (dataHandle : UInt16) : BlinkyState A where
  blinkyOn := true
  charCfg := A.initCharCfg invalidConnHandle A.zeroed
  dataHandle := dataHandle

/-! ## Reads -/

/-- `blinky_on_read_attr`.  The value is the one byte `val`, and `max_len` is not
looked at. -/
def blinkyOnReadAttr (req : ReadRequest) (s : BlinkyState A) : ReadReply :=
  if req.offset > 0 then .refuse attErrAttrNotLong
  else if req.uuid = blinkyDataUuid then
    let val : UInt8 := if s.blinkyOn then 0x01 else 0x00
    .serve [val]
  else .refuse attErrAttrNotFound

/-! ## Writes -/

/-- The result of a write: the status for the peer, the statics afterwards, and
the events offered to the application channel. -/
structure BlinkyWrite (A : GattServApp) where
  status : UInt8
  state : BlinkyState A
  sent : List AppEvent

/-- The event an accepted configuration write is reported by. -/
def subscriptionEvent (req : WriteRequest) : AppEvent :=
  if req.payload = [0x01, 0x00] then .blinkySubscribed req.connHandle
  else .blinkyUnsubscribed req.connHandle

/-- `blinky_on_write_attr`.  Only an unknown attribute is refused: the command
branch ignores commands other than 0 and 1, the configuration characteristic does
nothing, and a rejected configuration write falls through to the common
success. -/
def blinkyOnWriteAttr (req : WriteRequest) (s : BlinkyState A) : BlinkyWrite A :=
  if req.uuid = blinkyCmdUuid then
    let cmd := req.value 0
    if cmd = 0x01 then { status := 0, state := { s with blinkyOn := true }, sent := [] }
    else if cmd = 0x00 then { status := 0, state := { s with blinkyOn := false }, sent := [] }
    else { status := 0, state := s, sent := [] }
  else if req.uuid = blinkyConfUuid then { status := 0, state := s, sent := [] }
  else if req.uuid = gattClientCharCfgUuid then
    match A.processCccWriteReq req.connHandle req.value req.len req.offset
      gattClientCfgNotify s.charCfg with
    | .ok charCfg =>
        { status := 0, state := { s with charCfg := charCfg }, sent := [subscriptionEvent req] }
    | .error _ => { status := 0, state := s, sent := [] }
  else { status := attErrAttrNotFound, state := s, sent := [] }

/-- The configuration write the request makes in the service's table, if it makes
one and the server accepts it. -/
def blinkyCccWrite (req : WriteRequest) (s : BlinkyState A) : Option A.Table :=
  if req.uuid = gattClientCharCfgUuid then
    (A.processCccWriteReq req.connHandle req.value req.len req.offset
      gattClientCfgNotify s.charCfg).toOption
  else none

theorem blinkyCmdUuid_ne_ccc : blinkyCmdUuid ≠ gattClientCharCfgUuid := by
  decide

theorem blinkyConfUuid_ne_ccc : blinkyConfUuid ≠ gattClientCharCfgUuid := by
  decide

theorem blinkyConfUuid_ne_cmd : blinkyConfUuid ≠ blinkyCmdUuid := by
  decide

/-- The attributes the write callback tells apart. -/
theorem blinky_attribute_cases (uuid : UInt16) :
    uuid = blinkyCmdUuid ∨ uuid = blinkyConfUuid ∨ uuid = gattClientCharCfgUuid ∨
      (uuid ≠ blinkyCmdUuid ∧ uuid ≠ blinkyConfUuid ∧ uuid ≠ gattClientCharCfgUuid) := by
  by_cases hcmd : uuid = blinkyCmdUuid
  · exact Or.inl hcmd
  · by_cases hconf : uuid = blinkyConfUuid
    · exact Or.inr (Or.inl hconf)
    · by_cases hccc : uuid = gattClientCharCfgUuid
      · exact Or.inr (Or.inr (Or.inl hccc))
      · exact Or.inr (Or.inr (Or.inr ⟨hcmd, hconf, hccc⟩))

/-! ### The branches of a write -/

theorem blinkyOnWriteAttr_cmd {req : WriteRequest} (huuid : req.uuid = blinkyCmdUuid)
    (s : BlinkyState A) :
    blinkyOnWriteAttr req s =
      { status := 0
        state := { s with
          blinkyOn :=
            if req.value 0 = 0x01 then true
            else if req.value 0 = 0x00 then false
            else s.blinkyOn }
        sent := [] } := by
  simp only [blinkyOnWriteAttr, huuid, if_true]
  split_ifs <;> rfl

theorem blinkyOnWriteAttr_conf {req : WriteRequest} (huuid : req.uuid = blinkyConfUuid)
    (s : BlinkyState A) :
    blinkyOnWriteAttr req s = { status := 0, state := s, sent := [] } := by
  simp only [blinkyOnWriteAttr, huuid, blinkyConfUuid_ne_cmd, if_false, if_true]

theorem blinkyOnWriteAttr_ccc {req : WriteRequest} (huuid : req.uuid = gattClientCharCfgUuid)
    (s : BlinkyState A) :
    blinkyOnWriteAttr req s =
      match A.processCccWriteReq req.connHandle req.value req.len req.offset
        gattClientCfgNotify s.charCfg with
      | .ok charCfg =>
          { status := 0, state := { s with charCfg := charCfg }, sent := [subscriptionEvent req] }
      | .error _ => { status := 0, state := s, sent := [] } := by
  simp only [blinkyOnWriteAttr, huuid, blinkyCmdUuid_ne_ccc.symm, blinkyConfUuid_ne_ccc.symm,
    if_false, if_true]

theorem blinkyOnWriteAttr_other {req : WriteRequest} (hcmd : req.uuid ≠ blinkyCmdUuid)
    (hconf : req.uuid ≠ blinkyConfUuid) (hccc : req.uuid ≠ gattClientCharCfgUuid)
    (s : BlinkyState A) :
    blinkyOnWriteAttr req s = { status := attErrAttrNotFound, state := s, sent := [] } := by
  simp [blinkyOnWriteAttr, hcmd, hconf, hccc]

/-- An accepted configuration write stores its value and offers one event; every
other write leaves the table alone and offers none. -/
theorem blinkyOnWriteAttr_cases (req : WriteRequest) (s : BlinkyState A) :
    (∃ charCfg,
      A.processCccWriteReq req.connHandle req.value req.len req.offset gattClientCfgNotify
        s.charCfg = .ok charCfg ∧
      blinkyCccWrite req s = some charCfg ∧
      (blinkyOnWriteAttr req s).state = { s with charCfg := charCfg } ∧
      (blinkyOnWriteAttr req s).sent = [subscriptionEvent req]) ∨
    (blinkyCccWrite req s = none ∧ (blinkyOnWriteAttr req s).state.charCfg = s.charCfg ∧
      (blinkyOnWriteAttr req s).sent = []) := by
  have hnone : req.uuid ≠ gattClientCharCfgUuid → blinkyCccWrite req s = none := by
    intro hccc
    rw [blinkyCccWrite, if_neg hccc]
  rcases blinky_attribute_cases req.uuid with hcmd | hconf | hccc | ⟨hcmd, hconf, hccc⟩
  · right
    rw [blinkyOnWriteAttr_cmd hcmd]
    exact ⟨hnone (by rw [hcmd]; exact blinkyCmdUuid_ne_ccc), rfl, rfl⟩
  · right
    rw [blinkyOnWriteAttr_conf hconf]
    exact ⟨hnone (by rw [hconf]; exact blinkyConfUuid_ne_ccc), rfl, rfl⟩
  · rw [blinkyOnWriteAttr_ccc hccc, blinkyCccWrite, if_pos hccc]
    cases hw : A.processCccWriteReq req.connHandle req.value req.len req.offset
      gattClientCfgNotify s.charCfg with
    | ok charCfg => exact Or.inl ⟨charCfg, rfl, rfl, rfl, rfl⟩
    | error e => exact Or.inr ⟨rfl, rfl, rfl⟩
  · right
    rw [blinkyOnWriteAttr_other hcmd hconf hccc]
    exact ⟨hnone hccc, rfl, rfl⟩

/-! ## The notification task -/

/-- What the surroundings contribute to one tick: the buffer `GATT_bm_alloc`
returned (`none` is the null pointer), the byte in memory next to the one-byte
local value, and whether `GATT_Notification` succeeded. -/
structure TickEnv where
  buffer : Option Nat
  adjacent : UInt8
  notified : Bool
deriving DecidableEq, Repr

/-- What the task does with the library in one tick, in order. -/
inductive TickOutput where
  | bmAlloc (buffer : Option Nat)
  | copy (buffer : Option Nat) (bytes : List UInt8)
  | gattNotification (connHandle : ConnHandle) (handle : UInt16) (len : UInt16)
      (buffer : Option Nat) (notified : Bool)
deriving DecidableEq, Repr

/-- The build profiles.  Only the development profile has debug assertions, with which
`ptr::copy` checks its pointers. -/
inductive Profile where
  | dev
  | release
deriving DecidableEq, Repr

/-- The calls of a tick that fill a buffer: two bytes are copied from the one-byte local
into a fresh one. -/
def fillBuffer (env : TickEnv) (s : BlinkyState A) : List TickOutput :=
  let val : UInt8 := if s.blinkyOn then 0x01 else 0x00
  [.bmAlloc env.buffer, .copy env.buffer [val, env.adjacent]]

/-- The ticker branch of `blinky_notification` when the copy returns: the buffer is then
handed to the stack, even if it is the null pointer. -/
def notificationTick (connHandle : ConnHandle) (env : TickEnv) (s : BlinkyState A) :
    List TickOutput :=
  if A.readCharCfg connHandle s.charCfg = 0x01 then
    fillBuffer env s ++
      [.gattNotification connHandle s.dataHandle 2 env.buffer env.notified]
  else []

/-- The copy of the tick panics: the profile checks its pointers, and no buffer was
found. -/
def CopyPanics (profile : Profile) (connHandle : ConnHandle) (env : TickEnv)
    (s : BlinkyState A) : Prop :=
  profile = .dev ∧ env.buffer = none ∧ A.readCharCfg connHandle s.charCfg = 0x01

instance (profile : Profile) (connHandle : ConnHandle) (env : TickEnv) (s : BlinkyState A) :
    Decidable (CopyPanics profile connHandle env s) :=
  inferInstanceAs (Decidable (_ ∧ _ ∧ _))

/-- The channel branch of `blinky_notification`: whether the event ends the
task. -/
def stopsNotification : AppEvent → Bool
  | .disconnected _ => true
  | .blinkyUnsubscribed _ => true
  | _ => false

/-- A tick notifies only the task's own handle, and only when its entry is set. -/
theorem mem_notificationTick {connHandle h : ConnHandle} {env : TickEnv} {s : BlinkyState A}
    {handle len : UInt16} {buffer : Option Nat} {notified : Bool}
    (hmem : .gattNotification h handle len buffer notified ∈ notificationTick connHandle env s) :
    h = connHandle ∧ A.readCharCfg connHandle s.charCfg = 0x01 := by
  unfold notificationTick at hmem
  by_cases hset : A.readCharCfg connHandle s.charCfg = 0x01
  · rw [if_pos hset] at hmem
    simp only [fillBuffer, List.mem_append, List.mem_cons, reduceCtorEq,
      TickOutput.gattNotification.injEq, List.not_mem_nil, or_false, false_or] at hmem
    exact ⟨hmem.1, hset⟩
  · rw [if_neg hset] at hmem
    simp at hmem

end PapajBadge

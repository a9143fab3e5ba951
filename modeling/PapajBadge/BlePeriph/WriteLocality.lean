import PapajBadge.BlePeriph.BlinkyService
import PapajBadge.BlePeriph.CurrentTimeService

/-!
# What a write depends on

The server passes a write callback a pointer and the number of bytes the peer sent;
what lies behind those bytes is whatever the stack left there.  This module compares
two calls whose buffers agree on the bytes sent.

Main results:

- Theorem `ctsWrite_local`: a write to the Current Time service depends on those
  bytes alone.
- Theorem `blinkyWrite_local_iff`: so does a write to the blinky service, unless it
  is an empty command.
- Theorem `write_local_iff`: the two together.
-/

namespace PapajBadge

variable {A : GattServApp}

/-- The same request with other memory behind its value pointer. -/
def WriteRequest.withValue (req : WriteRequest) (value : Nat → UInt8) : WriteRequest :=
  { req with value := value }

/-- Another buffer that holds the bytes the peer sent. -/
def WriteRequest.SameBytes (req : WriteRequest) (value : Nat → UInt8) : Prop :=
  Set.EqOn req.value value (Set.Iio req.len.toNat)

/-- The callback cannot tell apart buffers that hold the same bytes. -/
def DependsOnBytes {ρ : Type} (onWrite : WriteRequest → ρ) (req : WriteRequest) : Prop :=
  ∀ value, req.SameBytes value → onWrite (req.withValue value) = onWrite req

/-- The slice of the bytes sent is the same. -/
theorem WriteRequest.SameBytes.payload_eq {req : WriteRequest} {value : Nat → UInt8}
    (h : req.SameBytes value) : (req.withValue value).payload = req.payload := by
  unfold WriteRequest.payload
  apply List.map_congr_left
  intro i hi
  exact (h (List.mem_range.mp hi)).symm

/-- The library's verdict on a configuration write is the same. -/
theorem WriteRequest.SameBytes.process_eq (hA : A.ReadsPayload) {req : WriteRequest}
    {value : Nat → UInt8} (h : req.SameBytes value) (cfg : UInt16) (t : A.Table) :
    A.processCccWriteReq req.connHandle value req.len req.offset cfg t =
      A.processCccWriteReq req.connHandle req.value req.len req.offset cfg t :=
  hA req.connHandle req.len req.offset cfg t h

/-- The first byte is the same once a byte was sent. -/
theorem WriteRequest.SameBytes.first_eq {req : WriteRequest} {value : Nat → UInt8}
    (h : req.SameBytes value) (hlen : req.len ≠ 0) : value 0 = req.value 0 := by
  have hpos : 0 < req.len.toNat := by
    rw [Nat.pos_iff_ne_zero]
    intro hzero
    exact hlen (UInt16.toNat_inj.mp hzero)
  exact (h (Set.mem_Iio.mpr hpos)).symm

/-- When no byte was sent, every buffer holds the same bytes. -/
theorem WriteRequest.sameBytes_of_empty {req : WriteRequest} (hlen : req.len = 0)
    (value : Nat → UInt8) : req.SameBytes value := by
  intro i hi
  rw [hlen] at hi
  exact absurd hi (Nat.not_lt_zero i)

/-- Every branch of the Current Time callback looks at the bytes sent only. -/
theorem ctsWrite_local (hA : A.ReadsPayload) (req : WriteRequest) (s : CtsState A) :
    DependsOnBytes (ctsOnWriteAttr · s) req := by
  intro value h
  have hpayload := h.payload_eq
  have hprocess := h.process_eq hA gattClientCfgNotify s.charCfg
  change ctsOnWriteAttr (req.withValue value) s = ctsOnWriteAttr req s
  by_cases hoffset : req.offset > 0
  · have hoffset' : (req.withValue value).offset > 0 := hoffset
    rw [ctsOnWriteAttr_long hoffset, ctsOnWriteAttr_long hoffset']
  · have hoffset' : ¬(req.withValue value).offset > 0 := hoffset
    by_cases htime : req.uuid = currentTimeUuid
    · have htime' : (req.withValue value).uuid = currentTimeUuid := htime
      rw [ctsOnWriteAttr_time hoffset htime, ctsOnWriteAttr_time hoffset' htime', hpayload]
    · have htime' : (req.withValue value).uuid ≠ currentTimeUuid := htime
      by_cases hccc : req.uuid = gattClientCharCfgUuid
      · have hccc' : (req.withValue value).uuid = gattClientCharCfgUuid := hccc
        rw [ctsOnWriteAttr_ccc hoffset hccc, ctsOnWriteAttr_ccc hoffset' hccc', ← hprocess]
        rfl
      · have hccc' : (req.withValue value).uuid ≠ gattClientCharCfgUuid := hccc
        rw [ctsOnWriteAttr_other hoffset htime hccc, ctsOnWriteAttr_other hoffset' htime' hccc']

/-- The blinky callback looks at the bytes sent only, except when it takes a command
from an empty write. -/
theorem blinkyWrite_local (hA : A.ReadsPayload) {req : WriteRequest} (s : BlinkyState A)
    (hsent : ¬(req.uuid = blinkyCmdUuid ∧ req.len = 0)) :
    DependsOnBytes (blinkyOnWriteAttr · s) req := by
  intro value h
  have hpayload := h.payload_eq
  have hprocess := h.process_eq hA gattClientCfgNotify s.charCfg
  change blinkyOnWriteAttr (req.withValue value) s = blinkyOnWriteAttr req s
  rcases blinky_attribute_cases req.uuid with hcmd | hconf | hccc | ⟨hcmd, hconf, hccc⟩
  · have hcmd' : (req.withValue value).uuid = blinkyCmdUuid := hcmd
    have hlen : req.len ≠ 0 := fun hlen => hsent ⟨hcmd, hlen⟩
    have hfirst : (req.withValue value).value 0 = req.value 0 := h.first_eq hlen
    rw [blinkyOnWriteAttr_cmd hcmd, blinkyOnWriteAttr_cmd hcmd', hfirst]
  · have hconf' : (req.withValue value).uuid = blinkyConfUuid := hconf
    rw [blinkyOnWriteAttr_conf hconf, blinkyOnWriteAttr_conf hconf']
  · have hccc' : (req.withValue value).uuid = gattClientCharCfgUuid := hccc
    have hevent : subscriptionEvent (req.withValue value) = subscriptionEvent req := by
      rw [subscriptionEvent, subscriptionEvent, hpayload]
      rfl
    rw [blinkyOnWriteAttr_ccc hccc, blinkyOnWriteAttr_ccc hccc', ← hprocess, hevent]
    rfl
  · have hcmd' : (req.withValue value).uuid ≠ blinkyCmdUuid := hcmd
    have hconf' : (req.withValue value).uuid ≠ blinkyConfUuid := hconf
    have hccc' : (req.withValue value).uuid ≠ gattClientCharCfgUuid := hccc
    rw [blinkyOnWriteAttr_other hcmd hconf hccc, blinkyOnWriteAttr_other hcmd' hconf' hccc']

/-- The effect of an empty command is whatever byte lies behind the pointer. -/
theorem blinkyWrite_not_local {req : WriteRequest} (hcmd : req.uuid = blinkyCmdUuid)
    (hlen : req.len = 0) (s : BlinkyState A) : ¬DependsOnBytes (blinkyOnWriteAttr · s) req := by
  intro hlocal
  have hoff : (blinkyOnWriteAttr (req.withValue fun _ => 0x00) s).state.blinkyOn = false := by
    rw [blinkyOnWriteAttr_cmd (show (req.withValue fun _ => 0x00).uuid = blinkyCmdUuid from hcmd)]
    rfl
  have hon : (blinkyOnWriteAttr (req.withValue fun _ => 0x01) s).state.blinkyOn = true := by
    rw [blinkyOnWriteAttr_cmd (show (req.withValue fun _ => 0x01).uuid = blinkyCmdUuid from hcmd)]
    rfl
  have hsame : blinkyOnWriteAttr (req.withValue fun _ => 0x00) s =
      blinkyOnWriteAttr (req.withValue fun _ => 0x01) s :=
    (hlocal _ (WriteRequest.sameBytes_of_empty hlen _)).trans
      (hlocal _ (WriteRequest.sameBytes_of_empty hlen _)).symm
  rw [hsame, hon] at hoff
  cases hoff

/-- The blinky callback depends on the bytes sent alone exactly when it is not given
an empty command. -/
theorem blinkyWrite_local_iff (hA : A.ReadsPayload) (req : WriteRequest) (s : BlinkyState A) :
    DependsOnBytes (blinkyOnWriteAttr · s) req ↔ ¬(req.uuid = blinkyCmdUuid ∧ req.len = 0) := by
  constructor
  · rintro hlocal ⟨hcmd, hlen⟩
    exact blinkyWrite_not_local hcmd hlen s hlocal
  · intro hsent
    exact blinkyWrite_local hA s hsent

/-- Both callbacks depend on the bytes sent alone exactly when the blinky service is
not given an empty command. -/
theorem write_local_iff (hA : A.ReadsPayload) (blinkyReq ctsReq : WriteRequest)
    (blinky : BlinkyState A) (cts : CtsState A) :
    (DependsOnBytes (blinkyOnWriteAttr · blinky) blinkyReq ∧
        DependsOnBytes (ctsOnWriteAttr · cts) ctsReq) ↔
      ¬(blinkyReq.uuid = blinkyCmdUuid ∧ blinkyReq.len = 0) := by
  rw [blinkyWrite_local_iff hA]
  exact and_iff_left (ctsWrite_local hA ctsReq cts)

/-- A command of `len` bytes, over memory that holds `stale` throughout. -/
def staleCommand (stale : UInt8) (len : UInt16) : WriteRequest where
  connHandle := 0
  uuid := blinkyCmdUuid
  value := fun _ => stale
  len := len
  offset := 0

/-- A one-byte command and a ten-byte time. -/
theorem write_local_oneByte :
    DependsOnBytes (blinkyOnWriteAttr · (BlinkyState.boot slotTable 0)) (staleCommand 0x00 1) ∧
      DependsOnBytes (ctsOnWriteAttr · (CtsState.boot slotTable))
        (currentTimeWrite 0 monthThirteen 10 0) := by
  have hsent : ¬((staleCommand 0x00 1).uuid = blinkyCmdUuid ∧ (staleCommand 0x00 1).len = 0) := by
    decide
  exact (write_local_iff slotTable_readsPayload (staleCommand 0x00 1)
    (currentTimeWrite 0 monthThirteen 10 0) (BlinkyState.boot slotTable 0)
    (CtsState.boot slotTable)).mpr hsent

/-- An empty command switches the LED off or leaves it on, depending on a byte the
peer never sent. -/
theorem blinkyWrite_stale_byte :
    (blinkyOnWriteAttr (staleCommand 0x00 0) (BlinkyState.boot slotTable 0)).state.blinkyOn =
        false ∧
      (blinkyOnWriteAttr (staleCommand 0x01 0) (BlinkyState.boot slotTable 0)).state.blinkyOn =
        true ∧
      ¬DependsOnBytes (blinkyOnWriteAttr · (BlinkyState.boot slotTable 0))
        (staleCommand 0x00 0) := by
  refine ⟨by decide, by decide, ?_⟩
  intro hlocal
  have hsame := hlocal (fun _ => 0x01) (WriteRequest.sameBytes_of_empty rfl _)
  have hon := congrArg (fun w => w.state.blinkyOn) hsame
  revert hon
  decide

end PapajBadge

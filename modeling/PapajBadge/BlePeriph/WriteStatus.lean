import PapajBadge.BlePeriph.BlinkyService
import PapajBadge.BlePeriph.CurrentTimeService

/-!
# The status of a write

A peer that receives status zero is told that its write took effect.  This module
states that contract for both write callbacks and finds the requests for which
it is kept.

Main results:

- Theorem `ctsWrite_faithful`: the Current Time callback always keeps it.
- Theorem `blinkyWrite_faithful_iff`: the blinky callback keeps it except for a
  write to the configuration characteristic, a command other than a first byte
  0 or 1, and a rejected configuration write.
- Theorem `write_status_faithful_iff`: the two together.
-/

namespace PapajBadge

variable {A : GattServApp}

/-- The callback reports success exactly for a write that took effect, and a
write without effect leaves the statics alone and offers no event. -/
structure FaithfulWrite {σ ε : Type} (status : UInt8) (tookEffect : Prop) (before after : σ)
    (sent : List ε) : Prop where
  status_iff : status = 0 ↔ tookEffect
  otherwise_unchanged : ¬tookEffect → after = before ∧ sent = []

/-- A write to the blinky service took effect: an accepted configuration write,
or a commanded value that is now the one in force. -/
def BlinkyTookEffect (req : WriteRequest) (before after : BlinkyState A) : Prop :=
  (req.uuid = gattClientCharCfgUuid ∧
      ∃ charCfg, A.processCccWriteReq req.connHandle req.value req.len req.offset
        gattClientCfgNotify before.charCfg = .ok charCfg) ∨
    (req.uuid = blinkyCmdUuid ∧
      ((req.payload.head? = some 0x00 ∧ after.blinkyOn = false) ∨
        (req.payload.head? = some 0x01 ∧ after.blinkyOn = true)))

/-- A write to the Current Time service took effect: an accepted configuration
write, or a decoded time that was passed to `rtc_set_time`. -/
def CtsTookEffect (req : WriteRequest) (before : CtsState A) (rtcSet : Option CurrentTime) :
    Prop :=
  (req.uuid = gattClientCharCfgUuid ∧ req.offset = 0 ∧
      ∃ charCfg, A.processCccWriteReq req.connHandle req.value req.len req.offset
        gattClientCfgNotify before.charCfg = .ok charCfg) ∨
    (req.uuid = currentTimeUuid ∧
      ∃ ct, CurrentTime.fromBytes req.payload = some ct ∧ rtcSet = some ct)

/-- The blinky callback keeps the contract on a request. -/
def BlinkyWriteFaithful (req : WriteRequest) (s : BlinkyState A) : Prop :=
  FaithfulWrite (blinkyOnWriteAttr req s).status
    (BlinkyTookEffect req s (blinkyOnWriteAttr req s).state)
    s (blinkyOnWriteAttr req s).state (blinkyOnWriteAttr req s).sent

/-- The Current Time callback keeps the contract on a request. -/
def CtsWriteFaithful (req : WriteRequest) (s : CtsState A) : Prop :=
  FaithfulWrite (ctsOnWriteAttr req s).status
    (CtsTookEffect req s (ctsOnWriteAttr req s).rtcSet)
    s (ctsOnWriteAttr req s).state (ctsOnWriteAttr req s).rtcSet.toList

/-- A write whose effect is the success of what the callback tried keeps the
contract when it is acknowledged. -/
theorem FaithfulWrite.of_effect {σ ε : Type} {tookEffect : Prop} {before after : σ}
    {sent : List ε} (h : tookEffect) : FaithfulWrite 0 tookEffect before after sent where
  status_iff := by simp [h]
  otherwise_unchanged := fun hnot => absurd h hnot

/-- A refused write without any effect keeps the contract. -/
theorem FaithfulWrite.of_refused {σ ε : Type} {status : UInt8} {tookEffect : Prop} {before : σ}
    (hstatus : status ≠ 0) (h : ¬tookEffect) :
    FaithfulWrite status tookEffect before before ([] : List ε) where
  status_iff := by simp [hstatus, h]
  otherwise_unchanged := fun _ => ⟨rfl, rfl⟩

/-- An acknowledged write without effect breaks the contract. -/
theorem not_faithfulWrite_of_acknowledged {σ ε : Type} {tookEffect : Prop} {before after : σ}
    {sent : List ε} (h : ¬tookEffect) : ¬FaithfulWrite 0 tookEffect before after sent :=
  fun hfaithful => h (hfaithful.status_iff.mp rfl)

/-! ## The Current Time service -/

/-- Every branch of the Current Time callback reports what happened. -/
theorem ctsWrite_faithful (req : WriteRequest) (s : CtsState A) : CtsWriteFaithful req s := by
  unfold CtsWriteFaithful
  by_cases hoffset : req.offset > 0
  · have hne : req.offset ≠ 0 := UInt16.pos_iff_ne_zero.mp hoffset
    rw [ctsOnWriteAttr_long hoffset]
    refine FaithfulWrite.of_refused (show attErrAttrNotLong ≠ 0 by decide) ?_
    simp [CtsTookEffect, hne]
  · have hzero : req.offset = 0 := offset_eq_zero hoffset
    by_cases hccc : req.uuid = gattClientCharCfgUuid
    · have htime : req.uuid ≠ currentTimeUuid := by
        rw [hccc]
        exact currentTimeUuid_ne_ccc.symm
      rw [ctsOnWriteAttr_ccc hoffset hccc]
      cases hw : A.processCccWriteReq req.connHandle req.value req.len req.offset
        gattClientCfgNotify s.charCfg with
      | ok charCfg => exact FaithfulWrite.of_effect (Or.inl ⟨hccc, hzero, charCfg, hw⟩)
      | error e =>
          refine FaithfulWrite.of_refused (show (0x0D : UInt8) ≠ 0 by decide) ?_
          simp [CtsTookEffect, htime, hw]
    · by_cases htime : req.uuid = currentTimeUuid
      · rw [ctsOnWriteAttr_time hoffset htime]
        cases hdecode : CurrentTime.fromBytes req.payload with
        | some ct => exact FaithfulWrite.of_effect (Or.inr ⟨htime, ct, hdecode, rfl⟩)
        | none =>
            refine FaithfulWrite.of_refused (show (0x0D : UInt8) ≠ 0 by decide) ?_
            simp [CtsTookEffect, hccc]
      · rw [ctsOnWriteAttr_other hoffset htime hccc]
        refine FaithfulWrite.of_refused (show attErrAttrNotFound ≠ 0 by decide) ?_
        simp [CtsTookEffect, hccc, htime]

/-! ## The blinky service -/

/-- The byte behind the value pointer is the first byte of the payload, when there is one. -/
theorem WriteRequest.value_of_head? {req : WriteRequest} {b : UInt8}
    (h : req.payload.head? = some b) : req.value 0 = b := by
  rw [WriteRequest.payload_head?] at h
  split_ifs at h
  exact Option.some_inj.mp h

/-- Requests with an effect or a proper refusal: not the configuration
characteristic, a command starting with byte 0 or 1, and a configuration write
the server accepts. -/
def BlinkyWriteRegular (req : WriteRequest) (s : BlinkyState A) : Prop :=
  req.uuid ≠ blinkyConfUuid ∧
    (req.uuid = blinkyCmdUuid →
      req.payload.head? = some 0x00 ∨ req.payload.head? = some 0x01) ∧
    (req.uuid = gattClientCharCfgUuid →
      ∃ charCfg, A.processCccWriteReq req.connHandle req.value req.len req.offset
        gattClientCfgNotify s.charCfg = .ok charCfg)

/-- A command is regular when its first byte is 0 or 1. -/
theorem blinkyWriteRegular_cmd_iff {req : WriteRequest} (hcmd : req.uuid = blinkyCmdUuid)
    (s : BlinkyState A) :
    BlinkyWriteRegular req s ↔
      req.payload.head? = some 0x00 ∨ req.payload.head? = some 0x01 := by
  have hconf : req.uuid ≠ blinkyConfUuid := by
    rw [hcmd]
    exact blinkyConfUuid_ne_cmd.symm
  have hccc : req.uuid ≠ gattClientCharCfgUuid := by
    rw [hcmd]
    exact blinkyCmdUuid_ne_ccc
  constructor
  · intro hregular
    exact hregular.2.1 hcmd
  · intro hbyte
    exact ⟨hconf, fun _ => hbyte, fun huuid => absurd huuid hccc⟩

/-- A configuration write is regular when the server accepts it. -/
theorem blinkyWriteRegular_ccc_iff {req : WriteRequest}
    (hccc : req.uuid = gattClientCharCfgUuid) (s : BlinkyState A) :
    BlinkyWriteRegular req s ↔
      ∃ charCfg, A.processCccWriteReq req.connHandle req.value req.len req.offset
        gattClientCfgNotify s.charCfg = .ok charCfg := by
  have hconf : req.uuid ≠ blinkyConfUuid := by
    rw [hccc]
    exact blinkyConfUuid_ne_ccc.symm
  have hcmd : req.uuid ≠ blinkyCmdUuid := by
    rw [hccc]
    exact blinkyCmdUuid_ne_ccc.symm
  constructor
  · intro hregular
    exact hregular.2.2 hccc
  · intro haccepted
    exact ⟨hconf, fun huuid => absurd huuid hcmd, fun _ => haccepted⟩

/-- A command keeps the contract exactly when its first byte is 0 or 1. -/
theorem blinkyCommand_faithful_iff {req : WriteRequest} (hcmd : req.uuid = blinkyCmdUuid)
    (s : BlinkyState A) :
    BlinkyWriteFaithful req s ↔
      req.payload.head? = some 0x00 ∨ req.payload.head? = some 0x01 := by
  have hccc : req.uuid ≠ gattClientCharCfgUuid := by
    rw [hcmd]
    exact blinkyCmdUuid_ne_ccc
  rw [BlinkyWriteFaithful, blinkyOnWriteAttr_cmd hcmd]
  constructor
  · intro h
    rcases h.status_iff.mp rfl with ⟨huuid, -⟩ | ⟨-, ⟨hhead, -⟩ | ⟨hhead, -⟩⟩
    · exact absurd huuid hccc
    · exact Or.inl hhead
    · exact Or.inr hhead
  · intro hbyte
    refine FaithfulWrite.of_effect (Or.inr ⟨hcmd, ?_⟩)
    rcases hbyte with hhead | hhead
    · exact Or.inl ⟨hhead, by simp [WriteRequest.value_of_head? hhead]⟩
    · exact Or.inr ⟨hhead, by simp [WriteRequest.value_of_head? hhead]⟩

/-- A configuration write keeps the contract exactly when the server accepts it. -/
theorem blinkyConfiguration_faithful_iff {req : WriteRequest}
    (hccc : req.uuid = gattClientCharCfgUuid) (s : BlinkyState A) :
    BlinkyWriteFaithful req s ↔
      ∃ charCfg, A.processCccWriteReq req.connHandle req.value req.len req.offset
        gattClientCfgNotify s.charCfg = .ok charCfg := by
  have hcmd : req.uuid ≠ blinkyCmdUuid := by
    rw [hccc]
    exact blinkyCmdUuid_ne_ccc.symm
  rw [BlinkyWriteFaithful, blinkyOnWriteAttr_ccc hccc]
  cases hw : A.processCccWriteReq req.connHandle req.value req.len req.offset
    gattClientCfgNotify s.charCfg with
  | ok charCfg =>
      have hfaithful : FaithfulWrite 0
          (BlinkyTookEffect req s { s with charCfg := charCfg })
          s { s with charCfg := charCfg } [subscriptionEvent req] :=
        FaithfulWrite.of_effect (Or.inl ⟨hccc, charCfg, hw⟩)
      exact iff_of_true hfaithful ⟨charCfg, rfl⟩
  | error e =>
      refine iff_of_false (not_faithfulWrite_of_acknowledged ?_) (by simp)
      simp [BlinkyTookEffect, hcmd, hw]

/-- The blinky callback keeps the contract exactly on regular requests. -/
theorem blinkyWrite_faithful_iff (req : WriteRequest) (s : BlinkyState A) :
    BlinkyWriteFaithful req s ↔ BlinkyWriteRegular req s := by
  rcases blinky_attribute_cases req.uuid with hcmd | hconf | hccc | ⟨hcmd, hconf, hccc⟩
  · rw [blinkyCommand_faithful_iff hcmd, blinkyWriteRegular_cmd_iff hcmd]
  · have hcmd : req.uuid ≠ blinkyCmdUuid := by
      rw [hconf]
      exact blinkyConfUuid_ne_cmd
    have hccc : req.uuid ≠ gattClientCharCfgUuid := by
      rw [hconf]
      exact blinkyConfUuid_ne_ccc
    rw [BlinkyWriteFaithful, blinkyOnWriteAttr_conf hconf]
    refine iff_of_false (not_faithfulWrite_of_acknowledged ?_) fun h => h.1 hconf
    simp [BlinkyTookEffect, hcmd, hccc]
  · rw [blinkyConfiguration_faithful_iff hccc, blinkyWriteRegular_ccc_iff hccc]
  · rw [BlinkyWriteFaithful, blinkyOnWriteAttr_other hcmd hconf hccc]
    refine iff_of_true (FaithfulWrite.of_refused (show attErrAttrNotFound ≠ 0 by decide) ?_)
      ⟨hconf, fun h => absurd h hcmd, fun h => absurd h hccc⟩
    simp [BlinkyTookEffect, hcmd, hccc]

/-! ## Both services -/

/-- Status zero means effect, and no effect means no change, for every Current
Time write and for exactly the regular blinky writes. -/
theorem write_status_faithful_iff (blinkyReq ctsReq : WriteRequest) (blinky : BlinkyState A)
    (cts : CtsState A) :
    (BlinkyWriteFaithful blinkyReq blinky ∧ CtsWriteFaithful ctsReq cts) ↔
      BlinkyWriteRegular blinkyReq blinky := by
  rw [blinkyWrite_faithful_iff]
  exact and_iff_left (ctsWrite_faithful ctsReq cts)

/-- A three-byte configuration write, which the server rejects. -/
def overlongSubscribe : WriteRequest where
  connHandle := 0
  uuid := gattClientCharCfgUuid
  value := fun i => if i = 0 then 0x01 else 0x00
  len := 3
  offset := 0

/-- The peer is told that a rejected configuration write succeeded. -/
theorem blinkyWrite_unfaithful_rejected :
    (blinkyOnWriteAttr overlongSubscribe (BlinkyState.boot slotTable 0)).status = 0 ∧
      ¬BlinkyWriteFaithful overlongSubscribe (BlinkyState.boot slotTable 0) := by
  have hrejected : slotTable.processCccWriteReq 0 overlongSubscribe.value 3 0
      gattClientCfgNotify (BlinkyState.boot slotTable 0).charCfg =
      .error attErrInvalidValueSize := rfl
  have hstatus :
      (blinkyOnWriteAttr overlongSubscribe (BlinkyState.boot slotTable 0)).status = 0 := by
    decide
  refine ⟨hstatus, fun hfaithful => ?_⟩
  rcases hfaithful.status_iff.mp hstatus with ⟨-, charCfg, hok⟩ | ⟨hcmd, -⟩
  · cases hrejected.symm.trans hok
  · revert hcmd
    decide

end PapajBadge

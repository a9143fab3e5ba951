import PapajBadge.BlePeriph.Subscriptions
import PapajBadge.Foundation.BufferLedger

/-!
# Notification buffers

At each tick the notification task takes a buffer from the stack, copies the value
into it and hands it to the stack.  This module follows the bytes of the buffers, and
who owns them.

Main results:

- Theorem `payload_matches_read_iff`: what a tick hands over is never what a read of
  the same characteristic serves, as one byte too many is copied.
- Theorem `buffers_conserved_iff`: every buffer has been handed over at the end of
  each step exactly when no tick was refused a buffer or a notification.
-/

namespace PapajBadge

open TransitionSystem

variable {G : GapRole} {A : GattServApp}

/-! ## The bytes of a notification -/

/-- The memory behind the pointers `GATT_bm_alloc` returns. -/
abbrev BufferMemory := Option Nat → Nat → UInt8

/-- `ptr::copy` of some bytes to the start of a buffer. -/
def BufferMemory.copy (m : BufferMemory) (buffer : Option Nat) (bytes : List UInt8) :
    BufferMemory :=
  Function.update m buffer fun i => bytes.getD i (m buffer i)

/-- `len` bytes from the start of a buffer. -/
def BufferMemory.payload (m : BufferMemory) (buffer : Option Nat) (len : UInt16) : List UInt8 :=
  (List.range len.toNat).map (m buffer)

/-- The payloads given to `GATT_Notification`, as they stand in memory at the call. -/
def handedPayloads : BufferMemory → List TickOutput → List (List UInt8)
  | _, [] => []
  | m, .bmAlloc _ :: out => handedPayloads m out
  | m, .copy buffer bytes :: out => handedPayloads (m.copy buffer bytes) out
  | m, .gattNotification _ _ len buffer _ :: out =>
      m.payload buffer len :: handedPayloads m out

/-- Bytes copied to a buffer are what a notification of their length carries. -/
theorem BufferMemory.payload_copy (m : BufferMemory) (buffer : Option Nat) {bytes : List UInt8}
    {len : UInt16} (hlen : len.toNat = bytes.length) :
    (m.copy buffer bytes).payload buffer len = bytes := by
  apply List.ext_getElem
  · simp [payload, hlen]
  · intro i hi hbytes
    simp [payload, copy, List.getElem?_eq_getElem hbytes]

/-- A tick that notifies hands over the byte of the value and the byte after it. -/
theorem handedPayloads_notificationTick (m : BufferMemory) {connHandle : ConnHandle}
    (env : TickEnv) {s : BlinkyState A} (hset : A.readCharCfg connHandle s.charCfg = 0x01) :
    handedPayloads m (notificationTick connHandle env s) =
      [[if s.blinkyOn then 0x01 else 0x00, env.adjacent]] := by
  unfold notificationTick
  rw [if_pos hset]
  simp only [fillBuffer, List.cons_append, List.nil_append, handedPayloads]
  rw [BufferMemory.payload_copy _ _ rfl]

/-- A read of the blinky data from the start. -/
def blinkyDataRead (connHandle : ConnHandle) (maxLen : UInt16) : ReadRequest where
  connHandle := connHandle
  uuid := blinkyDataUuid
  offset := 0
  maxLen := maxLen

theorem blinkyOnReadAttr_data (connHandle : ConnHandle) (maxLen : UInt16) (s : BlinkyState A) :
    blinkyOnReadAttr (blinkyDataRead connHandle maxLen) s =
      .serve [if s.blinkyOn then 0x01 else 0x00] := by
  simp [blinkyOnReadAttr, blinkyDataRead]

/-- Every payload the tick hands over has the length and the bytes that a read serves
in the same state. -/
def PayloadMatchesRead (m : BufferMemory) (connHandle : ConnHandle) (env : TickEnv)
    (maxLen : UInt16) (s : BlinkyState A) : Prop :=
  ∀ payload ∈ handedPayloads m (notificationTick connHandle env s),
    blinkyOnReadAttr (blinkyDataRead connHandle maxLen) s = .serve payload

/-- In every state, whatever is in memory, a tick matches the read exactly when it
hands nothing over. -/
theorem payload_matches_read_iff (m : BufferMemory) (connHandle : ConnHandle) (env : TickEnv)
    (maxLen : UInt16) (s : BlinkyState A) :
    PayloadMatchesRead m connHandle env maxLen s ↔
      A.readCharCfg connHandle s.charCfg ≠ 0x01 := by
  constructor
  · intro hmatch hset
    have hread := hmatch [if s.blinkyOn then 0x01 else 0x00, env.adjacent]
      (by simp [handedPayloads_notificationTick m env hset])
    rw [blinkyOnReadAttr_data] at hread
    have hlength := congrArg (fun reply => reply.written.length) hread
    simp [ReadReply.serve] at hlength
  · intro hunset payload hpayload
    rw [notificationTick, if_neg hunset] at hpayload
    cases hpayload

/-- The blinky service after the client with handle 0 enabled notifications. -/
def blinkySubscribedState : BlinkyState slotTable :=
  (blinkyOnWriteAttr (cccRequest 0 1) (BlinkyState.boot slotTable 0x2A)).state

/-- A tick whose local variable is followed by a given byte. -/
def tickAdjacent (adjacent : UInt8) : TickEnv :=
  { tickAccepted with adjacent := adjacent }

/-- The client is sent a byte of the task's memory that no read would serve. -/
theorem payload_leaks_adjacent :
    handedPayloads (fun _ _ => 0) (notificationTick 0 (tickAdjacent 0xA5) blinkySubscribedState) =
        [[0x01, 0xA5]] ∧
      blinkyOnReadAttr (blinkyDataRead 0 22) blinkySubscribedState = .serve [0x01] ∧
      ¬PayloadMatchesRead (fun _ _ => 0) 0 (tickAdjacent 0xA5) 22 blinkySubscribedState := by
  refine ⟨by decide, by decide, ?_⟩
  intro hmatch
  have hread := hmatch [0x01, 0xA5] (by decide)
  revert hread
  decide

/-! ## The owners of the buffers -/

/-- What a library call of a tick does to the buffers: `GATT_Notification` takes the
buffer over only when it succeeds, and a copy counts as a write from its call on, even
where the call panics. -/
def TickOutput.bufferEvents : TickOutput → List (BufferEvent Nat)
  | .bmAlloc buffer => [.allocated buffer]
  | .copy buffer _ => [.written buffer]
  | .gattNotification _ _ _ buffer notified => if notified then [.handedOver buffer] else []

/-- What can be seen of a step to happen to the buffers. -/
def bufferEventsOf (out : List Obs) : List (BufferEvent Nat) :=
  out.flatMap fun
    | .tick output => output.bufferEvents
    | _ => []

/-- The ledger at the end of a trace. -/
def ledgerOf (trace : List (Step G A)) : BufferLedger Nat :=
  BufferLedger.empty.recordAll (trace.map fun t => bufferEventsOf t.outputs).flatten

/-- At the end of each step of the trace, every buffer allocated so far has been
handed over or freed, and the null buffer has never been written to. -/
def BuffersConserved (trace : List (Step G A)) : Prop :=
  ∀ before after, trace = before ++ after → (ledgerOf before).Balanced

/-- A tick of a task whose entry is set is given a buffer, and its notification is
accepted. -/
def TickDelivers (s : Peripheral G A) : Action → Prop
  | .notifierTick env =>
      ∀ c ∈ s.notifier, s.entry .blinky c = 1 → env.buffer ≠ none ∧ env.notified = true
  | _ => True

-- The quantifier ranges over an option, not over all handles.
instance (s : Peripheral G A) : DecidablePred (TickDelivers s) := fun a =>
  match a with
  | .notifierTick _ => Option.decidableForallMem s.notifier
  | .linkEstablished _ | .linkLost _ _ | .gapNotify _ | .blinkyWrite _ | .ctsWrite _
  | .loopReceive | .loopTimer _ | .notifierReceive => isTrue trivial

/-- A tick that notifies settles its buffer exactly when it got one and the
notification was accepted. -/
theorem notificationTick_balanced_iff {connHandle : ConnHandle} (env : TickEnv)
    {s : BlinkyState A} (hset : A.readCharCfg connHandle s.charCfg = 0x01) :
    (BufferLedger.empty.recordAll
        ((notificationTick connHandle env s).flatMap TickOutput.bufferEvents)).Balanced ↔
      env.buffer ≠ none ∧ env.notified = true := by
  rw [notificationTick, if_pos hset]
  rcases env with ⟨buffer, adjacent, notified⟩
  cases buffer with
  | none =>
      refine iff_of_false ?_ (by simp)
      cases notified with
      | true => exact BufferLedger.not_balanced_nullWrite [.handedOver none]
      | false => exact BufferLedger.not_balanced_nullWrite []
  | some b =>
      cases notified with
      | true => exact iff_of_true (BufferLedger.balanced_handedOver b) (by simp)
      | false => exact iff_of_false (BufferLedger.not_balanced_kept b) (by simp)

/-- A tick whose copy panics has called for a write to the null buffer. -/
theorem fillBuffer_not_balanced {env : TickEnv} (hnull : env.buffer = none) (s : BlinkyState A) :
    ¬(BufferLedger.empty.recordAll
      ((fillBuffer env s).flatMap TickOutput.bufferEvents)).Balanced := by
  rw [fillBuffer, hnull]
  exact BufferLedger.not_balanced_nullWrite []

/-- The buffer events of a tick are those of its library calls. -/
theorem bufferEventsOf_tick (outputs : List TickOutput) :
    bufferEventsOf (outputs.map .tick) = outputs.flatMap TickOutput.bufferEvents := by
  simp [bufferEventsOf, List.flatMap_map]

/-- The state callback touches no buffer. -/
theorem bufferEventsOf_gap (origin : Option Nat) (out : List GapOutput) :
    bufferEventsOf (out.map (Peripheral.obsOfGap origin)) = [] := by
  apply List.flatMap_eq_nil_iff.mpr
  intro o ho
  rcases Peripheral.mem_obsOfGap ho with rfl | ⟨m, rfl⟩
  · rfl
  · rfl

/-- Only a tick touches buffers, and it may panic at the copy. -/
theorem PeripheralStep.tick_or_quiet {s s' : Peripheral G A} {a : Action} {out : List Obs}
    (h : PeripheralStep s a s' out) :
    (∃ c env, a = .notifierTick env ∧ s.notifier = some c ∧
      out = (notificationTick c env s.blinky).map .tick) ∨
    (∃ c env, a = .notifierTick env ∧ s.notifier = some c ∧
      CopyPanics s.profile c env s.blinky ∧ out = (fillBuffer env s.blinky).map .tick) ∨
    (bufferEventsOf out = [] ∧ TickDelivers s a) := by
  cases h with
  | @callback _ n origin links nextLink gap gapOut hlinks hgap =>
      refine Or.inr (Or.inr ⟨bufferEventsOf_gap origin gapOut, ?_⟩)
      cases hlinks <;> trivial
  | callbackPanic hlinks hpanic =>
      refine Or.inr (Or.inr ⟨rfl, ?_⟩)
      cases hlinks <;> trivial
  | @ctsOther req times => exact Or.inr (Or.inr ⟨by simp [bufferEventsOf], trivial⟩)
  | @tick c env hrunning hcopies => exact Or.inl ⟨c, env, rfl, hrunning, rfl⟩
  | @tickPanic c env hrunning hpanics =>
      exact Or.inr (Or.inl ⟨c, env, rfl, hrunning, hpanics, rfl⟩)
  | _ => exact Or.inr (Or.inr ⟨rfl, trivial⟩)

/-- A step settles its own buffers exactly when it is a delivering tick or none. -/
theorem PeripheralStep.balanced_iff {s s' : Peripheral G A} {a : Action} {out : List Obs}
    (h : PeripheralStep s a s' out) :
    (BufferLedger.empty.recordAll (bufferEventsOf out)).Balanced ↔ TickDelivers s a := by
  rcases h.tick_or_quiet with ⟨c, env, rfl, hrunning, rfl⟩ |
    ⟨c, env, rfl, hrunning, ⟨-, hnull, hset⟩, rfl⟩ | ⟨hnone, hdelivers⟩
  · rw [bufferEventsOf_tick]
    by_cases hset : A.readCharCfg c s.blinky.charCfg = 0x01
    · rw [notificationTick_balanced_iff env hset]
      constructor
      · intro henv c' hc' _
        exact henv
      · intro hdelivers
        exact hdelivers c hrunning hset
    · have hquiet : notificationTick c env s.blinky = [] := by
        rw [notificationTick, if_neg hset]
      rw [hquiet]
      refine iff_of_true BufferLedger.balanced_empty ?_
      intro c' hc' hset'
      rw [hrunning] at hc'
      cases hc'
      exact absurd hset' hset
  · rw [bufferEventsOf_tick]
    refine iff_of_false (fillBuffer_not_balanced hnull s.blinky) ?_
    intro hdelivers
    exact (hdelivers c hrunning hset).1 hnull
  · rw [hnone]
    exact iff_of_true BufferLedger.balanced_empty hdelivers

/-- In every run, all buffers are accounted for at the end of each step exactly when
no tick was refused a buffer or a notification. -/
theorem buffers_conserved_iff {trace : List (Step G A)} {s : Peripheral G A}
    (hrun : (peripheralMachine G A).Run trace s) :
    BuffersConserved trace ↔ ∀ t ∈ trace, TickDelivers t.pre t.action := by
  have hstep : ∀ t ∈ trace,
      ((BufferLedger.empty.recordAll (bufferEventsOf t.outputs)).Balanced ↔
        TickDelivers t.pre t.action) := by
    intro t ht
    exact (Peripheral.step_sound (hrun.step_of_mem ht)).2.balanced_iff
  have hblocks := BufferLedger.balanced_prefixes_iff
    (trace.map fun t => bufferEventsOf t.outputs)
  constructor
  · intro hconserved
    have hsettles := hblocks.mp ?_
    · intro t ht
      exact (hstep t ht).mp (hsettles _ (List.mem_map_of_mem ht))
    · intro before after heq
      rcases List.map_eq_append_iff.mp heq with ⟨left, right, rfl, rfl, -⟩
      exact hconserved left right rfl
  · intro hdelivers before after heq
    refine hblocks.mpr ?_ (before.map fun t => bufferEventsOf t.outputs)
      (after.map fun t => bufferEventsOf t.outputs) (by rw [heq, List.map_append])
    intro block hblock
    rcases List.mem_map.mp hblock with ⟨t, ht, rfl⟩
    exact (hstep t ht).mpr (hdelivers t ht)

theorem buffers_conserved_subscriberNotified :
    ∃ trace s, badge.Run trace s ∧ trace.map Transition.action = subscriberNotified ∧
      .allocated (some 0) ∈ bufferEventsOf (outputsOf trace) ∧ BuffersConserved trace := by
  have hcheck : ∃ result ∈ badge.exec badgeBoot subscriberNotified,
      (∀ t ∈ result.1, TickDelivers t.pre t.action) ∧
        .allocated (some 0) ∈ bufferEventsOf (outputsOf result.1) := by
    decide
  rcases hcheck with ⟨⟨trace, s⟩, hexec, hdelivers, hallocated⟩
  have hrun := exec_run badge_initial hexec
  exact ⟨trace, s, hrun, exec_actions hexec, hallocated,
    (buffers_conserved_iff hrun).mpr hdelivers⟩

/-- A subscriber whose first notification fails, with memory exhausted at the next
tick. -/
def notificationRefused : List Action :=
  [.linkEstablished 0, .loopReceive, .loopTimer true, .blinkyWrite (cccRequest 0 1),
    .loopReceive, .notifierTick { tickAccepted with notified := false },
    .notifierTick { tickAccepted with buffer := none, notified := false }]

/-- The first tick loses its buffer, and the second writes to the null buffer. -/
theorem buffer_lost_notificationRefused :
    ∃ trace s, badge.Run trace s ∧ trace.map Transition.action = notificationRefused ∧
      ledgerOf trace = { outstanding := [0], nullWrites := 1 } ∧ ¬BuffersConserved trace := by
  have hcheck : ∃ result ∈ badge.exec badgeBoot notificationRefused,
      ledgerOf result.1 = { outstanding := [0], nullWrites := 1 } := by
    decide
  rcases hcheck with ⟨⟨trace, s⟩, hexec, hledger⟩
  refine ⟨trace, s, exec_run badge_initial hexec, exec_actions hexec, hledger, ?_⟩
  intro hconserved
  have hsettled := (hconserved trace [] (by simp)).settled
  rw [hledger] at hsettled
  cases hsettled

end PapajBadge

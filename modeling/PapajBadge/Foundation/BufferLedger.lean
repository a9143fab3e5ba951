import Mathlib.Data.List.Basic

/-!
# Buffer ledgers

Buffers are allocated, written to, and then either handed over to another owner or
freed.  An allocation may fail and yield the null buffer, written `none`.  The ledger
of a sequence of such events keeps the buffers that still have no other owner, and
counts the writes to the null buffer.

Main results:

- Theorem `recordAll_flatten_of_balanced`: blocks of events that settle on their own
  settle one after the other.
- Theorem `balanced_prefixes_iff`: the ledger is balanced after every block of a
  sequence exactly when every block settles on its own.
-/

/-- What can happen to a buffer. -/
inductive BufferEvent (β : Type*) where
  | allocated (buffer : Option β)
  | written (buffer : Option β)
  | handedOver (buffer : Option β)
  | freed (buffer : Option β)
deriving DecidableEq, Repr

/-- The buffers not yet handed over or freed, and the number of writes to the null
buffer. -/
structure BufferLedger (β : Type*) where
  outstanding : List β
  nullWrites : Nat
deriving DecidableEq, Repr

namespace BufferLedger

variable {β : Type*} [DecidableEq β]

/-- The ledger before any event. -/
def empty : BufferLedger β where
  outstanding := []
  nullWrites := 0

/-- Enter one event.  Handing over or freeing settles one allocation of the buffer. -/
def record (l : BufferLedger β) : BufferEvent β → BufferLedger β
  | .allocated none => l
  | .allocated (some b) => { l with outstanding := b :: l.outstanding }
  | .written none => { l with nullWrites := l.nullWrites + 1 }
  | .written (some _) => l
  | .handedOver none => l
  | .handedOver (some b) => { l with outstanding := l.outstanding.erase b }
  | .freed none => l
  | .freed (some b) => { l with outstanding := l.outstanding.erase b }

/-- Enter events in order. -/
def recordAll (l : BufferLedger β) (events : List (BufferEvent β)) : BufferLedger β :=
  events.foldl record l

/-- Nothing is outstanding, and the null buffer was never written to. -/
structure Balanced (l : BufferLedger β) : Prop where
  settled : l.outstanding = []
  noNullWrite : l.nullWrites = 0

omit [DecidableEq β] in
theorem balanced_empty : (empty : BufferLedger β).Balanced where
  settled := rfl
  noNullWrite := rfl

omit [DecidableEq β] in
/-- A balanced ledger is as good as new. -/
theorem Balanced.eq_empty {l : BufferLedger β} (h : l.Balanced) : l = empty := by
  rcases l with ⟨outstanding, nullWrites⟩
  cases h.settled
  cases h.noNullWrite
  rfl

@[simp]
theorem recordAll_nil (l : BufferLedger β) : l.recordAll [] = l :=
  rfl

@[simp]
theorem recordAll_cons (l : BufferLedger β) (e : BufferEvent β) (events : List (BufferEvent β)) :
    l.recordAll (e :: events) = (l.record e).recordAll events :=
  rfl

@[simp]
theorem recordAll_append (l : BufferLedger β) (left right : List (BufferEvent β)) :
    l.recordAll (left ++ right) = (l.recordAll left).recordAll right := by
  simp [recordAll]

/-- A write to the null buffer is never made up for. -/
theorem nullWrites_le_recordAll (l : BufferLedger β) (events : List (BufferEvent β)) :
    l.nullWrites ≤ (l.recordAll events).nullWrites := by
  induction events generalizing l with
  | nil => exact Nat.le_refl _
  | cons e events ih =>
      rw [recordAll_cons]
      have hstep : l.nullWrites ≤ (l.record e).nullWrites := by
        cases e with
        | written buffer => cases buffer <;> simp [record]
        | allocated buffer => cases buffer <;> simp [record]
        | handedOver buffer => cases buffer <;> simp [record]
        | freed buffer => cases buffer <;> simp [record]
      exact Nat.le_trans hstep (ih (l.record e))

/-! ## The life of one buffer -/

/-- Writing to a buffer just allocated and handing it over settles it. -/
theorem balanced_handedOver (b : β) :
    (empty.recordAll [.allocated (some b), .written (some b), .handedOver (some b)]).Balanced where
  settled := by simp [record, empty]
  noNullWrite := rfl

/-- A buffer that is only allocated and written to stays outstanding. -/
theorem not_balanced_kept (b : β) :
    ¬(empty.recordAll [.allocated (some b), .written (some b)]).Balanced := by
  intro h
  have hsettled := h.settled
  simp [record, empty] at hsettled

/-- Nothing that follows a failed allocation and a write makes up for them. -/
theorem not_balanced_nullWrite (events : List (BufferEvent β)) :
    ¬((empty : BufferLedger β).recordAll (.allocated none :: .written none :: events)).Balanced := by
  intro h
  have hle := nullWrites_le_recordAll
    ((empty : BufferLedger β).recordAll [.allocated none, .written none]) events
  rw [← recordAll_append] at hle
  have hzero := h.noNullWrite
  rw [List.cons_append, List.cons_append, List.nil_append, hzero] at hle
  exact absurd hle (by simp [record, empty])

/-! ## Blocks of events -/

/-- Blocks of events that settle on their own settle one after the other. -/
theorem recordAll_flatten_of_balanced {blocks : List (List (BufferEvent β))}
    (h : ∀ block ∈ blocks, (empty.recordAll block).Balanced) :
    empty.recordAll blocks.flatten = (empty : BufferLedger β) := by
  induction blocks with
  | nil => rfl
  | cons block blocks ih =>
      have hblock := (h block (by simp)).eq_empty
      have hrest := ih fun b hb => h b (by simp [hb])
      rw [List.flatten_cons, recordAll_append, hblock, hrest]

/-- The ledger is balanced after every block exactly when every block settles on its
own. -/
theorem balanced_prefixes_iff (blocks : List (List (BufferEvent β))) :
    (∀ before after, blocks = before ++ after →
        ((empty : BufferLedger β).recordAll before.flatten).Balanced) ↔
      ∀ block ∈ blocks, ((empty : BufferLedger β).recordAll block).Balanced := by
  constructor
  · intro h block hblock
    rcases List.append_of_mem hblock with ⟨before, after, rfl⟩
    have hbefore := (h before (block :: after) rfl).eq_empty
    have hnext := h (before ++ [block]) after (by simp)
    rw [List.flatten_append, recordAll_append, hbefore] at hnext
    simpa using hnext
  · intro h before after heq
    have hbefore : ∀ block ∈ before, ((empty : BufferLedger β).recordAll block).Balanced := by
      intro block hblock
      exact h block (by simp [heq, hblock])
    rw [recordAll_flatten_of_balanced hbefore]
    exact balanced_empty

end BufferLedger

import Mathlib.Data.List.Basic

/-!
# Bounded first-in first-out queues

A queue of fixed capacity with a non-blocking send.  The capacity bound is a
field, so an overfull queue cannot be built.

Main results:

- Theorem `BoundedFifo.offer_items`: a send whose failure is discarded appends
  when a slot is free and changes nothing otherwise.
- Theorems `BoundedFifo.conserves_offer` and `BoundedFifo.conserves_receive`:
  "what was received, followed by what is queued, is what was accepted" survives
  both operations.
-/

/-- A queue holding at most `capacity` items, oldest first. -/
structure BoundedFifo (α : Type*) (capacity : Nat) where
  items : List α
  bounded : items.length ≤ capacity

namespace BoundedFifo

variable {α : Type*} {capacity : Nat}

/-- The queue with nothing in it. -/
def empty : BoundedFifo α capacity where
  items := []
  bounded := Nat.zero_le _

/-- Append an item, or hand it back when every slot is taken. -/
def trySend (x : α) (q : BoundedFifo α capacity) : Except α (BoundedFifo α capacity) :=
  if h : q.items.length < capacity then
    .ok { items := q.items ++ [x], bounded := by simpa using Nat.succ_le_of_lt h }
  else .error x

/-- A send whose failure is thrown away. -/
def offer (x : α) (q : BoundedFifo α capacity) : BoundedFifo α capacity :=
  match q.trySend x with
  | .ok q' => q'
  | .error _ => q

/-- Take the oldest item, if there is one. -/
def receive? (q : BoundedFifo α capacity) : Option (α × BoundedFifo α capacity) :=
  match h : q.items with
  | [] => none
  | x :: rest =>
      have hbound : rest.length + 1 ≤ capacity := by simpa [h] using q.bounded
      some (x, { items := rest, bounded := Nat.le_of_succ_le hbound })

@[ext]
theorem ext {q r : BoundedFifo α capacity} (h : q.items = r.items) : q = r := by
  cases q
  cases r
  simp_all

theorem offer_items (x : α) (q : BoundedFifo α capacity) :
    (q.offer x).items =
      q.items ++ (if q.items.length < capacity then [x] else []) := by
  unfold offer trySend
  split_ifs with h <;> simp

/-- What is queued after a send was queued before or is the item sent. -/
theorem mem_of_mem_offer {x y : α} {q : BoundedFifo α capacity} (h : y ∈ (q.offer x).items) :
    y ∈ q.items ∨ y = x := by
  rw [offer_items, List.mem_append] at h
  rcases h with hold | hnew
  · exact Or.inl hold
  · split_ifs at hnew
    · exact Or.inr (List.mem_singleton.mp hnew)
    · cases hnew

/-- Receiving succeeds exactly on a nonempty queue and takes its head. -/
theorem receive?_eq_some_iff (q q' : BoundedFifo α capacity) (x : α) :
    q.receive? = some (x, q') ↔ q.items = x :: q'.items := by
  rcases q with ⟨items, hbound⟩
  cases items with
  | nil => simp [receive?]
  | cons y rest =>
      simp only [receive?, Option.some.injEq, Prod.mk.injEq, List.cons.injEq]
      constructor
      · rintro ⟨rfl, rfl⟩
        exact ⟨rfl, rfl⟩
      · rintro ⟨rfl, rfl⟩
        exact ⟨rfl, rfl⟩

/-- Receiving fails exactly on an empty queue. -/
theorem receive?_eq_none_iff (q : BoundedFifo α capacity) : q.receive? = none ↔ q.items = [] := by
  rcases q with ⟨items, hbound⟩
  cases items with
  | nil => simp [receive?]
  | cons y rest => simp [receive?]

/-- An item other than the one received stays queued. -/
theorem mem_receive?_of_ne {q q' : BoundedFifo α capacity} {x y : α}
    (h : q.receive? = some (x, q')) (hy : y ∈ q.items) (hne : y ≠ x) : y ∈ q'.items := by
  rw [(receive?_eq_some_iff q q' x).mp h, List.mem_cons] at hy
  exact hy.resolve_left hne

theorem mem_of_receive? {q q' : BoundedFifo α capacity} {x : α}
    (h : q.receive? = some (x, q')) : x ∈ q.items := by
  rw [(receive?_eq_some_iff q q' x).mp h]
  exact List.mem_cons_self

/-! ## Conservation of items -/

/-- Offering an item keeps the account of a queue balanced, whether or not a
slot was free. -/
theorem conserves_offer {received accepted : List α} {q : BoundedFifo α capacity}
    (h : received ++ q.items = accepted) (x : α) :
    received ++ (q.offer x).items =
      accepted ++ (if q.items.length < capacity then [x] else []) := by
  rw [offer_items, ← List.append_assoc, h]

/-- Receiving an item keeps the account of a queue balanced. -/
theorem conserves_receive {received accepted : List α} {q q' : BoundedFifo α capacity} {x : α}
    (h : received ++ q.items = accepted) (hq : q.receive? = some (x, q')) :
    (received ++ [x]) ++ q'.items = accepted := by
  rw [receive?_eq_some_iff] at hq
  rw [← h, hq]
  simp

end BoundedFifo

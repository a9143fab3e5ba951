import Mathlib.Data.List.Perm.Basic
import Mathlib.Data.List.Pairwise

/-!
# Fields of registers

A register is a bit vector, and a field of it is a run of neighbouring bits.  Setting a
field clears its bits and inserts the low bits of a value.

Main results:

- Theorem `RegisterField.getLsbD_set`: what setting a field does to each bit.
- Theorems `RegisterField.get_set`, `RegisterField.get_set_of_disjoint` and
  `RegisterField.set_comm`: a field holds what it was set to, keeps it while disjoint
  fields are set, and the order does not matter.
- Theorems `get_writeAll`, `getLsbD_writeAll_of_uncovered` and `writeAll_perm`: the same
  for a sequence of writes to disjoint fields.
- Theorem `writeAll_congr`: only the bits outside the written fields matter.
-/

/-- A field of a register with `n` bits: where it starts and how many bits it has. -/
structure RegisterField (n : ℕ) where
  offset : ℕ
  width : ℕ
  fits : offset + width ≤ n
deriving DecidableEq

namespace RegisterField

variable {n : ℕ}

/-- The field has the bit. -/
def Covers (f : RegisterField n) (i : ℕ) : Prop :=
  f.offset ≤ i ∧ i < f.offset + f.width

instance (f : RegisterField n) (i : ℕ) : Decidable (f.Covers i) :=
  inferInstanceAs (Decidable (_ ∧ _))

/-- One field ends before the other one starts. -/
def Disjoint (f g : RegisterField n) : Prop :=
  f.offset + f.width ≤ g.offset ∨ g.offset + g.width ≤ f.offset

instance (f g : RegisterField n) : Decidable (f.Disjoint g) :=
  inferInstanceAs (Decidable (_ ∨ _))

/-- As many low bits as the field has. -/
def lowMask (f : RegisterField n) : BitVec n :=
  BitVec.allOnes n >>> (n - f.width)

/-- The value of the field. -/
def get (f : RegisterField n) (r : BitVec n) : BitVec f.width :=
  r.extractLsb' f.offset f.width

/-- Clear the bits of the field and insert the low bits of a value. -/
def set (f : RegisterField n) (v r : BitVec n) : BitVec n :=
  (r &&& ~~~(f.lowMask <<< f.offset)) ||| ((v &&& f.lowMask) <<< f.offset)

theorem Disjoint.symm {f g : RegisterField n} (h : f.Disjoint g) : g.Disjoint f :=
  Or.symm h

/-- Disjoint fields have no bit in common. -/
theorem Disjoint.not_covers {f g : RegisterField n} (h : f.Disjoint g) {i : ℕ}
    (hi : f.Covers i) : ¬g.Covers i := by
  rintro ⟨hlow, hhigh⟩
  rcases hi with ⟨hlow', hhigh'⟩
  rcases h with hbefore | hafter
  · omega
  · omega

/-! ## One field, bit by bit -/

@[simp]
theorem getLsbD_lowMask (f : RegisterField n) (i : ℕ) :
    f.lowMask.getLsbD i = decide (i < f.width) := by
  have hfits := f.fits
  rw [lowMask, BitVec.getLsbD_ushiftRight, BitVec.getLsbD_allOnes]
  apply decide_eq_decide.mpr
  omega

@[simp]
theorem getLsbD_get (f : RegisterField n) (r : BitVec n) (i : ℕ) :
    (f.get r).getLsbD i = (decide (i < f.width) && r.getLsbD (f.offset + i)) :=
  BitVec.getLsbD_extractLsb' ..

/-- The shifted mask has the bits of the field. -/
theorem getLsbD_lowMask_shiftLeft (f : RegisterField n) (i : ℕ) :
    (f.lowMask <<< f.offset).getLsbD i = decide (f.Covers i) := by
  have hfits := f.fits
  rw [BitVec.getLsbD_shiftLeft, getLsbD_lowMask, ← decide_not, ← Bool.decide_and,
    ← Bool.decide_and]
  apply decide_eq_decide.mpr
  rw [Covers]
  omega

/-- The shifted value has its low bits in the field. -/
theorem getLsbD_value_shiftLeft (f : RegisterField n) (v : BitVec n) (i : ℕ) :
    ((v &&& f.lowMask) <<< f.offset).getLsbD i =
      (decide (f.Covers i) && v.getLsbD (i - f.offset)) := by
  have hmask := getLsbD_lowMask_shiftLeft f i
  rw [BitVec.getLsbD_shiftLeft] at hmask
  rw [← hmask, BitVec.getLsbD_shiftLeft, BitVec.getLsbD_and, Bool.and_comm (v.getLsbD _),
    ← Bool.and_assoc]

/-- Setting a field replaces its bits and no others. -/
theorem getLsbD_set (f : RegisterField n) (v r : BitVec n) (i : ℕ) :
    (f.set v r).getLsbD i =
      if f.Covers i then v.getLsbD (i - f.offset) else r.getLsbD i := by
  rw [set, BitVec.getLsbD_or, BitVec.getLsbD_and, BitVec.getLsbD_not, getLsbD_lowMask_shiftLeft,
    getLsbD_value_shiftLeft]
  by_cases hcovers : f.Covers i
  · simp [hcovers]
  · by_cases hi : i < n
    · rw [if_neg hcovers, decide_eq_true hi, decide_eq_false hcovers, Bool.false_and,
        Bool.or_false, Bool.not_false, Bool.and_self, Bool.and_true]
    · simp [hcovers, BitVec.getLsbD_of_ge r i (Nat.le_of_not_lt hi)]

/-- A field holds the low bits of what it was set to. -/
theorem get_set (f : RegisterField n) (v r : BitVec n) :
    f.get (f.set v r) = v.setWidth f.width := by
  ext i hi
  have hcovers : f.Covers (f.offset + i) := ⟨Nat.le_add_right .., Nat.add_lt_add_left hi _⟩
  rw [← BitVec.getLsbD_eq_getElem, ← BitVec.getLsbD_eq_getElem, getLsbD_get, getLsbD_set,
    if_pos hcovers, BitVec.getLsbD_setWidth, Nat.add_sub_cancel_left]

/-- Setting a field does not change a disjoint one. -/
theorem get_set_of_disjoint {f g : RegisterField n} (h : f.Disjoint g) (v r : BitVec n) :
    g.get (f.set v r) = g.get r := by
  ext i hi
  have hcovers : g.Covers (g.offset + i) := ⟨Nat.le_add_right .., Nat.add_lt_add_left hi _⟩
  rw [← BitVec.getLsbD_eq_getElem, ← BitVec.getLsbD_eq_getElem, getLsbD_get, getLsbD_get,
    getLsbD_set, if_neg (h.symm.not_covers hcovers)]

/-- Disjoint fields may be set in either order. -/
theorem set_comm {f g : RegisterField n} (h : f.Disjoint g) (v u r : BitVec n) :
    f.set v (g.set u r) = g.set u (f.set v r) := by
  apply BitVec.eq_of_getLsbD_eq
  intro i _
  rw [getLsbD_set, getLsbD_set, getLsbD_set, getLsbD_set]
  by_cases hf : f.Covers i
  · rw [if_pos hf, if_pos hf, if_neg (h.not_covers hf)]
  · rw [if_neg hf, if_neg hf]

end RegisterField

/-! ## Sequences of writes -/

/-- A field and the value it is set to. -/
structure FieldWrite (n : ℕ) where
  field : RegisterField n
  value : BitVec n

variable {n : ℕ}

/-- Set one field after the other. -/
def writeAll (writes : List (FieldWrite n)) (r : BitVec n) : BitVec n :=
  writes.foldl (fun r x => x.field.set x.value r) r

@[simp]
theorem writeAll_cons (x : FieldWrite n) (writes : List (FieldWrite n)) (r : BitVec n) :
    writeAll (x :: writes) r = writeAll writes (x.field.set x.value r) :=
  rfl

/-- Some write covers the bit. -/
def Covered (writes : List (FieldWrite n)) (i : ℕ) : Prop :=
  ∃ x ∈ writes, x.field.Covers i

/-- A bit outside the written fields keeps its value. -/
theorem getLsbD_writeAll_of_uncovered {writes : List (FieldWrite n)} {i : ℕ}
    (h : ¬Covered writes i) (r : BitVec n) : (writeAll writes r).getLsbD i = r.getLsbD i := by
  induction writes generalizing r with
  | nil => rfl
  | cons x writes ih =>
      have hrest : ¬Covered writes i := fun ⟨y, hy, hcovers⟩ =>
        h ⟨y, List.mem_cons_of_mem x hy, hcovers⟩
      have hfirst : ¬x.field.Covers i := fun hcovers => h ⟨x, List.mem_cons_self, hcovers⟩
      rw [writeAll_cons, ih hrest, RegisterField.getLsbD_set, if_neg hfirst]

/-- Registers that agree outside the written fields are equal afterwards. -/
theorem writeAll_congr {writes : List (FieldWrite n)} {r s : BitVec n}
    (h : ∀ i, ¬Covered writes i → r.getLsbD i = s.getLsbD i) :
    writeAll writes r = writeAll writes s := by
  induction writes generalizing r s with
  | nil =>
      apply BitVec.eq_of_getLsbD_eq
      intro i _
      exact h i fun ⟨x, hx, _⟩ => List.not_mem_nil hx
  | cons x writes ih =>
      apply ih
      intro i hi
      rw [RegisterField.getLsbD_set, RegisterField.getLsbD_set]
      by_cases hcovers : x.field.Covers i
      · rw [if_pos hcovers, if_pos hcovers]
      · rw [if_neg hcovers, if_neg hcovers]
        apply h
        rintro ⟨y, hy, hy'⟩
        rcases List.mem_cons.mp hy with rfl | hrest
        · exact hcovers hy'
        · exact hi ⟨y, hrest, hy'⟩

/-- No two writes share a bit. -/
def PairwiseDisjoint (writes : List (FieldWrite n)) : Prop :=
  writes.Pairwise fun x y => x.field.Disjoint y.field

instance (writes : List (FieldWrite n)) : Decidable (PairwiseDisjoint writes) :=
  inferInstanceAs (Decidable (writes.Pairwise _))

/-- A field that no write touches keeps its value. -/
theorem get_writeAll_of_disjoint {f : RegisterField n} {writes : List (FieldWrite n)}
    (h : ∀ x ∈ writes, f.Disjoint x.field) (r : BitVec n) :
    f.get (writeAll writes r) = f.get r := by
  induction writes generalizing r with
  | nil => rfl
  | cons x writes ih =>
      rw [List.forall_mem_cons] at h
      rw [writeAll_cons, ih h.2, RegisterField.get_set_of_disjoint h.1.symm]

/-- After writes to disjoint fields, each one holds what it was set to. -/
theorem get_writeAll {writes : List (FieldWrite n)} (h : PairwiseDisjoint writes)
    {x : FieldWrite n} (hx : x ∈ writes) (r : BitVec n) :
    x.field.get (writeAll writes r) = x.value.setWidth x.field.width := by
  induction writes generalizing r with
  | nil => cases hx
  | cons y writes ih =>
      rcases List.pairwise_cons.mp h with ⟨hfirst, hrest⟩
      rw [writeAll_cons]
      rcases List.mem_cons.mp hx with rfl | hmem
      · rw [get_writeAll_of_disjoint hfirst, RegisterField.get_set]
      · exact ih hrest hmem _

/-- Writes to disjoint fields may be made in any order. -/
theorem writeAll_perm {writes writes' : List (FieldWrite n)} (h : PairwiseDisjoint writes)
    (hperm : writes.Perm writes') (r : BitVec n) : writeAll writes r = writeAll writes' r := by
  have : Std.Symm fun x y : FieldWrite n => x.field.Disjoint y.field :=
    ⟨fun _ _ => RegisterField.Disjoint.symm⟩
  apply hperm.foldl_eq'
  intro x hx y hy r
  by_cases hxy : x = y
  · rw [hxy]
  · exact RegisterField.set_comm (h.forall hy hx (Ne.symm hxy)) ..

import PapajBadge.Foundation.RegisterFields

/-!
# The register interface

The accessors of the peripheral access crate: the readers and writers of fields and bits,
which mask and shift, and the ways to write a register, from its reset value or from its
contents.

Main results:

- Theorem `WriterCall.apply_eq`: a writer call sets a field.
- Theorem `modify_fields`: what a chain of writer calls on disjoint fields leaves in a
  register, whatever it held before and in whichever order the calls are made.
-/

namespace PapajBadge

/-- `RegisterSpec`, with the constants of `Writable` and `Resettable`: the number of bits,
the reset value, and the two bitmaps. -/
structure RegisterSpec where
  ux : ℕ
  resetValue : BitVec ux := 0
  zeroToModifyFieldsBitmap : BitVec ux := 0
  oneToModifyFieldsBitmap : BitVec ux := 0

/-! ## Readers and writers -/

section

variable {size : ℕ}

/-- `RawReg::mask`. -/
def RawReg.mask (size wi : ℕ) : BitVec size :=
  BitVec.allOnes size >>> (size - wi)

/-- `FieldWriter::bits`, with the value converted to the type of the register. -/
def FieldWriter.bits (wi o : ℕ) (value w : BitVec size) : BitVec size :=
  let w := w &&& ~~~(RawReg.mask size wi <<< o)
  w ||| ((value &&& RawReg.mask size wi) <<< o)

/-- `BitWriter::bit`. -/
def BitWriter.bit (o : ℕ) (value : Bool) (w : BitVec size) : BitVec size :=
  let w := w &&& ~~~((1 : BitVec size) <<< o)
  w ||| (((BitVec.ofBool value).setWidth size &&& 1) <<< o)

/-- What a reader of a field of several bits returns. -/
def FieldReader.bits (wi o : ℕ) (bits : BitVec size) : BitVec size :=
  (bits >>> o) &&& RawReg.mask size wi

/-- What a reader of a single bit returns. -/
def BitReader.bit (o : ℕ) (bits : BitVec size) : Bool :=
  (bits >>> o) &&& 1 ≠ 0

end

/-- `Reg::write`: the closure starts from the reset value. -/
def Reg.write (spec : RegisterSpec) (f : BitVec spec.ux → BitVec spec.ux) : BitVec spec.ux :=
  f (spec.resetValue &&& ~~~spec.oneToModifyFieldsBitmap ||| spec.zeroToModifyFieldsBitmap)

/-- `Reg::modify`: the closure is given the contents, and starts from them. -/
def Reg.modify (spec : RegisterSpec) (f : BitVec spec.ux → BitVec spec.ux → BitVec spec.ux)
    (bits : BitVec spec.ux) : BitVec spec.ux :=
  f bits (bits &&& ~~~spec.oneToModifyFieldsBitmap ||| spec.zeroToModifyFieldsBitmap)

/-! ## Chains of writer calls -/

/-- A call that a closure makes on the writer. -/
inductive WriterCall (size : ℕ) where
  | bits (wi o : ℕ) (value : BitVec size) (fits : o + wi ≤ size)
  | bit (o : ℕ) (value : Bool) (fits : o + 1 ≤ size)

namespace WriterCall

variable {size : ℕ}

/-- The writer after the call. -/
def apply : WriterCall size → BitVec size → BitVec size
  | bits wi o value _, w => FieldWriter.bits wi o value w
  | bit o value _, w => BitWriter.bit o value w

/-- The field the call writes. -/
def field : WriterCall size → RegisterField size
  | bits wi o _ fits => ⟨o, wi, fits⟩
  | bit o _ fits => ⟨o, 1, fits⟩

/-- The value the call writes, in the type of the register. -/
def value : WriterCall size → BitVec size
  | bits _ _ value _ => value
  | bit _ value _ => (BitVec.ofBool value).setWidth size

/-- The reader of the same field returns what the call wrote, as far as it fits. -/
def ReadBack : WriterCall size → BitVec size → Prop
  | bits wi o value _, r => FieldReader.bits wi o r = value &&& RawReg.mask size wi
  | bit o value _, r => BitReader.bit o r = value

/-- The call as a write to a field. -/
def toWrite (c : WriterCall size) : FieldWrite size where
  field := c.field
  value := c.value

/-- A chain of calls. -/
def applyAll (calls : List (WriterCall size)) (w : BitVec size) : BitVec size :=
  calls.foldl (fun w c => c.apply w) w

/-- A single bit is masked by one. -/
theorem mask_one (hsize : 0 < size) : RawReg.mask size 1 = 1 := by
  apply BitVec.eq_of_getLsbD_eq
  intro i hi
  have hone : (1 : BitVec size).getLsbD i = (decide (0 < size) && decide (i = 0)) :=
    BitVec.getLsbD_one
  rw [RawReg.mask, BitVec.getLsbD_ushiftRight, BitVec.getLsbD_allOnes, hone, ← Bool.decide_and]
  apply decide_eq_decide.mpr
  omega

/-- A call sets its field to its value. -/
theorem apply_eq (c : WriterCall size) (w : BitVec size) : c.apply w = c.field.set c.value w := by
  cases c with
  | bits wi o value fits => rfl
  | bit o value fits =>
      have hmask : (⟨o, 1, fits⟩ : RegisterField size).lowMask = 1 := mask_one (by omega)
      rw [apply, BitWriter.bit, field, RegisterField.set, hmask]
      rfl

/-- A chain of calls is a sequence of writes to fields. -/
theorem applyAll_eq (calls : List (WriterCall size)) (w : BitVec size) :
    applyAll calls w = writeAll (calls.map toWrite) w := by
  induction calls generalizing w with
  | nil => rfl
  | cons c calls ih =>
      rw [applyAll, List.foldl_cons, apply_eq]
      exact ih _

/-- A reader of a single bit returns that bit. -/
theorem bitReader_eq (o : ℕ) (r : BitVec size) : BitReader.bit o r = r.getLsbD o := by
  have hand : (r >>> o) &&& 1 = BitVec.setWidth size (BitVec.ofBool ((r >>> o).getLsbD 0)) :=
    BitVec.and_one_eq_setWidth_ofBool_getLsbD
  rw [BitReader.bit, hand, BitVec.getLsbD_ushiftRight, Nat.add_zero]
  cases hbit : r.getLsbD o with
  | false => simp
  | true =>
      have hlt : o < size := BitVec.lt_of_getLsbD hbit
      apply decide_eq_true
      intro hzero
      have hlow := congrArg (fun b => b.getLsbD 0) hzero
      simp [Nat.zero_lt_of_lt hlt] at hlow

/-- A field that holds the value of the call reads back. -/
theorem readBack_of_get {c : WriterCall size} {r : BitVec size}
    (h : c.field.get r = c.value.setWidth c.field.width) : c.ReadBack r := by
  cases c with
  | bits wi o value fits =>
      change FieldReader.bits wi o r = value &&& RawReg.mask size wi
      apply BitVec.eq_of_getLsbD_eq
      intro i _
      have hbit : (RegisterField.get ⟨o, wi, fits⟩ r).getLsbD i = (value.setWidth wi).getLsbD i :=
        congrArg (fun b => b.getLsbD i) h
      have hmask := RegisterField.getLsbD_lowMask ⟨o, wi, fits⟩ i
      rw [RegisterField.getLsbD_get, BitVec.getLsbD_setWidth] at hbit
      change (RawReg.mask size wi).getLsbD i = decide (i < wi) at hmask
      rw [FieldReader.bits, BitVec.getLsbD_and, BitVec.getLsbD_and, hmask,
        BitVec.getLsbD_ushiftRight, Bool.and_comm, hbit, Bool.and_comm]
  | bit o value fits =>
      change BitReader.bit o r = value
      rw [bitReader_eq]
      have hbit : (RegisterField.get ⟨o, 1, fits⟩ r).getLsbD 0 =
          (((BitVec.ofBool value).setWidth size).setWidth 1).getLsbD 0 :=
        congrArg (fun b => b.getLsbD 0) h
      have hsize : 0 < size := by omega
      rw [RegisterField.getLsbD_get] at hbit
      simpa [hsize] using hbit

/-- The calls write disjoint fields. -/
def Separate (calls : List (WriterCall size)) : Prop :=
  calls.Pairwise fun c d => c.field.Disjoint d.field

instance (calls : List (WriterCall size)) : Decidable (Separate calls) :=
  inferInstanceAs (Decidable (calls.Pairwise _))

theorem Separate.pairwiseDisjoint {calls : List (WriterCall size)} (h : Separate calls) :
    PairwiseDisjoint (calls.map toWrite) :=
  List.pairwise_map.mpr h

/-- What calls on disjoint fields wrote reads back. -/
theorem readBack_applyAll {calls : List (WriterCall size)} (h : Separate calls)
    {c : WriterCall size} (hc : c ∈ calls) (w : BitVec size) : c.ReadBack (applyAll calls w) := by
  apply readBack_of_get
  rw [applyAll_eq]
  exact get_writeAll h.pairwiseDisjoint (List.mem_map_of_mem hc) w

/-- A bit outside the written fields is the one before. -/
theorem getLsbD_applyAll {calls : List (WriterCall size)} {i : ℕ}
    (hi : ∀ c ∈ calls, ¬c.field.Covers i) (w : BitVec size) :
    (applyAll calls w).getLsbD i = w.getLsbD i := by
  rw [applyAll_eq]
  apply getLsbD_writeAll_of_uncovered
  rintro ⟨x, hx, hcovers⟩
  rcases List.mem_map.mp hx with ⟨c, hc, rfl⟩
  exact hi c hc hcovers

end WriterCall

open WriterCall

/-- The value a closure starts from, bit by bit. -/
theorem getLsbD_start (spec : RegisterSpec) (bits : BitVec spec.ux) {i : ℕ} (hi : i < spec.ux) :
    (bits &&& ~~~spec.oneToModifyFieldsBitmap ||| spec.zeroToModifyFieldsBitmap).getLsbD i =
      ((bits.getLsbD i && !spec.oneToModifyFieldsBitmap.getLsbD i) ||
        spec.zeroToModifyFieldsBitmap.getLsbD i) := by
  rw [BitVec.getLsbD_or, BitVec.getLsbD_and, BitVec.getLsbD_not, decide_eq_true hi,
    Bool.true_and]

/-- Modifying a second time changes nothing. -/
theorem modify_modify (spec : RegisterSpec) (calls : List (WriterCall spec.ux))
    (bits : BitVec spec.ux) :
    Reg.modify spec (fun _ => applyAll calls) (Reg.modify spec (fun _ => applyAll calls) bits) =
      Reg.modify spec (fun _ => applyAll calls) bits := by
  generalize hafter : Reg.modify spec (fun _ => applyAll calls) bits = after
  rw [Reg.modify, applyAll_eq] at hafter
  rw [Reg.modify, applyAll_eq, ← hafter]
  apply writeAll_congr
  intro i huncovered
  by_cases hi : i < spec.ux
  · rw [getLsbD_start spec _ hi, getLsbD_writeAll_of_uncovered huncovered,
      getLsbD_start spec bits hi]
    cases spec.zeroToModifyFieldsBitmap.getLsbD i with
    | false => rw [Bool.or_false, Bool.or_false, Bool.and_assoc, Bool.and_self]
    | true => rw [Bool.or_true, Bool.or_true]
  · have hge : spec.ux ≤ i := Nat.le_of_not_lt hi
    rw [BitVec.getLsbD_of_ge _ _ hge, BitVec.getLsbD_of_ge _ _ hge]

/-- What a chain of calls leaves in a register that held some bits: every call reads back,
and the bits that no call writes are as before, but for the bitmaps. -/
structure Modified (spec : RegisterSpec) (calls : List (WriterCall spec.ux))
    (before after : BitVec spec.ux) : Prop where
  readBack : ∀ c ∈ calls, c.ReadBack after
  kept : ∀ i < spec.ux, (∀ c ∈ calls, ¬c.field.Covers i) →
    after.getLsbD i = ((before.getLsbD i && !spec.oneToModifyFieldsBitmap.getLsbD i) ||
      spec.zeroToModifyFieldsBitmap.getLsbD i)

/-- Modifying changes the written fields of the contents and no others. -/
theorem modified_modify (spec : RegisterSpec) {calls : List (WriterCall spec.ux)}
    (hseparate : Separate calls) (bits : BitVec spec.ux) :
    Modified spec calls bits (Reg.modify spec (fun _ => applyAll calls) bits) where
  readBack := fun _ hc => readBack_applyAll hseparate hc _
  kept := by
    intro i hi huncovered
    rw [Reg.modify, getLsbD_applyAll huncovered, getLsbD_start spec bits hi]

/-- Calls on disjoint fields may be made in any order. -/
theorem applyAll_perm {size : ℕ} {calls calls' : List (WriterCall size)}
    (hseparate : Separate calls) (hperm : calls.Perm calls') : applyAll calls' = applyAll calls := by
  ext1 w
  rw [applyAll_eq, applyAll_eq]
  exact (writeAll_perm hseparate.pairwiseDisjoint (hperm.map toWrite) w).symm

/-- A chain of calls on disjoint fields, made in any order: `modify` changes those fields
of the contents and no others, and so does `write` with the reset value; modifying a second
time changes nothing. -/
theorem modify_fields (spec : RegisterSpec) {calls calls' : List (WriterCall spec.ux)}
    (hseparate : Separate calls) (hperm : calls.Perm calls') (bits : BitVec spec.ux) :
    Modified spec calls bits (Reg.modify spec (fun _ => applyAll calls') bits) ∧
      Modified spec calls spec.resetValue (Reg.write spec (applyAll calls')) ∧
      Reg.modify spec (fun _ => applyAll calls')
          (Reg.modify spec (fun _ => applyAll calls') bits) =
        Reg.modify spec (fun _ => applyAll calls') bits := by
  rw [applyAll_perm hseparate hperm]
  exact ⟨modified_modify spec hseparate bits, modified_modify spec hseparate spec.resetValue,
    modify_modify spec calls bits⟩

/-- The two fields of an 8-bit register with reset value 0x32, in the wrong order. -/
theorem modify_fields_tuned :
    Modified { ux := 8, resetValue := 0x32 } [.bits 2 0 3 (by decide), .bits 3 4 9 (by decide)]
      0xFF (Reg.modify { ux := 8, resetValue := 0x32 }
        (fun _ => applyAll [.bits 3 4 9 (by decide), .bits 2 0 3 (by decide)]) 0xFF) ∧
    Reg.modify { ux := 8, resetValue := 0x32 }
      (fun _ => applyAll [.bits 3 4 9 (by decide), .bits 2 0 3 (by decide)]) 0xFF = 0x9F :=
  ⟨(modify_fields { ux := 8, resetValue := 0x32 } (by decide) (.swap _ _ _) 0xFF).1, by decide⟩

end PapajBadge

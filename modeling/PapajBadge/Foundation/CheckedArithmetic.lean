import Mathlib.Algebra.Ring.Int.Defs
import Mathlib.Tactic.NormNum

/-!
# Checked and wrapping arithmetic

An operation on machine integers has an exact integer result.  When it does not fit
the machine type, it is reduced modulo the size of the type if overflow checks are
off, and the program panics, written `none`, if they are on.

Main results:

- Theorem `MachineInt.store_isSome_iff`: an operation panics exactly when the checks
  are on and its result does not fit.
- Theorem `i32_toInt_wrap`: a result that fits is stored exactly.
-/

/-- Whether overflow is checked. -/
inductive OverflowChecks where
  | on
  | off
deriving DecidableEq, Repr

/-- A machine type: the integers it holds, and the reduction of all others. -/
structure MachineInt (α : Type*) where
  Fits : ℤ → Prop
  decFits : DecidablePred Fits
  wrap : ℤ → α

namespace MachineInt

variable {α : Type*} (T : MachineInt α)

instance : DecidablePred T.Fits :=
  T.decFits

/-- Store the exact result of an operation. -/
def store (checks : OverflowChecks) (z : ℤ) : Option α :=
  if checks = .on ∧ ¬T.Fits z then none else some (T.wrap z)

variable {T}

/-- A result is stored unless it is checked and does not fit. -/
theorem store_isSome_iff {checks : OverflowChecks} {z : ℤ} :
    (T.store checks z).isSome ↔ (checks = .on → T.Fits z) := by
  unfold store
  split_ifs with hpanic
  · simp [hpanic]
  · simpa using hpanic

/-- Without checks every result is stored. -/
theorem store_off (z : ℤ) : T.store .off z = some (T.wrap z) := by
  simp [store]

/-- A result that fits is stored. -/
theorem store_of_fits (checks : OverflowChecks) {z : ℤ} (h : T.Fits z) :
    T.store checks z = some (T.wrap z) := by
  simp [store, h]

/-- What is stored is the reduced result. -/
theorem eq_wrap_of_store {checks : OverflowChecks} {z : ℤ} {a : α}
    (h : T.store checks z = some a) : a = T.wrap z := by
  unfold store at h
  split_ifs at h with hpanic
  exact (Option.some.inj h).symm

/-- An operation panics exactly when it is checked and its result does not fit. -/
theorem store_eq_none_iff {checks : OverflowChecks} {z : ℤ} :
    T.store checks z = none ↔ checks = .on ∧ ¬T.Fits z := by
  unfold store
  split_ifs with hpanic
  · simp [hpanic]
  · simpa using hpanic

end MachineInt

/-! ## The machine types -/

/-- `i32`. -/
def i32 : MachineInt Int32 where
  Fits z := -2 ^ 31 ≤ z ∧ z < 2 ^ 31
  decFits _ := inferInstanceAs (Decidable (_ ∧ _))
  wrap := Int32.ofInt

/-- `u8`. -/
def u8 : MachineInt UInt8 where
  Fits z := 0 ≤ z ∧ z < 2 ^ 8
  decFits _ := inferInstanceAs (Decidable (_ ∧ _))
  wrap := UInt8.ofInt

/-- `u32`. -/
def u32 : MachineInt UInt32 where
  Fits z := 0 ≤ z ∧ z < 2 ^ 32
  decFits _ := inferInstanceAs (Decidable (_ ∧ _))
  wrap := UInt32.ofInt

/-- A result that fits is stored exactly. -/
theorem i32_toInt_wrap {z : ℤ} (h : i32.Fits z) : (i32.wrap z).toInt = z :=
  Int32.toInt_ofInt_of_le h.1 h.2

/-- Wrapping a product is the product modulo the size of the type. -/
theorem i32_wrap_mul (a b : Int32) : i32.wrap (a.toInt * b.toInt) = a * b := by
  change Int32.ofInt (a.toInt * b.toInt) = a * b
  rw [Int32.ofInt_mul, Int32.ofInt_toInt, Int32.ofInt_toInt]

/-- Wrapping a difference is the difference modulo the size of the type. -/
theorem i32_wrap_sub (a b : Int32) : i32.wrap (a.toInt - b.toInt) = a - b := by
  change Int32.ofInt (a.toInt - b.toInt) = a - b
  rw [Int32.ofInt_sub, Int32.ofInt_toInt, Int32.ofInt_toInt]

/-- Wrapping a sum of bytes is the sum modulo the size of the type. -/
theorem u8_wrap_add (a b : UInt8) : u8.wrap (a.toNat + b.toNat) = a + b := by
  have hsum : (((a.toNat : ℤ) + b.toNat) % 2 ^ 8).toNat = (a + b).toNat := by
    rw [UInt8.toNat_add]
    omega
  change UInt8.ofNat (((a.toNat : ℤ) + b.toNat) % 2 ^ 8).toNat = a + b
  rw [hsum, UInt8.ofNat_toNat]

/-- Wrapping the successor is the successor modulo the size of the type. -/
theorem u32_wrap_succ (a : UInt32) : u32.wrap (a.toNat + 1) = a + 1 := by
  have hsucc : (((a.toNat : ℤ) + 1) % 2 ^ 32).toNat = (a + 1).toNat := by
    rw [UInt32.toNat_add]
    change _ = (a.toNat + 1) % 2 ^ 32
    omega
  change UInt32.ofNat (((a.toNat : ℤ) + 1) % 2 ^ 32).toNat = a + 1
  rw [hsucc, UInt32.ofNat_toNat]

/-- A counter can be incremented unless it is full. -/
theorem u32_fits_succ_iff (a : UInt32) : u32.Fits (a.toNat + 1) ↔ a.toNat + 1 < 2 ^ 32 := by
  change (0 ≤ (a.toNat : ℤ) + 1 ∧ (a.toNat : ℤ) + 1 < 2 ^ 32) ↔ _
  omega

/-! ## Casts and shifts -/

/-- The bits of an `i32`, read without a sign. -/
theorem i32_toNat_toUInt32 (a : Int32) : (a.toUInt32.toNat : ℤ) = a.toInt % 2 ^ 32 := by
  have hcond := BitVec.toInt_eq_toNat_cond a.toBitVec
  have hlt := a.toUInt32.toNat_lt
  change a.toInt = if 2 * a.toUInt32.toNat < 2 ^ 32 then (a.toUInt32.toNat : ℤ)
    else (a.toUInt32.toNat : ℤ) - (2 ^ 32 : ℕ) at hcond
  split_ifs at hcond <;> omega

/-- An arithmetic shift to the right rounds the quotient down. -/
theorem i32_toInt_shiftRight (a : Int32) {k : ℕ} (hk : k < 32) :
    (a >>> Int32.ofNat k).toInt = a.toInt / 2 ^ k := by
  have hamounts : ∀ k < 32, ((Int32.ofNat k).toBitVec.smod 32).toNat = k := by
    decide
  rw [← Int32.toInt_toBitVec, Int32.toBitVec_shiftRight, BitVec.sshiftRight_eq', hamounts k hk,
    BitVec.toInt_sshiftRight, Int.shiftRight_eq_div_pow, Int32.toInt_toBitVec]
  norm_num

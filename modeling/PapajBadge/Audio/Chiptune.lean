import Mathlib.Data.Int.GCD
import Mathlib.Tactic.IntervalCases
import PapajBadge.Foundation.CheckedArithmetic
import PapajBadge.Foundation.LowestSetBit

/-!
# The chiptune

The formula behind each sample and the loop that writes the samples to the timer.
The development profile checks every operation for overflow; the release profile
wraps.

Main results:

- Theorem `chiptune_release_bounded`: in the release profile every sample is made of
  its two parts, and every value written to the timer is below the cycle length.
- Theorem `chiptune_checked_iff`: in the development profile an iteration panics
  exactly when its larger product overflows, which first happens after 216006636
  iterations.
-/

namespace PapajBadge

/-! ## The formula -/

/-- The table `s`, `b"36364689"`. -/
def digitTable : List UInt8 :=
  ['3', '6', '3', '6', '4', '6', '8', '9'].map Char.toUInt8

/-- `(t >> 13 & 7) as usize`. -/
def tableIndex (t : Int32) : ℕ :=
  ((t >>> 13) &&& 7).toUInt32.toNat

/-- `(s[..] & 15) as i32`; `none` is the panic of an index out of range. -/
def digit (t : Int32) : Option Int32 :=
  digitTable[tableIndex t]?.map fun c => (c &&& 15).toUInt32.toInt32

/-- `part1`. -/
def part1 (checks : OverflowChecks) (t : Int32) : Option UInt8 := do
  let d ← digit t
  let product ← i32.store checks (t.toInt * d.toInt)
  pure ((product / 12) &&& 128).toUInt32.toUInt8

/-- `part2`. -/
def part2 (checks : OverflowChecks) (t : Int32) : Option UInt8 := do
  let below ← i32.store checks ((t >>> 12).toInt - (2 : Int32).toInt)
  let factor := ((t >>> 12) ^^^ below) % 11
  let product ← i32.store checks (factor.toInt * t.toInt)
  pure (((product / (4 : Int32)) ||| (t >>> 13)) &&& 127).toUInt32.toUInt8

/-- `get_char_for_t`. -/
def getCharForT (checks : OverflowChecks) (t : Int32) : Option UInt8 := do
  let high ← part1 checks t
  let low ← part2 checks t
  u8.store checks (high.toNat + low.toNat)

/-! ## The loop -/

/-- The cycle length written to `cnt_end`. -/
def cycleLength : UInt32 := 0x100

/-- The loop variable, and the values written to the FIFO so far. -/
structure Chiptune where
  period : UInt32
  fifo : List UInt32
deriving DecidableEq, Repr

/-- The state before the loop. -/
def Chiptune.start : Chiptune where
  period := 20
  fifo := [0x08]

/-- One iteration. -/
def Chiptune.iterate (checks : OverflowChecks) (s : Chiptune) : Option Chiptune := do
  let v ← getCharForT checks s.period.toInt32
  pure { period := s.period + 1, fifo := s.fifo ++ [v.toUInt32] }

/-- The first `n` iterations of `chiptune_loop`; `none` is a panic. -/
def chiptuneLoop (checks : OverflowChecks) : ℕ → Option Chiptune
  | 0 => some Chiptune.start
  | n + 1 => (chiptuneLoop checks n).bind (Chiptune.iterate checks)

/-- The argument of the formula in iteration `n`. -/
def timeAt (n : ℕ) : Int32 :=
  (20 + UInt32.ofNat n).toInt32

/-- Before iteration `n` the loop variable has been incremented `n` times. -/
theorem chiptuneLoop_period {checks : OverflowChecks} {n : ℕ} {s : Chiptune}
    (h : chiptuneLoop checks n = some s) : s.period = 20 + UInt32.ofNat n := by
  induction n generalizing s with
  | zero =>
      cases h
      rfl
  | succ n ih =>
      rcases Option.bind_eq_some_iff.mp h with ⟨s', hs', hiterate⟩
      rcases Option.bind_eq_some_iff.mp hiterate with ⟨v, hv, hs⟩
      cases hs
      rw [ih hs', UInt32.ofNat_add, UInt32.add_assoc]
      rfl

/-- The loop survives as long as the formula does. -/
theorem chiptuneLoop_isSome_iff (checks : OverflowChecks) (n : ℕ) :
    (chiptuneLoop checks n).isSome ↔ ∀ i < n, (getCharForT checks (timeAt i)).isSome := by
  induction n with
  | zero => simp [chiptuneLoop]
  | succ n ih =>
      rw [Nat.forall_lt_succ_right, ← ih, chiptuneLoop]
      cases hs : chiptuneLoop checks n with
      | none => simp
      | some s =>
          have htime : s.period.toInt32 = timeAt n := by
            rw [chiptuneLoop_period hs]
            rfl
          rw [Option.bind_some, Chiptune.iterate, htime]
          cases getCharForT checks (timeAt n) <;> simp

/-! ## Bytes of a sample -/

/-- The bits of a sample that is the sum of a multiple of 128 and a number below. -/
structure SampleBits (t d : Int32) (high low sample : UInt8) : Prop where
  high_eq : high = 0 ∨ high = 128
  low_le : low ≤ 127
  fits : u8.Fits (high.toNat + low.toNat)
  sum : sample = high + low
  bit7 : sample.toBitVec.getLsbD 7 = ((t * d) / 12).toBitVec.getLsbD 7
  bits : sample &&& 127 = low

/-- Masking bit 7 leaves the bit in place. -/
theorem toNat_and_128 (y : Int32) :
    (y &&& 128).toUInt32.toUInt8.toNat = (y.toBitVec.getLsbD 7).toNat * 128 := by
  have hmask : (y &&& 128).toUInt32.toNat = y.toUInt32.toNat &&& 2 ^ 7 := by
    rw [Int32.toUInt32_and, UInt32.toNat_and]
    rfl
  rw [UInt32.toNat_toUInt8, hmask, Nat.and_two_pow]
  change (y.toBitVec.getLsbD 7).toNat * 2 ^ 7 % 2 ^ 8 = (y.toBitVec.getLsbD 7).toNat * 128
  cases y.toBitVec.getLsbD 7 <;> rfl

/-- Masking the bits below 7 leaves a number below 128. -/
theorem toNat_and_127_lt (y : Int32) : (y &&& 127).toUInt32.toUInt8.toNat < 128 := by
  have hmask : (y &&& 127).toUInt32.toNat = y.toUInt32.toNat &&& 2 ^ 7 - 1 := by
    rw [Int32.toUInt32_and, UInt32.toNat_and]
    rfl
  rw [UInt32.toNat_toUInt8, hmask, Nat.and_two_pow_sub_one_eq_mod]
  omega

/-- The two parts of a sample do not overlap. -/
theorem sampleBits_of_parts (t d : Int32) (y : Int32) :
    SampleBits t d (((t * d) / 12 &&& 128).toUInt32.toUInt8) (y &&& 127).toUInt32.toUInt8
      (((t * d) / 12 &&& 128).toUInt32.toUInt8 + (y &&& 127).toUInt32.toUInt8) := by
  have hhigh := toNat_and_128 ((t * d) / 12)
  have hlow := toNat_and_127_lt y
  generalize ((t * d) / 12 &&& 128).toUInt32.toUInt8 = high at hhigh ⊢
  generalize (y &&& 127).toUInt32.toUInt8 = low at hlow ⊢
  generalize hbit : ((t * d) / 12).toBitVec.getLsbD 7 = bit at hhigh
  have hbool : bit.toNat ≤ 1 := Bool.toNat_le bit
  have hsum : (high + low).toNat = bit.toNat * 128 + low.toNat := by
    rw [UInt8.toNat_add]
    omega
  refine ⟨?_, ?_, ?_, rfl, ?_, ?_⟩
  · cases bit with
    | false => exact Or.inl (UInt8.toNat_inj.mp hhigh)
    | true => exact Or.inr (UInt8.toNat_inj.mp hhigh)
  · rw [UInt8.le_iff_toNat_le]
    exact Nat.le_of_lt_succ hlow
  · constructor
    · omega
    · rw [hhigh]
      omega
  · rw [hbit]
    change (high + low).toNat.testBit 7 = bit
    have hquotient : (bit.toNat * 128 + low.toNat) / 2 ^ 7 = bit.toNat := by omega
    rw [hsum, Nat.testBit_eq_decide_div_mod_eq, hquotient]
    cases bit <;> rfl
  · apply UInt8.toNat_inj.mp
    change (high + low).toNat &&& 2 ^ 7 - 1 = low.toNat
    rw [hsum, Nat.and_two_pow_sub_one_eq_mod]
    omega

/-! ## The digit -/

/-- The values of the digits in the table. -/
def digitValues : List ℤ :=
  [3, 6, 3, 6, 4, 6, 8, 9]

/-- The digit the formula multiplies by, by the last three bits of `t >> 13`. -/
def digitAt (v : ℤ) : ℤ :=
  digitValues.getD (v % 8).toNat 0

/-- The index is the quotient by 8192, modulo 8. -/
theorem tableIndex_eq (t : Int32) : tableIndex t = (t.toInt / 2 ^ 13 % 8).toNat := by
  have hmask : tableIndex t = (t >>> 13).toUInt32.toNat % 2 ^ 3 := by
    rw [← Nat.and_two_pow_sub_one_eq_mod, tableIndex, Int32.toUInt32_and, UInt32.toNat_and]
    rfl
  have hbits := i32_toNat_toUInt32 (t >>> 13)
  have hshift : (t >>> 13).toInt = t.toInt / 2 ^ 13 := i32_toInt_shiftRight t (by decide)
  rw [hshift] at hbits
  omega

/-- The index stays inside the table. -/
theorem tableIndex_lt (t : Int32) : tableIndex t < 8 := by
  rw [tableIndex_eq]
  omega

/-- The digit is never missing. -/
theorem digit_eq (t : Int32) : digit t = some (i32.wrap (digitAt (t.toInt / 2 ^ 13))) := by
  have htable : ∀ i < 8, (digitTable[i]?.map fun c => (c &&& 15).toUInt32.toInt32) =
      some (i32.wrap (digitValues.getD i 0)) := by
    decide
  rw [digit, htable _ (tableIndex_lt t), tableIndex_eq, digitAt]

/-- Every digit is positive and has one decimal place. -/
theorem digitAt_bounds (v : ℤ) : 3 ≤ digitAt v ∧ digitAt v ≤ 9 := by
  have htable : ∀ i < 8, 3 ≤ digitValues.getD i 0 ∧ digitValues.getD i 0 ≤ 9 := by
    decide
  exact htable _ (by omega)

/-! ## The two parts -/

/-- Subtracting two after the shift never overflows. -/
theorem shift_sub_two_fits (t : Int32) : i32.Fits ((t >>> 12).toInt - (2 : Int32).toInt) := by
  have hshift : (t >>> 12).toInt = t.toInt / 2 ^ 12 := i32_toInt_shiftRight t (by decide)
  have htwo : (2 : Int32).toInt = 2 := rfl
  have hge := t.le_toInt
  have hlt := t.toInt_lt
  rw [hshift, htwo]
  constructor
  · omega
  · omega

/-- The first part once the digit is known: one product may overflow. -/
theorem part1_eq (checks : OverflowChecks) {t d : Int32} (hd : digit t = some d) :
    part1 checks t = (i32.store checks (t.toInt * d.toInt)).map fun product =>
      (product / 12 &&& 128).toUInt32.toUInt8 := by
  rw [part1, hd, Option.map_eq_bind]
  rfl

/-- The second part: the subtraction is exact, and one product may overflow. -/
theorem part2_eq (checks : OverflowChecks) (t : Int32) :
    part2 checks t =
      (i32.store checks ((((t >>> 12) ^^^ ((t >>> 12) - 2)) % 11).toInt * t.toInt)).map
        fun product => ((product / (4 : Int32) ||| (t >>> 13)) &&& 127).toUInt32.toUInt8 := by
  rw [part2, MachineInt.store_of_fits checks (shift_sub_two_fits t), i32_wrap_sub,
    Option.map_eq_bind]
  rfl

/-- A byte is made of bit 7 of the first part and the low bits of the second, so their
sum never overflows. -/
theorem parts_fit {checks : OverflowChecks} {t : Int32} {high low : UInt8}
    (hhigh : part1 checks t = some high) (hlow : part2 checks t = some low) :
    u8.Fits (high.toNat + low.toNat) := by
  rw [part1_eq checks (digit_eq t)] at hhigh
  rw [part2_eq] at hlow
  rcases Option.map_eq_some_iff.mp hhigh with ⟨product, -, rfl⟩
  rcases Option.map_eq_some_iff.mp hlow with ⟨product', -, rfl⟩
  have hbit := toNat_and_128 (product / 12)
  have hbits := toNat_and_127_lt (product' / (4 : Int32) ||| (t >>> 13))
  have hbool := Bool.toNat_le ((product / 12).toBitVec.getLsbD 7)
  constructor
  · omega
  · omega

/-- The sample is computed once both parts are. -/
theorem getCharForT_eq {checks : OverflowChecks} {t : Int32} {high low : UInt8}
    (hhigh : part1 checks t = some high) (hlow : part2 checks t = some low) :
    getCharForT checks t = some (high + low) := by
  rw [getCharForT, hhigh, hlow, Option.bind_eq_bind, Option.bind_some, Option.bind_some,
    MachineInt.store_of_fits checks (parts_fit hhigh hlow), u8_wrap_add]

/-- A sample is computed exactly when both parts are. -/
theorem getCharForT_isSome_iff (checks : OverflowChecks) (t : Int32) :
    (getCharForT checks t).isSome ↔ (part1 checks t).isSome ∧ (part2 checks t).isSome := by
  cases hhigh : part1 checks t with
  | none => simp [getCharForT, hhigh]
  | some high =>
      cases hlow : part2 checks t with
      | none => simp [getCharForT, hhigh, hlow]
      | some low => simp [getCharForT_eq hhigh hlow]

/-! ## The release profile -/

/-- What the release profile computes for `t`: no step panics, and the sample has the
bits of its parts. -/
def ReleaseSample (t : Int32) : Prop :=
  ∃ d high low sample, digit t = some d ∧ part1 .off t = some high ∧ part2 .off t = some low ∧
    getCharForT .off t = some sample ∧ SampleBits t d high low sample

theorem releaseSample (t : Int32) : ReleaseSample t := by
  have hd := digit_eq t
  have hhigh := part1_eq .off hd
  have hlow := part2_eq .off t
  rw [MachineInt.store_off, i32_wrap_mul, Option.map_some] at hhigh
  rw [MachineInt.store_off, Option.map_some] at hlow
  exact ⟨_, _, _, _, hd, hhigh, hlow, getCharForT_eq hhigh hlow, sampleBits_of_parts t _ _⟩

/-- In the release profile the loop runs on forever. -/
theorem chiptuneLoop_off_exists (n : ℕ) : ∃ s, chiptuneLoop .off n = some s := by
  apply Option.isSome_iff_exists.mp
  rw [chiptuneLoop_isSome_iff]
  intro i hi
  rcases releaseSample (timeAt i) with ⟨d, high, low, sample, hd, hhigh, hlow, hsample, hbits⟩
  rw [hsample]
  rfl

/-- Every value in the FIFO is a byte. -/
theorem chiptuneLoop_fifo_lt {checks : OverflowChecks} {n : ℕ} {s : Chiptune}
    (h : chiptuneLoop checks n = some s) : ∀ w ∈ s.fifo, w < cycleLength := by
  induction n generalizing s with
  | zero =>
      cases h
      intro w hw
      rw [Chiptune.start, List.mem_singleton] at hw
      rw [hw]
      decide
  | succ n ih =>
      rcases Option.bind_eq_some_iff.mp h with ⟨s', hs', hiterate⟩
      rcases Option.bind_eq_some_iff.mp hiterate with ⟨v, hv, hs⟩
      cases hs
      intro w hw
      rcases List.mem_append.mp hw with hold | hnew
      · exact ih hs' w hold
      · rw [List.mem_singleton.mp hnew, UInt32.lt_iff_toNat_lt, UInt8.toNat_toUInt32]
        exact v.toNat_lt

/-- In the release profile, for every `t`: the index is in the table, the subtraction
does not overflow, and the sample is made of its two parts; and the loop runs on
forever, writing only values below the cycle length. -/
theorem chiptune_release_bounded :
    (∀ t : Int32, tableIndex t < 8 ∧ i32.Fits ((t >>> 12).toInt - (2 : Int32).toInt) ∧
      ReleaseSample t) ∧
    ∀ n, ∃ s, chiptuneLoop .off n = some s ∧ ∀ w ∈ s.fifo, w < cycleLength := by
  refine ⟨fun t => ⟨tableIndex_lt t, shift_sub_two_fits t, releaseSample t⟩, ?_⟩
  intro n
  rcases chiptuneLoop_off_exists n with ⟨s, hs⟩
  exact ⟨s, hs, chiptuneLoop_fifo_lt hs⟩

/-! ## The development profile -/

/-- The factor of the second product: the remainder modulo 11 of four times the lowest
set bit, less two. -/
def residueAt (v : ℤ) : ℤ :=
  (4 * (Int.gcd v (2 ^ 31) : ℤ) - 2) % 11

/-- The larger factor that `t` is multiplied by. -/
def overflowFactor (v : ℤ) : ℤ :=
  max (digitAt v) (residueAt v)

theorem residueAt_bounds (v : ℤ) : 0 ≤ residueAt v ∧ residueAt v ≤ 10 := by
  unfold residueAt
  omega

/-- The lowest set bit of the quotient is that of the bits above the last one. -/
theorem gcd_half_toNat (x : Int32) :
    Nat.gcd (x.toUInt32.toNat / 2) (2 ^ 31) = Int.gcd (x.toInt / 2) (2 ^ 31) := by
  have hbits := i32_toNat_toUInt32 x
  have hhalf : ((x.toUInt32.toNat / 2 : ℕ) : ℤ) = x.toInt / 2 % 2 ^ 31 := by omega
  rw [← Int.gcd_emod, ← hhalf]
  rfl

/-- The exclusive or of the formula is four times the lowest set bit, less two. -/
theorem toInt_xor_sub_two {x : Int32} (hx : x.toInt / 2 ≠ 0)
    (hge : -2 ^ 18 ≤ x.toInt / 2) (hlt : x.toInt / 2 < 2 ^ 18) :
    (x ^^^ (x - 2)).toInt = 4 * (Int.gcd (x.toInt / 2) (2 ^ 31) : ℤ) - 2 := by
  have hbits := i32_toNat_toUInt32 x
  have htwo : 2 ≤ x.toUInt32.toNat := by omega
  have hxor := LowestSetBit.xor_sub_two_eq htwo (w := 31) (by omega)
  have hsub : (x - 2).toUInt32.toNat = x.toUInt32.toNat - 2 := by
    rw [Int32.toUInt32_sub, UInt32.toNat_sub_of_le]
    · rfl
    · exact UInt32.le_iff_toNat_le.mpr htwo
  have hresult : (x ^^^ (x - 2)).toUInt32.toNat = x.toUInt32.toNat ^^^ (x.toUInt32.toNat - 2) := by
    rw [Int32.toUInt32_xor, UInt32.toNat_xor, hsub]
  have hsmall : Int.gcd (x.toInt / 2) (2 ^ 31) ≤ (x.toInt / 2).natAbs :=
    Nat.le_of_dvd (Int.natAbs_pos.mpr hx) (Nat.gcd_dvd_left _ _)
  have hpos : 0 < Int.gcd (x.toInt / 2) (2 ^ 31) := Int.gcd_pos_of_ne_zero_left _ hx
  have hresultBits := i32_toNat_toUInt32 (x ^^^ (x - 2))
  have hresultGe := (x ^^^ (x - 2)).le_toInt
  have hresultLt := (x ^^^ (x - 2)).toInt_lt
  rw [gcd_half_toNat] at hxor
  rw [hresult] at hresultBits
  omega

/-- The factor of the second product, once `t >> 13` is not zero. -/
theorem toInt_factor {t : Int32} (hv : t.toInt / 2 ^ 13 ≠ 0) :
    (((t >>> 12) ^^^ ((t >>> 12) - 2)) % 11).toInt = residueAt (t.toInt / 2 ^ 13) := by
  have hshift : (t >>> 12).toInt = t.toInt / 2 ^ 12 := i32_toInt_shiftRight t (by decide)
  have hhalf : (t >>> 12).toInt / 2 = t.toInt / 2 ^ 13 := by omega
  have hge := t.le_toInt
  have hlt := t.toInt_lt
  have hxor := toInt_xor_sub_two (x := t >>> 12) (by omega) (by omega) (by omega)
  have hpos : 0 < Int.gcd (t.toInt / 2 ^ 13) (2 ^ 31) := Int.gcd_pos_of_ne_zero_left _ hv
  rw [Int32.toInt_mod, hxor, hhalf, Int.tmod_eq_emod_of_nonneg (by omega)]
  rfl

/-- Scaling down a product that fits leaves one that fits. -/
theorem fits_mul_of_le {a b z : ℤ} (ha : 0 ≤ a) (hab : a ≤ b) (h : i32.Fits (b * z)) :
    i32.Fits (a * z) := by
  rcases Int.le_total 0 z with hz | hz
  · have hle : a * z ≤ b * z := Int.mul_le_mul_of_nonneg_right hab hz
    have hnonneg : 0 ≤ a * z := Int.mul_nonneg ha hz
    have hlt := h.2
    constructor
    · omega
    · omega
  · have hle : b * z ≤ a * z := Int.mul_le_mul_of_nonpos_right hab hz
    have hnonpos : a * z ≤ 0 := Int.mul_nonpos_of_nonneg_of_nonpos ha hz
    have hge := h.1
    constructor
    · omega
    · omega

/-- Both products fit exactly when the one with the larger factor does. -/
theorem fits_overflowFactor_iff (v z : ℤ) :
    i32.Fits (overflowFactor v * z) ↔ i32.Fits (digitAt v * z) ∧ i32.Fits (residueAt v * z) := by
  have hdigit := digitAt_bounds v
  have hresidue := residueAt_bounds v
  constructor
  · intro h
    exact ⟨fits_mul_of_le (by omega) (le_max_left _ _) h,
      fits_mul_of_le hresidue.1 (le_max_right _ _) h⟩
  · rintro ⟨hfitsDigit, hfitsResidue⟩
    rcases max_choice (digitAt v) (residueAt v) with hmax | hmax
    · rw [overflowFactor, hmax]
      exact hfitsDigit
    · rw [overflowFactor, hmax]
      exact hfitsResidue

/-- The first part panics when its product overflows. -/
theorem part1_on_isSome_iff (t : Int32) :
    (part1 .on t).isSome ↔ i32.Fits (digitAt (t.toInt / 2 ^ 13) * t.toInt) := by
  have hbounds := digitAt_bounds (t.toInt / 2 ^ 13)
  have hd : (i32.wrap (digitAt (t.toInt / 2 ^ 13))).toInt = digitAt (t.toInt / 2 ^ 13) := by
    apply i32_toInt_wrap
    constructor
    · omega
    · omega
  rw [part1_eq .on (digit_eq t), Option.isSome_map, MachineInt.store_isSome_iff, hd, Int.mul_comm]
  simp

/-- The second part panics when its product overflows. -/
theorem part2_on_isSome_iff (t : Int32) :
    (part2 .on t).isSome ↔
      i32.Fits ((((t >>> 12) ^^^ ((t >>> 12) - 2)) % 11).toInt * t.toInt) := by
  rw [part2_eq, Option.isSome_map, MachineInt.store_isSome_iff]
  simp

/-- The factor of the second product while `t >> 13` is zero. -/
theorem toInt_factor_zero {t : Int32} (hv : t.toInt / 2 ^ 13 = 0) :
    (((t >>> 12) ^^^ ((t >>> 12) - 2)) % 11).toInt = -2 := by
  have hshift : (t >>> 12).toInt = t.toInt / 2 ^ 12 := i32_toInt_shiftRight t (by decide)
  have hbit : (t >>> 12).toInt = 0 ∨ (t >>> 12).toInt = 1 := by omega
  rcases hbit with hzero | hone
  · have heq : t >>> 12 = 0 := Int32.toInt_inj.mp hzero
    rw [heq]
    decide
  · have heq : t >>> 12 = 1 := Int32.toInt_inj.mp hone
    rw [heq]
    decide

/-- No product overflows while `t >> 13` is zero. -/
theorem fits_of_shift_zero {t : Int32} (hv : t.toInt / 2 ^ 13 = 0) {a : ℤ} (hge : -2 ≤ a)
    (hle : a ≤ 10) : i32.Fits (a * t.toInt) := by
  have hnonneg : 0 ≤ t.toInt := by omega
  have hlt : t.toInt < 2 ^ 13 := by omega
  have hupper : a * t.toInt ≤ 10 * t.toInt := Int.mul_le_mul_of_nonneg_right hle hnonneg
  have hlower : -2 * t.toInt ≤ a * t.toInt := Int.mul_le_mul_of_nonneg_right hge hnonneg
  constructor
  · omega
  · omega

/-- In the development profile the formula survives exactly when the product with the
larger factor fits. -/
theorem getCharForT_on_isSome_iff (t : Int32) :
    (getCharForT .on t).isSome ↔
      i32.Fits (overflowFactor (t.toInt / 2 ^ 13) * t.toInt) := by
  rw [getCharForT_isSome_iff, part1_on_isSome_iff, part2_on_isSome_iff, fits_overflowFactor_iff]
  by_cases hv : t.toInt / 2 ^ 13 = 0
  · have hresidue := residueAt_bounds (t.toInt / 2 ^ 13)
    rw [toInt_factor_zero hv]
    exact and_congr_right fun _ => iff_of_true (fits_of_shift_zero hv (by omega) (by omega))
      (fits_of_shift_zero hv (by omega) (by omega))
  · rw [toInt_factor hv]

/-! ## The first overflow -/

/-- The number of iterations before the first overflow. -/
def firstOverflow : ℕ := 216006636

/-- Up to the first overflow, the argument counts up from 20. -/
theorem toInt_timeAt {n : ℕ} (hn : n ≤ firstOverflow) : (timeAt n).toInt = 20 + n := by
  have hn' : n ≤ 216006636 := hn
  have hbits := i32_toNat_toUInt32 (timeAt n)
  have hnat : (timeAt n).toUInt32.toNat = 20 + n := by
    change (20 + UInt32.ofNat n).toNat = 20 + n
    rw [UInt32.toNat_add, UInt32.toNat_ofNat']
    change (20 + n % 2 ^ 32) % 2 ^ 32 = 20 + n
    omega
  have hge := (timeAt n).le_toInt
  have hlt := (timeAt n).toInt_lt
  rw [hnat] at hbits
  omega

/-- The formula panics at the first overflow. -/
theorem getCharForT_on_firstOverflow : getCharForT .on (timeAt firstOverflow) = none := by
  decide

/-- The factor ten needs a multiple of 256. -/
theorem residueAt_le_nine {v : ℤ} (hv : ¬(256 : ℤ) ∣ v) : residueAt v ≤ 9 := by
  have hdvd : Int.gcd v (2 ^ 31) ∣ 2 ^ 31 := Nat.gcd_dvd_right _ _
  rcases (Nat.dvd_prime_pow Nat.prime_two).mp hdvd with ⟨k, -, hk⟩
  have hk8 : k < 8 := by
    by_contra hge
    have h256 : 2 ^ 8 ∣ Int.gcd v (2 ^ 31) := by
      rw [hk]
      exact pow_dvd_pow 2 (by omega)
    exact hv ((Int.natCast_dvd_natCast.mpr h256).trans (Int.gcd_dvd_left _ _))
  rw [residueAt, hk]
  interval_cases k <;> decide

/-- Between a tenth of the range and the first overflow the factor is at most nine. -/
theorem overflowFactor_le_nine {v : ℤ} (hge : 26214 ≤ v) (hlt : v < 26368) :
    overflowFactor v ≤ 9 := by
  have hdigit := digitAt_bounds v
  have hresidue : residueAt v ≤ 9 := by
    apply residueAt_le_nine
    omega
  exact max_le hdigit.2 hresidue

/-- Before the first overflow the larger product fits. -/
theorem getCharForT_on_before {n : ℕ} (hn : n < firstOverflow) :
    (getCharForT .on (timeAt n)).isSome := by
  rw [getCharForT_on_isSome_iff, toInt_timeAt (Nat.le_of_lt hn)]
  have hn' : n < 216006636 := hn
  have hdigit := digitAt_bounds ((20 + n) / 2 ^ 13)
  have hresidue := residueAt_bounds ((20 + n) / 2 ^ 13)
  have hpos : 0 ≤ overflowFactor ((20 + n) / 2 ^ 13) := le_max_of_le_right hresidue.1
  have hten : overflowFactor ((20 + n) / 2 ^ 13) ≤ 10 := max_le (by omega) hresidue.2
  by_cases hsmall : n ≤ 214748344
  · apply fits_mul_of_le hpos hten
    constructor
    · omega
    · omega
  · have hnine := overflowFactor_le_nine (v := (20 + n) / 2 ^ 13) (by omega) (by omega)
    apply fits_mul_of_le hpos hnine
    constructor
    · omega
    · omega

/-- In the development profile the loop survives exactly the iterations before the
first overflow. -/
theorem chiptuneLoop_on_isSome_iff (n : ℕ) :
    (chiptuneLoop .on n).isSome ↔ n ≤ firstOverflow := by
  rw [chiptuneLoop_isSome_iff]
  constructor
  · intro h
    by_contra hlate
    have hsome := h firstOverflow (by omega)
    rw [getCharForT_on_firstOverflow] at hsome
    cases hsome
  · intro hn i hi
    exact getCharForT_on_before (Nat.lt_of_lt_of_le hi hn)

/-- In the development profile, iteration `n` does not panic exactly when its larger
product fits, and the loop survives its first `n` iterations exactly when `n` is at
most 216006636. -/
theorem chiptune_checked_iff (n : ℕ) :
    ((getCharForT .on (timeAt n)).isSome ↔
      i32.Fits (overflowFactor ((timeAt n).toInt / 2 ^ 13) * (timeAt n).toInt)) ∧
    ((chiptuneLoop .on n).isSome ↔ n ≤ firstOverflow) := by
  constructor
  · exact getCharForT_on_isSome_iff (timeAt n)
  · exact chiptuneLoop_on_isSome_iff n

/-- The iteration with `t = 216006656` panics, and the loop with it. -/
theorem chiptune_overflows :
    timeAt 216006636 = 216006656 ∧ getCharForT .on (timeAt 216006636) = none ∧
      (chiptuneLoop .on 216006637).isSome = false := by
  refine ⟨by decide, getCharForT_on_firstOverflow, ?_⟩
  rw [← Bool.not_eq_true, chiptuneLoop_on_isSome_iff]
  decide

end PapajBadge

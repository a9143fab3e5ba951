import Mathlib.Data.Nat.Bitwise
import Mathlib.Data.Nat.Prime.Basic

/-!
# The lowest set bit

The lowest set bit of a number below a power of two is its greatest common divisor
with that power.  Taking one away flips this bit and all bits below it, so the
exclusive or of a number and its predecessor is one less than twice the bit.

Main results:

- Theorem `xor_pred_eq`: the exclusive or of a number and its predecessor.
- Theorem `xor_sub_two_eq`: the exclusive or of a number and the number two below
  it, which does not depend on the last bit.
-/

namespace LowestSetBit

/-! ## Exclusive or, bit by bit -/

/-- The exclusive or of the numbers that end in the given bits. -/
theorem xor_two_mul_add (a b : ℕ) {c d : ℕ} (hc : c < 2) (hd : d < 2) :
    (2 * a + c) ^^^ (2 * b + d) = 2 * (a ^^^ b) + (c + d) % 2 := by
  have hdiv : ((2 * a + c) ^^^ (2 * b + d)) / 2 = a ^^^ b := by
    rw [Nat.xor_div_two]
    congr 1
    · omega
    · omega
  have hmod : ((2 * a + c) ^^^ (2 * b + d)) % 2 = (c + d) % 2 := by
    rw [Nat.xor_mod_two_eq]
    omega
  omega

/-- Twice a number has twice the lowest set bit. -/
theorem gcd_two_mul_two_pow (m w : ℕ) :
    Nat.gcd (2 * m) (2 ^ (w + 1)) = 2 * Nat.gcd m (2 ^ w) := by
  rw [Nat.pow_succ, Nat.mul_comm (2 ^ w) 2, Nat.gcd_mul_left]

/-- The lowest set bit of an odd number is one. -/
theorem gcd_odd_two_pow (m w : ℕ) : Nat.gcd (2 * m + 1) (2 ^ w) = 1 := by
  apply Nat.Coprime.pow_right
  rw [Nat.coprime_two_right]
  exact ⟨m, rfl⟩

/-! ## Numbers and their predecessors -/

/-- A positive number and its predecessor differ in the lowest set bit and all bits
below. -/
theorem xor_pred_eq {w m : ℕ} (hpos : 0 < m) (hlt : m < 2 ^ w) :
    (m ^^^ (m - 1)) + 1 = 2 * Nat.gcd m (2 ^ w) := by
  induction w generalizing m with
  | zero =>
      rw [Nat.pow_zero] at hlt
      omega
  | succ w ih =>
      rcases Nat.even_or_odd' m with ⟨n, rfl | rfl⟩
      · have hn : 0 < n := by omega
        have hnlt : n < 2 ^ w := by
          rw [Nat.pow_succ] at hlt
          omega
        have hpred : 2 * n - 1 = 2 * (n - 1) + 1 := by omega
        have hxor := xor_two_mul_add n (n - 1) (c := 0) (d := 1) (by omega) (by omega)
        simp only [Nat.add_zero] at hxor
        have hrest := ih hn hnlt
        rw [gcd_two_mul_two_pow, hpred, ← hrest]
        omega
      · have hxor := xor_two_mul_add n n (c := 1) (d := 0) (by omega) (by omega)
        simp only [Nat.add_zero, Nat.xor_self] at hxor
        rw [gcd_odd_two_pow, Nat.add_sub_cancel]
        omega

/-- A number and the number two below it differ from the second bit on as their
halves do. -/
theorem xor_sub_two_eq {w n : ℕ} (htwo : 2 ≤ n) (hlt : n / 2 < 2 ^ w) :
    (n ^^^ (n - 2)) + 2 = 4 * Nat.gcd (n / 2) (2 ^ w) := by
  have hhalf : 0 < n / 2 := by omega
  have hbit : n % 2 < 2 := by omega
  have hn : 2 * (n / 2) + n % 2 = n := by omega
  have hbelow : 2 * (n / 2 - 1) + n % 2 = n - 2 := by omega
  have hxor := xor_two_mul_add (n / 2) (n / 2 - 1) hbit hbit
  rw [hn, hbelow] at hxor
  have hpred := xor_pred_eq hhalf hlt
  omega

end LowestSetBit

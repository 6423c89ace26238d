import Mathlib.Data.Int.Bitwise
import Mathlib.Tactic.Linarith
import Mathlib.Tactic.Ring

/-! Integers split into a high part and a low part of `n` bits, by the bitwise operations of
two's complement.
-/

namespace AcbuBackend.Runtime

theorem two_mul_add_bodd (b : ℤ) : 2 * Int.div2 b + cond b.bodd 1 0 = b := by
  rw [add_comm]
  exact Int.bodd_add_div2 b

theorem bodd_range (b : ℤ) : (0 : ℤ) ≤ cond b.bodd 1 0 ∧ cond b.bodd (1 : ℤ) 0 < 2 := by
  cases b.bodd <;> decide

/-- The low `n` bits are the remainder, by induction on `n` over the lowest bit. -/
theorem land_two_pow_sub_one (b : ℤ) (n : ℕ) : Int.land b (2 ^ n - 1) = b % 2 ^ n := by
  induction n generalizing b with
  | zero =>
      rw [pow_zero, sub_self, Int.emod_one]
      cases b with
      | ofNat m => exact congrArg Int.ofNat (Nat.and_zero m)
      | negSucc m => exact congrArg Int.ofNat (Nat.bitwise_zero_left m)
  | succ n ih =>
      have mask : (2 ^ (n + 1) - 1 : ℤ) = Int.bit true (2 ^ n - 1) := by
        rw [Int.bit_val, cond_true]
        ring
      have positive : (0 : ℤ) < 2 ^ n := by positivity
      obtain ⟨low, low'⟩ := bodd_range b
      have rest := Int.emod_nonneg (Int.div2 b) positive.ne'
      have rest' := Int.emod_lt_of_pos (Int.div2 b) positive
      have split : b = 2 * (Int.div2 b % 2 ^ n) + cond b.bodd 1 0
          + 2 ^ (n + 1) * (Int.div2 b / 2 ^ n) := by
        have whole := two_mul_add_bodd b
        have parts := Int.emod_add_mul_ediv (Int.div2 b) (2 ^ n)
        rw [pow_succ]
        linarith
      have remainder : b % 2 ^ (n + 1) = 2 * (Int.div2 b % 2 ^ n) + cond b.bodd 1 0 := by
        conv_lhs => rw [split]
        rw [Int.add_mul_emod_self_left, Int.emod_eq_of_lt (by linarith)]
        rw [pow_succ]
        linarith
      rw [mask, remainder]
      conv_lhs => rw [← Int.bit_decomp b]
      rw [Int.land_bit, ih, Bool.and_true, Int.bit_val]

/-- A multiple of `2 ^ n` joined with `n` low bits is their sum, by induction on `n`. -/
theorem lor_shiftLeft (high low : ℤ) (n : ℕ) (nonneg : 0 ≤ low) (fits : low < 2 ^ n)
    : Int.lor (high <<< n) low = high * 2 ^ n + low := by
  induction n generalizing low with
  | zero =>
      obtain rfl : low = 0 := by
        rw [pow_zero] at fits
        linarith
      rw [Int.shiftLeft_zero, pow_zero, mul_one, add_zero]
      cases high with
      | ofNat m => exact congrArg Int.ofNat (Nat.or_zero m)
      | negSucc m => exact congrArg Int.negSucc (Nat.bitwise_zero_right m)
  | succ n ih =>
      have whole := two_mul_add_bodd low
      obtain ⟨bit, bit'⟩ := bodd_range low
      rw [pow_succ] at fits
      have doubled : high <<< (n + 1) = Int.bit false (high <<< n) := by
        rw [Int.shiftLeft_succ, Int.bit_val, cond_false]
        ring
      rw [doubled]
      conv_lhs => rw [← Int.bit_decomp low]
      rw [Int.lor_bit, ih _ (by linarith) (by linarith), Bool.false_or, Int.bit_val, pow_succ]
      linarith

theorem lor_shiftRight_land (b : ℤ) (n : ℕ)
    : Int.lor ((b >>> n) <<< n) (Int.land b (2 ^ n - 1)) = b := by
  have positive : (0 : ℤ) < 2 ^ n := by positivity
  rw [land_two_pow_sub_one, lor_shiftLeft _ _ _ (Int.emod_nonneg b positive.ne')
    (Int.emod_lt_of_pos b positive), Int.shiftRight_eq_div_pow]
  push_cast
  exact Int.ediv_mul_add_emod b (2 ^ n)

theorem shiftRight_range (b : ℤ) (n m : ℕ)
    : (-2 ^ m ≤ b >>> n ∧ b >>> n < 2 ^ m) ↔ -2 ^ (m + n) ≤ b ∧ b < 2 ^ (m + n) := by
  have positive : (0 : ℤ) < 2 ^ n := by positivity
  rw [Int.shiftRight_eq_div_pow]
  push_cast
  rw [Int.le_ediv_iff_mul_le positive, Int.ediv_lt_iff_lt_mul positive, neg_mul, pow_add]

end AcbuBackend.Runtime

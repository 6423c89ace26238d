import Mathlib.Data.Int.Log
import Mathlib.Data.Rat.Floor
import Mathlib.Tactic.FieldSimp
import Mathlib.Tactic.Linarith
import Mathlib.Tactic.Positivity

/-! Decimal numbers of so many significant digits.
A number is rounded to the nearest of them, a half away from zero.
-/

namespace AcbuBackend.Numeric

/-- The nearest integer, a half away from zero. -/
def roundHalfUp (x : ℚ) : ℤ :=
  if 0 ≤ x then ⌊x + 1 / 2⌋ else ⌈x - 1 / 2⌉

/-- What the last of `p` significant digits of a number is worth. -/
def lastPlace (p : Nat) (x : ℚ) : ℚ :=
  10 ^ (Int.log 10 |x| + 1 - p)

/-- A number rounded to `p` significant digits. -/
def roundToDigits (p : Nat) (x : ℚ) : ℚ :=
  roundHalfUp (x / lastPlace p x) * lastPlace p x

/-- The first `p` digits hold the whole part, and what follows them does not carry into it. -/
def KeepsWholePart (p : Nat) (x : ℚ) : Prop :=
  if lastPlace p x ≤ 1 then x < ⌊x⌋ + 1 - lastPlace p x / 2 else ∃ n : ℤ, ⌊x⌋ = n * lastPlace p x

section

variable {p : Nat} {x : ℚ}

theorem roundHalfUp_of_nonneg (nonneg : 0 ≤ x) : roundHalfUp x = ⌊x + 1 / 2⌋ :=
  if_pos nonneg

theorem lastPlace_pos : 0 < lastPlace p x :=
  zpow_pos (by norm_num) _

theorem roundToDigits_nonneg (nonneg : 0 ≤ x) : 0 ≤ roundToDigits p x := by
  have quotient : 0 ≤ x / lastPlace p x := div_nonneg nonneg lastPlace_pos.le
  rw [roundToDigits, roundHalfUp_of_nonneg quotient]
  have : (0 : ℤ) ≤ ⌊x / lastPlace p x + 1 / 2⌋ := Int.floor_nonneg.mpr (by linarith)
  exact mul_nonneg (by exact_mod_cast this) lastPlace_pos.le

theorem lastPlace_cases
    : (∃ k : Nat, lastPlace p x = (10 ^ k : ℚ)⁻¹) ∨ ∃ k : Nat, lastPlace p x = 10 ^ (k + 1) := by
  rcases le_or_gt (Int.log 10 |x| + 1 - p) 0 with small | large
  · obtain ⟨k, exponent⟩ := Int.eq_ofNat_of_zero_le (neg_nonneg.mpr small)
    refine .inl ⟨k, ?_⟩
    rw [lastPlace, ← neg_neg (Int.log 10 |x| + 1 - p), exponent, zpow_neg]
    rfl
  · obtain ⟨k, exponent⟩ := Int.eq_ofNat_of_zero_le (Int.le_sub_one_of_lt large)
    refine .inr ⟨k, ?_⟩
    have exponent : Int.log 10 |x| + 1 - p = ((k + 1 : Nat) : ℤ) := by
      push_cast
      exact sub_eq_iff_eq_add.mp exponent
    rw [lastPlace, exponent, zpow_natCast]

/-- Rounding takes no number below one that was not. -/
theorem one_le_roundToDigits (digits : 1 ≤ p) (one : 1 ≤ x) : 1 ≤ roundToDigits p x := by
  have positive : 0 < x := by linarith
  have leading : lastPlace p x ≤ x := by
    rw [lastPlace, abs_of_pos positive]
    refine le_trans (zpow_le_zpow_right₀ (by norm_num) ?_)
      (by exact_mod_cast Int.zpow_log_le_self (b := 10) (by norm_num) positive)
    omega
  have place := @lastPlace_pos p x
  rw [roundToDigits, roundHalfUp_of_nonneg (div_nonneg positive.le place.le)]
  rcases @lastPlace_cases p x with ⟨k, same⟩ | ⟨k, same⟩
  · have enough : (10 ^ k : ℤ) ≤ ⌊x * 10 ^ k + 1 / 2⌋ := by
      rw [Int.le_floor]
      push_cast
      have : (1 : ℚ) * 10 ^ k ≤ x * 10 ^ k := by gcongr
      linarith
    have enough : (10 ^ k : ℚ) ≤ (⌊x * 10 ^ k + 1 / 2⌋ : ℤ) := by exact_mod_cast enough
    rw [same, div_inv_eq_mul, ← div_eq_mul_inv, le_div_iff₀ (by positivity), one_mul]
    exact enough
  · have enough : 1 ≤ ⌊x / lastPlace p x + 1 / 2⌋ := by
      rw [Int.le_floor]
      have : 1 ≤ x / lastPlace p x := (one_le_div place).mpr leading
      push_cast
      linarith
    have enough : (1 : ℚ) ≤ (⌊x / lastPlace p x + 1 / 2⌋ : ℤ) := by exact_mod_cast enough
    have large : 1 ≤ lastPlace p x := by
      rw [same]
      exact one_le_pow₀ (by norm_num)
    nlinarith

theorem floor_roundToDigits_eq_iff (nonneg : 0 ≤ x)
    : ⌊roundToDigits p x⌋ = ⌊x⌋ ↔ KeepsWholePart p x := by
  have positive := @lastPlace_pos p x
  rw [roundToDigits, roundHalfUp_of_nonneg (div_nonneg nonneg positive.le)]
  rcases @lastPlace_cases p x with ⟨k, place⟩ | ⟨k, place⟩
  · have one : lastPlace p x ≤ 1 := by
      rw [place]
      exact inv_le_one_of_one_le₀ (one_le_pow₀ (by norm_num))
    rw [KeepsWholePart, if_pos one, place, div_inv_eq_mul, ← div_eq_mul_inv, Int.floor_eq_iff,
      le_div_iff₀ (by positivity), div_lt_iff₀ (by positivity)]
    -- both ends are multiples of the last place
    have below : (⌊x⌋ : ℚ) * 10 ^ k ≤ (⌊x * 10 ^ k + 1 / 2⌋ : ℤ) := by
      have whole : ⌊x⌋ * 10 ^ k ≤ ⌊x * 10 ^ k + 1 / 2⌋ := by
        rw [Int.le_floor]
        push_cast
        have : (⌊x⌋ : ℚ) * 10 ^ k ≤ x * 10 ^ k := by
          gcongr
          exact Int.floor_le x
        linarith
      exact_mod_cast whole
    have above : ((⌊x * 10 ^ k + 1 / 2⌋ : ℤ) : ℚ) < (⌊x⌋ + 1) * 10 ^ k
        ↔ x * 10 ^ k + 1 / 2 < (⌊x⌋ + 1) * 10 ^ k := by
      have cast : ((⌊x⌋ : ℚ) + 1) * 10 ^ k = (((⌊x⌋ + 1) * 10 ^ k : ℤ) : ℚ) := by push_cast; rfl
      rw [cast, Int.cast_lt, Int.floor_lt]
    rw [above, and_iff_right below]
    have power : (0 : ℚ) < 10 ^ k := by positivity
    rw [lt_sub_iff_add_lt, ← mul_lt_mul_iff_left₀ power]
    field_simp
  · have power : (1 : ℚ) ≤ 10 ^ k := one_le_pow₀ (by norm_num)
    have large : ¬ lastPlace p x ≤ 1 := by
      rw [place, pow_succ]
      linarith
    rw [KeepsWholePart, if_neg large, place]
    have whole : ∀ n : ℤ, ⌊(n : ℚ) * 10 ^ (k + 1)⌋ = n * 10 ^ (k + 1) := by
      intro n
      exact_mod_cast Int.floor_intCast (R := ℚ) (n * 10 ^ (k + 1))
    rw [whole]
    constructor
    · intro same
      exact ⟨_, by rw [← same]; push_cast; rfl⟩
    · rintro ⟨n, multiple⟩
      have multiple : ⌊x⌋ = n * 10 ^ (k + 1) := by exact_mod_cast multiple
      have nearest : ⌊x / 10 ^ (k + 1) + 1 / 2⌋ = n := by
        have low := Int.floor_le x
        have high := Int.lt_floor_add_one x
        rw [multiple] at low high
        push_cast at low high
        have scale : (0 : ℚ) < 10 ^ (k + 1) := by positivity
        rw [Int.floor_eq_iff, ← sub_le_iff_le_add, ← lt_sub_iff_add_lt, le_div_iff₀ scale,
          div_lt_iff₀ scale]
        rw [pow_succ] at *
        constructor <;> nlinarith
      rw [nearest, multiple]

end

-- Cutting off

/-- A number cut off after `p` significant digits. -/
def truncToDigits (p : Nat) (x : ℚ) : ℚ :=
  (if 0 ≤ x then ⌊x / lastPlace p x⌋ else ⌈x / lastPlace p x⌉) * lastPlace p x

section

variable {p : Nat} {x : ℚ}

theorem truncToDigits_of_nonneg (nonneg : 0 ≤ x)
    : truncToDigits p x = ⌊x / lastPlace p x⌋ * lastPlace p x := by
  rw [truncToDigits, if_pos nonneg]

theorem truncToDigits_le (nonneg : 0 ≤ x) : truncToDigits p x ≤ x := by
  rw [truncToDigits_of_nonneg nonneg, ← le_div_iff₀ lastPlace_pos]
  exact Int.floor_le _

theorem truncToDigits_nonneg (nonneg : 0 ≤ x) : 0 ≤ truncToDigits p x := by
  rw [truncToDigits_of_nonneg nonneg]
  have quotient : 0 ≤ ⌊x / lastPlace p x⌋ :=
    Int.floor_nonneg.mpr (div_nonneg nonneg lastPlace_pos.le)
  exact mul_nonneg (by exact_mod_cast quotient) lastPlace_pos.le

theorem abs_truncToDigits_sub_le : |truncToDigits p x - x| ≤ |x| * 10 / 10 ^ p := by
  rcases eq_or_ne x 0 with rfl | other
  · simp [truncToDigits]
  have place := @lastPlace_pos p x
  have first : lastPlace p x ≤ |x| * 10 / 10 ^ p := by
    have power : (10 : ℚ) ^ Int.log 10 |x| ≤ |x| := by
      exact_mod_cast Int.zpow_log_le_self (b := 10) (by norm_num) (abs_pos.mpr other)
    rw [lastPlace, zpow_sub₀ (by norm_num), zpow_add_one₀ (by norm_num), zpow_natCast]
    gcongr
  have scaled : truncToDigits p x - x
      = ((if 0 ≤ x then ⌊x / lastPlace p x⌋ else ⌈x / lastPlace p x⌉ : ℤ) - x / lastPlace p x)
        * lastPlace p x := by
    rw [truncToDigits, sub_mul, div_mul_cancel₀ _ place.ne']
  have near : |((if 0 ≤ x then ⌊x / lastPlace p x⌋ else ⌈x / lastPlace p x⌉ : ℤ) : ℚ)
      - x / lastPlace p x| ≤ 1 := by
    rw [abs_le]
    split
    · have := Int.floor_le (x / lastPlace p x)
      have := Int.lt_floor_add_one (x / lastPlace p x)
      constructor <;> linarith
    · have := Int.le_ceil (x / lastPlace p x)
      have := Int.ceil_lt_add_one (x / lastPlace p x)
      constructor <;> linarith
  rw [scaled, abs_mul, abs_of_pos place]
  exact (mul_le_of_le_one_left place.le near).trans first

theorem truncToDigits_of_multiple {n : ℤ} (nonneg : 0 ≤ x) (multiple : x = n * lastPlace p x)
    : truncToDigits p x = x := by
  have quotient : x / lastPlace p x = n := (div_eq_iff lastPlace_pos.ne').mpr multiple
  rw [truncToDigits_of_nonneg nonneg, quotient, Int.floor_intCast, ← multiple]

theorem lastPlace_of_lt {k : Nat} (one : k < p) (nonneg : 0 ≤ x) (small : x < 10 ^ (p - k))
    : ∃ j, lastPlace p x = (10 ^ (k + j) : ℚ)⁻¹ := by
  have log : Int.log 10 |x| < (p - k : ℕ) := by
    rw [abs_of_nonneg nonneg]
    rcases nonneg.eq_or_lt with zero | positive
    · rw [← zero, Int.log_zero_right]
      omega
    · rw [← Int.lt_zpow_iff_log_lt (by norm_num) positive, zpow_natCast]
      exact_mod_cast small
  obtain ⟨j, places⟩ : ∃ j : ℕ, Int.log 10 |x| + 1 - p = -((k + j : ℕ) : ℤ) :=
    ⟨(p - k - 1 - Int.log 10 |x|).toNat, by omega⟩
  refine ⟨j, ?_⟩
  rw [lastPlace, places, zpow_neg, zpow_natCast]

/-- Cutting off the digits behind the first `p` keeps a whole part that they hold. -/
theorem floor_truncToDigits (some_ : 0 < p) (nonneg : 0 ≤ x) (small : x < 10 ^ p)
    : ⌊truncToDigits p x⌋ = ⌊x⌋ := by
  refine le_antisymm (Int.floor_mono (truncToDigits_le nonneg)) ?_
  obtain ⟨j, place⟩ := lastPlace_of_lt (k := 0) some_ nonneg small
  rw [Int.le_floor, truncToDigits_of_nonneg nonneg, place, div_inv_eq_mul, ← div_eq_mul_inv,
    le_div_iff₀ (by positivity)]
  have whole : ⌊x⌋ * 10 ^ (0 + j) ≤ ⌊x * 10 ^ (0 + j)⌋ := by
    rw [Int.le_floor]
    push_cast
    have := Int.floor_le x
    gcongr
  exact_mod_cast whole

end

example : roundToDigits 3 (99949 / 100) = 999 ∧ roundToDigits 3 (9995 / 10) = 1000 := by
  decide +kernel

end AcbuBackend.Numeric

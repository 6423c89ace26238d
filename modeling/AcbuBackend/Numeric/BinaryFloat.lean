import Mathlib.Data.Int.Log
import Mathlib.Data.Rat.Floor
import Mathlib.Tactic.FieldSimp
import Mathlib.Tactic.Linarith
import Mathlib.Tactic.Positivity
import Mathlib.Tactic.Ring

/-! Binary floating-point numbers of one precision, without an upper bound.
A number is rounded to the nearest of them, a half to the even one. Rounding keeps the order and
what is such a number already, and moves a number by half of its last place at most. The errors of
a sum add up.
-/

namespace AcbuBackend.Numeric

-- Integers

/-- The nearest integer, a half to the even one. -/
def roundHalfEven (x : ℚ) : ℤ :=
  if Int.fract x < 1 / 2 then ⌊x⌋
  else if 1 / 2 < Int.fract x then ⌊x⌋ + 1
  else if ⌊x⌋ % 2 = 0 then ⌊x⌋
  else ⌊x⌋ + 1

section

variable {x y : ℚ} {n : ℤ}

theorem roundHalfEven_cases
    : roundHalfEven x = ⌊x⌋ ∧ Int.fract x ≤ 1 / 2
      ∨ roundHalfEven x = ⌊x⌋ + 1 ∧ 1 / 2 ≤ Int.fract x := by
  unfold roundHalfEven
  split
  · exact .inl ⟨rfl, by linarith⟩
  split
  · exact .inr ⟨rfl, by linarith⟩
  split
  · exact .inl ⟨rfl, by linarith⟩
  · exact .inr ⟨rfl, by linarith⟩

@[simp] theorem roundHalfEven_intCast : roundHalfEven n = n := by
  simp [roundHalfEven]

theorem floor_le_roundHalfEven : ⌊x⌋ ≤ roundHalfEven x := by
  rcases @roundHalfEven_cases x with ⟨same, -⟩ | ⟨same, -⟩ <;> omega

theorem roundHalfEven_le_floor_add_one : roundHalfEven x ≤ ⌊x⌋ + 1 := by
  rcases @roundHalfEven_cases x with ⟨same, -⟩ | ⟨same, -⟩ <;> omega

theorem abs_roundHalfEven_sub_le : |roundHalfEven x - x| ≤ 1 / 2 := by
  have whole := Int.floor_add_fract x
  have below := Int.fract_nonneg x
  have above := Int.fract_lt_one x
  rw [abs_le]
  rcases @roundHalfEven_cases x with ⟨same, near⟩ | ⟨same, near⟩
  all_goals
    rw [same]
    push_cast
    constructor <;> linarith

/-- Rounding keeps the order. -/
theorem roundHalfEven_mono (le : x ≤ y) : roundHalfEven x ≤ roundHalfEven y := by
  rcases (Int.floor_mono le).lt_or_eq with apart | same
  · calc roundHalfEven x ≤ ⌊x⌋ + 1 := roundHalfEven_le_floor_add_one
      _ ≤ ⌊y⌋ := apart
      _ ≤ roundHalfEven y := floor_le_roundHalfEven
  · -- of one whole part, so the fractions are ordered alike
    have fract : Int.fract x ≤ Int.fract y := by
      have wholeX := Int.floor_add_fract x
      have wholeY := Int.floor_add_fract y
      rw [same] at wholeX
      linarith
    unfold roundHalfEven
    rw [same]
    split_ifs <;> first | omega | linarith

theorem le_roundHalfEven (le : n ≤ x) : n ≤ roundHalfEven x :=
  (Int.le_floor.mpr le).trans floor_le_roundHalfEven

theorem roundHalfEven_le (le : x ≤ n) : roundHalfEven x ≤ n := by
  have kept := roundHalfEven_mono le
  rwa [roundHalfEven_intCast] at kept

end

-- Formats

/-- The numbers `n * 2 ^ e` of `precision` bits, the exponent from `minExponent` on. -/
structure BinaryFormat where
  precision : Nat
  minExponent : ℤ
  positive : 1 ≤ precision

namespace BinaryFormat

variable (F : BinaryFormat)

/-- The exponent of the last place of a number. -/
def exponent (x : ℚ) : ℤ :=
  max (Int.log 2 |x| + 1 - F.precision) F.minExponent

/-- What the last place of a number is worth. -/
def ulp (x : ℚ) : ℚ :=
  2 ^ F.exponent x

/-- The nearest number of the format. -/
def round (x : ℚ) : ℚ :=
  roundHalfEven (x / F.ulp x) * F.ulp x

section

variable {F} {x y : ℚ}

theorem ulp_pos : 0 < F.ulp x :=
  zpow_pos two_pos _

@[simp] theorem round_zero : F.round 0 = 0 := by
  have none : roundHalfEven 0 = 0 := by
    exact_mod_cast @roundHalfEven_intCast 0
  rw [round, zero_div, none, Int.cast_zero, zero_mul]

theorem abs_round_sub_le : |F.round x - x| ≤ F.ulp x / 2 := by
  have place := @ulp_pos F x
  have scaled : F.round x - x = (roundHalfEven (x / F.ulp x) - x / F.ulp x) * F.ulp x := by
    rw [round, sub_mul, div_mul_cancel₀ _ place.ne']
  rw [scaled, abs_mul, abs_of_pos place]
  have near := @abs_roundHalfEven_sub_le (x / F.ulp x)
  calc _ ≤ 1 / 2 * F.ulp x := by gcongr
    _ = F.ulp x / 2 := by ring

theorem round_le_of_multiple {n : ℤ} (le : x ≤ n * F.ulp x) : F.round x ≤ n * F.ulp x := by
  have place := @ulp_pos F x
  have bound : roundHalfEven (x / F.ulp x) ≤ n :=
    roundHalfEven_le ((div_le_iff₀ place).mpr le)
  unfold round
  gcongr

theorem le_round_of_multiple {n : ℤ} (le : n * F.ulp x ≤ x) : n * F.ulp x ≤ F.round x := by
  have place := @ulp_pos F x
  have bound : n ≤ roundHalfEven (x / F.ulp x) :=
    le_roundHalfEven ((le_div_iff₀ place).mpr le)
  unfold round
  gcongr

/-- A higher power of two is a multiple of the last place. -/
theorem zpow_eq_multiple {e : ℤ} (le : F.exponent x ≤ e) : ∃ n : ℤ, (2 : ℚ) ^ e = n * F.ulp x := by
  obtain ⟨k, more⟩ := Int.eq_ofNat_of_zero_le (sub_nonneg.mpr le)
  refine ⟨2 ^ k, ?_⟩
  have split : e = k + F.exponent x := by omega
  rw [ulp, split, zpow_add₀ two_ne_zero, zpow_natCast]
  push_cast
  rfl

theorem round_of_exponent_le {n e : ℤ} (le : F.exponent (n * 2 ^ e) ≤ e)
    : F.round (n * 2 ^ e) = n * 2 ^ e := by
  obtain ⟨k, power⟩ := zpow_eq_multiple le
  have multiple : (n : ℚ) * 2 ^ e = (n * k : ℤ) * F.ulp (n * 2 ^ e) := by
    push_cast
    rw [mul_assoc, ← power]
  exact le_antisymm ((round_le_of_multiple multiple.le).trans_eq multiple.symm)
    (multiple.le.trans (le_round_of_multiple multiple.ge))

theorem exponent_mono (positive : 0 < x) (le : x ≤ y) : F.exponent x ≤ F.exponent y := by
  have log : Int.log 2 |x| ≤ Int.log 2 |y| := by
    rw [abs_of_pos positive, abs_of_pos (positive.trans_le le)]
    exact Int.log_mono_right positive le
  unfold exponent
  omega

/-- Rounding keeps the order. Where the last places differ, a power of two lies between. -/
theorem round_mono (positive : 0 < x) (le : x ≤ y) : F.round x ≤ F.round y := by
  rcases (exponent_mono (F := F) positive le).eq_or_lt with same | apart
  · have place : F.ulp x = F.ulp y := by rw [ulp, ulp, same]
    have scale := @ulp_pos F y
    have kept : roundHalfEven (x / F.ulp y) ≤ roundHalfEven (y / F.ulp y) := by
      apply roundHalfEven_mono
      gcongr
    unfold round
    rw [place]
    gcongr
  · have positiveY := positive.trans_le le
    have precise := F.positive
    unfold exponent at apart
    rw [abs_of_pos positive, abs_of_pos positiveY] at apart
    -- the power of two that `y` starts with
    have power : (2 : ℚ) ^ Int.log 2 y ≤ y := by
      exact_mod_cast Int.zpow_log_le_self (b := 2) (by norm_num) positiveY
    have below : x ≤ (2 : ℚ) ^ Int.log 2 y := by
      have next : x < (2 : ℚ) ^ (Int.log 2 x + 1) := by
        exact_mod_cast Int.lt_zpow_succ_log_self (b := 2) (by norm_num) x
      refine next.le.trans (zpow_le_zpow_right₀ (by norm_num) ?_)
      omega
    obtain ⟨n, first⟩ := @zpow_eq_multiple F x (Int.log 2 y) (by
      unfold exponent
      rw [abs_of_pos positive]
      omega)
    obtain ⟨m, second⟩ := @zpow_eq_multiple F y (Int.log 2 y) (by
      unfold exponent
      rw [abs_of_pos positiveY]
      omega)
    calc F.round x ≤ 2 ^ Int.log 2 y := first ▸ round_le_of_multiple (first ▸ below)
      _ ≤ F.round y := second ▸ le_round_of_multiple (second ▸ power)

theorem round_nonneg (nonneg : 0 ≤ x) : 0 ≤ F.round x := by
  have kept := @le_round_of_multiple F x 0 (by simpa using nonneg)
  simpa using kept

/-- What has been rounded is a number of the format. -/
theorem round_round (nonneg : 0 ≤ x) : F.round (F.round x) = F.round x := by
  rcases (round_nonneg (F := F) nonneg).eq_or_lt with none | rounded
  · rw [← none, round_zero]
  have positive : 0 < x := by
    refine nonneg.lt_of_ne fun zero => ?_
    rw [← zero, round_zero] at rounded
    exact rounded.false
  have shape : F.round x = (roundHalfEven (x / F.ulp x) : ℤ) * 2 ^ F.exponent x := rfl
  rcases le_or_gt (F.exponent (F.round x)) (F.exponent x) with kept | grown
  · rw [shape] at kept ⊢
    exact round_of_exponent_le kept
  · -- it has been rounded up to the next power of two
    have precise := F.positive
    have next : x ≤ (2 : ℚ) ^ max (Int.log 2 x + 1) (F.exponent x) := by
      have above : x < (2 : ℚ) ^ (Int.log 2 x + 1) := by
        exact_mod_cast Int.lt_zpow_succ_log_self (b := 2) (by norm_num) x
      exact above.le.trans (zpow_le_zpow_right₀ (by norm_num) (le_max_left _ _))
    obtain ⟨n, multiple⟩ := @zpow_eq_multiple F x _ (le_max_right (Int.log 2 x + 1) (F.exponent x))
    have bounded : F.round x ≤ (2 : ℚ) ^ max (Int.log 2 x + 1) (F.exponent x) :=
      multiple ▸ round_le_of_multiple (multiple ▸ next)
    have log : Int.log 2 (F.round x) ≤ max (Int.log 2 x + 1) (F.exponent x) := by
      have mono := Int.log_mono_right (b := 2) rounded bounded
      have power := Int.log_zpow (R := ℚ) (b := 2) (by norm_num)
        (max (Int.log 2 x + 1) (F.exponent x))
      rw [Nat.cast_ofNat] at power
      rwa [power] at mono
    have least : (2 : ℚ) ^ Int.log 2 (F.round x) ≤ F.round x := by
      exact_mod_cast Int.zpow_log_le_self (b := 2) (by norm_num) rounded
    unfold exponent at grown log bounded
    rw [abs_of_pos positive] at grown log bounded
    rw [abs_of_pos rounded] at grown
    have exact_ : F.round x = ((1 : ℤ) : ℚ) * 2 ^ (Int.log 2 x + 1) := by
      have top : max (Int.log 2 x + 1) (max (Int.log 2 x + 1 - F.precision) F.minExponent)
          = Int.log 2 x + 1 := by
        omega
      have same : Int.log 2 (F.round x) = Int.log 2 x + 1 := by omega
      rw [top] at bounded
      rw [same] at least
      rw [Int.cast_one, one_mul]
      exact le_antisymm bounded least
    rw [exact_]
    refine round_of_exponent_le ?_
    have same : Int.log 2 (F.round x) = Int.log 2 x + 1 := by omega
    unfold exponent
    rw [← exact_, abs_of_pos rounded]
    omega

/-- A number that is not too small moves by one part in `2 ^ precision` at most. -/
theorem abs_round_sub_le_of_normal (some_ : x ≠ 0)
    (normal : F.minExponent + F.precision ≤ Int.log 2 |x| + 1)
    : |F.round x - x| ≤ |x| / 2 ^ F.precision := by
  have power : (2 : ℚ) ^ Int.log 2 |x| ≤ |x| := by
    exact_mod_cast Int.zpow_log_le_self (b := 2) (by norm_num) (abs_pos.mpr some_)
  have place : F.ulp x = 2 * 2 ^ Int.log 2 |x| / 2 ^ F.precision := by
    have exponent_eq : F.exponent x = Int.log 2 |x| + 1 - F.precision := by
      unfold exponent
      omega
    rw [ulp, exponent_eq, zpow_sub₀ two_ne_zero, zpow_add_one₀ two_ne_zero, zpow_natCast, mul_comm]
  calc |F.round x - x| ≤ F.ulp x / 2 := abs_round_sub_le
    _ = 2 ^ Int.log 2 |x| / 2 ^ F.precision := by rw [place]; ring
    _ ≤ |x| / 2 ^ F.precision := by gcongr

end

section

variable {F : BinaryFormat} {x B : ℚ} {k : ℤ}

/-- Below a power of two, a number moves by half of the last place there at most. -/
theorem abs_round_sub_le_of_lt (below : |x| < 2 ^ k) (normal : F.minExponent ≤ k - F.precision)
    : |F.round x - x| ≤ 2 ^ (k - F.precision) / 2 := by
  rcases (abs_nonneg x).eq_or_lt with zero | positive
  · rw [abs_eq_zero.mp zero.symm, round_zero, sub_zero, abs_zero]
    exact (half_pos (zpow_pos two_pos _)).le
  · have log : Int.log 2 |x| < k := by
      rw [← Int.lt_zpow_iff_log_lt (by norm_num) positive]
      exact_mod_cast below
    have place : F.ulp x ≤ 2 ^ (k - F.precision) :=
      zpow_le_zpow_right₀ one_le_two (max_le (by omega) normal)
    exact abs_round_sub_le.trans (by linarith)

-- Sums

/-- A step of a sum, for a number that is rounded itself. -/
def addRounded (F : BinaryFormat) (sum x : ℚ) : ℚ :=
  F.round (sum + F.round x)

theorem abs_foldl_addRounded_sub_le (normal : F.minExponent ≤ k - F.precision)
    (whole : k ≤ F.precision) (nonneg : 0 ≤ B) {xs : List ℚ} (bounded : ∀ x ∈ xs, |x| ≤ B)
    {sum exact : ℚ} {i : Nat} (near : |sum - exact| ≤ i * 2 ^ (k - F.precision))
    (size : |exact| ≤ i * B) (room : (i + xs.length : ℕ) * (B + 1) < 2 ^ k)
    : |xs.foldl F.addRounded sum - (exact + xs.sum)|
      ≤ (i + xs.length : ℕ) * 2 ^ (k - F.precision) := by
  induction xs generalizing sum exact i with
  | nil => simpa using near
  | cons x xs ih =>
      have length : i + (x :: xs).length = i + 1 + xs.length := by
        rw [List.length_cons]
        omega
      rw [length] at room ⊢
      have place : (2 : ℚ) ^ (k - F.precision) ≤ 1 :=
        zpow_le_one_of_nonpos₀ one_le_two (by omega)
      have positive : (0 : ℚ) < 2 ^ (k - F.precision) := zpow_pos two_pos _
      have none : (0 : ℚ) ≤ i := i.cast_nonneg
      have inside : (i + 1 : ℚ) * (B + 1) < 2 ^ k := by
        refine lt_of_le_of_lt (mul_le_mul_of_nonneg_right ?_ (by linarith)) room
        exact_mod_cast Nat.le_add_right _ _
      have own : |x| ≤ B := bounded x List.mem_cons_self
      have term : |F.round x - x| ≤ 2 ^ (k - F.precision) / 2 := by
        refine abs_round_sub_le_of_lt (own.trans_lt (lt_of_le_of_lt ?_ inside)) normal
        nlinarith
      have added : |sum + F.round x| < 2 ^ k := by
        have := mul_le_mul_of_nonneg_left place none
        rw [abs_le] at near size term own
        rw [abs_lt]
        constructor <;> nlinarith
      have step := abs_round_sub_le_of_lt added normal
      have near' : |F.addRounded sum x - (exact + x)| ≤ (i + 1 : ℕ) * 2 ^ (k - F.precision) := by
        rw [addRounded]
        push_cast
        rw [abs_le] at near term step ⊢
        constructor <;> linarith
      have size' : |exact + x| ≤ (i + 1 : ℕ) * B := by
        push_cast
        rw [abs_le] at size own ⊢
        constructor <;> linarith
      have rest := ih (fun y member => bounded y (List.mem_cons_of_mem x member)) near' size' room
      rwa [List.foldl_cons, List.sum_cons, ← add_assoc]

end

end BinaryFormat

end AcbuBackend.Numeric

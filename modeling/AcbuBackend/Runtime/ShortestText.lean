import AcbuBackend.Runtime.NumberText
import Mathlib.Data.Nat.Factorization.Basic

/-! The decimal that a double is written as.
The search goes through the powers of ten downwards. It ends at the first that has a multiple which
is read as the double, with the nearest of these.
-/

namespace AcbuBackend.Runtime

open Numeric

section

variable {x : ℚ} {e : ℤ} {d : DecimalDigits} {m : Nat}

theorem isNearer_cases {below above : DecimalDigits}
    : isNearer x below above = true
        ∧ (x - below.value < above.value - x
          ∨ x - below.value = above.value - x ∧ below.digits % 2 = 0)
      ∨ isNearer x below above = false
        ∧ (above.value - x < x - below.value
          ∨ x - below.value = above.value - x ∧ below.digits % 2 = 1) := by
  unfold isNearer
  rcases lt_trichotomy (x - below.value) (above.value - x) with nearer | same | further
  · exact .inl ⟨if_pos nearer, .inl nearer⟩
  · rw [if_neg same.not_lt, if_neg same.not_gt]
    rcases Nat.mod_two_eq_zero_or_one below.digits with even | odd
    · exact .inl ⟨decide_eq_true even, .inr ⟨same, even⟩⟩
    · exact .inr ⟨decide_eq_false (by omega), .inr ⟨same, odd⟩⟩
  · rw [if_neg further.not_gt]
    exact .inr ⟨if_pos further, .inl further⟩

theorem candidate?_cases (found : candidate? x e = some d)
    : d = ⟨⌊x / 10 ^ e⌋.toNat, e⟩
        ∧ (isNearer x ⟨⌊x / 10 ^ e⌋.toNat, e⟩ ⟨⌊x / 10 ^ e⌋.toNat + 1, e⟩ = true
          ∨ ¬ (DecimalDigits.mk (⌊x / 10 ^ e⌋.toNat + 1) e).reads x = true)
      ∨ d = ⟨⌊x / 10 ^ e⌋.toNat + 1, e⟩
        ∧ (isNearer x ⟨⌊x / 10 ^ e⌋.toNat, e⟩ ⟨⌊x / 10 ^ e⌋.toNat + 1, e⟩ = false
          ∨ ¬ (DecimalDigits.mk ⌊x / 10 ^ e⌋.toNat e).reads x = true) := by
  unfold candidate? at found
  dsimp only at found
  split at found
  · rename_i below
    exact .inl ⟨(Option.some.inj found).symm, below.2⟩
  · rename_i notBelow
    split at found
    · refine .inr ⟨(Option.some.inj found).symm, ?_⟩
      by_contra neither
      rw [not_or, not_not, Bool.not_eq_false] at neither
      exact notBelow ⟨neither.2, .inl neither.1⟩
    · cases found

/-- Of the multiples of its power that are read as a double, the candidate is the nearest, and the
even one of two that are as near.
-/
theorem candidate?_nearest (positive : 0 < x) (small : |x| < 2 ^ 1024)
    (fixed : double.round x = x) (found : candidate? x e = some d)
    (reads : (DecimalDigits.mk m e).reads x = true) (other : m ≠ d.digits)
    : |d.value - x| < |m * 10 ^ e - x|
      ∨ |d.value - x| = |m * 10 ^ e - x| ∧ d.digits % 2 = 0 ∧ m % 2 = 1 := by
  have scale : (0 : ℚ) < 10 ^ e := zpow_pos (by norm_num) e
  have low := (le_floor_toNat_iff (e := e) positive.le).mp le_rfl
  have high : x < ((⌊x / 10 ^ e⌋.toNat + 1 : ℕ) : ℚ) * 10 ^ e := by
    rw [← not_le, ← le_floor_toNat_iff positive.le]
    exact Nat.not_succ_le_self _
  have below := fun le => reads_below positive small fixed reads le
  have above := fun lt => reads_above positive small fixed reads lt
  have cases_ := candidate?_cases found
  generalize ⌊x / 10 ^ e⌋.toNat = f at low high below above cases_
  have order : ∀ {a b : Nat}, a < b → (a : ℚ) * 10 ^ e < b * 10 ^ e := by
    intro a b lt
    have : (a : ℚ) < b := by exact_mod_cast lt
    gcongr
  rcases cases_ with ⟨rfl, nearer⟩ | ⟨rfl, nearer⟩
  all_goals
    dsimp only [DecimalDigits.value] at other nearer ⊢
    have sides := @isNearer_cases x ⟨f, e⟩ ⟨f + 1, e⟩
    dsimp only [DecimalDigits.value] at sides
  · rw [abs_of_nonpos (sub_nonpos.mpr low)]
    rcases Nat.lt_or_gt_of_ne other with less | more
    · have further := order less
      rw [abs_of_nonpos (by linarith)]
      exact .inl (by linarith)
    · have near := nearer.resolve_right fun none => none (above more)
      have distance : ((f + 1 : ℕ) : ℚ) * 10 ^ e ≤ m * 10 ^ e := by
        rcases (Nat.succ_le_of_lt more).eq_or_lt with same | further
        · rw [← same]
        · exact (order further).le
      rw [abs_of_nonneg (by linarith)]
      rcases sides with ⟨-, strict | ⟨equal, even⟩⟩ | ⟨notNear, -⟩
      · exact .inl (by linarith)
      · rcases (Nat.succ_le_of_lt more).eq_or_lt with same | further
        · rw [← same]
          exact .inr ⟨by linarith, even, by omega⟩
        · have further := order further
          exact .inl (by linarith)
      · rw [near] at notNear
        cases notNear
  · rw [abs_of_nonneg (sub_nonneg.mpr high.le)]
    rcases Nat.lt_or_gt_of_ne other with less | more
    · have near := nearer.resolve_right fun none => none (below (Nat.le_of_lt_succ less))
      have distance : (m : ℚ) * 10 ^ e ≤ f * 10 ^ e := by
        rcases (Nat.le_of_lt_succ less).eq_or_lt with same | further
        · rw [← same]
        · exact (order further).le
      rw [abs_of_nonpos (by linarith)]
      rcases sides with ⟨isNear, -⟩ | ⟨-, strict | ⟨equal, odd⟩⟩
      · rw [near] at isNear
        cases isNear
      · exact .inl (by linarith)
      · rcases (Nat.le_of_lt_succ less).eq_or_lt with same | further
        · rw [same]
          exact .inr ⟨by linarith, by omega, odd⟩
        · have further := order further
          exact .inl (by linarith)
    · have further := order more
      rw [abs_of_nonneg (by linarith)]
      exact .inl (by linarith)

theorem shortest?_eq_some {places : Nat} (found : shortest? x places e = some d)
    : d.exponent ≤ e ∧ candidate? x d.exponent = some d
      ∧ ∀ j, d.exponent < j → j ≤ e → candidate? x j = none := by
  induction places generalizing e with
  | zero => cases found
  | succ places ih =>
      rw [shortest?] at found
      rcases Option.eq_none_or_eq_some (candidate? x e) with none_ | ⟨first, candidate⟩
      · rw [none_, Option.none_or] at found
        obtain ⟨le, candidate, passed⟩ := ih found
        refine ⟨by omega, candidate, fun j above within => ?_⟩
        rcases eq_or_ne j e with rfl | other
        · exact none_
        · exact passed j above (by omega)
      · rw [candidate, Option.some_or] at found
        obtain rfl := Option.some.inj found
        obtain ⟨same, -⟩ := candidate?_eq_some candidate
        exact ⟨same.le, same ▸ candidate, fun j above within => by omega⟩

end

-- Integers

/-- Of the integers that are read as one double this one has the most zeros at its end, and it is
the nearest of those to the double, the even one of two.
-/
def IsShortest (n : Nat) : Prop :=
  ∃ zeros, 10 ^ zeros ∣ n
    ∧ (∀ m : Nat, 0 < m → 10 ^ (zeros + 1) ∣ m → double.round m ≠ double.round n)
    ∧ ∀ m : Nat, m ≠ n → 10 ^ zeros ∣ m → double.round m = double.round n →
      |(n : ℚ) - double.round n| < |m - double.round n|
      ∨ |(n : ℚ) - double.round n| = |m - double.round n| ∧ n / 10 ^ zeros % 2 = 0

section

variable {n m : Nat}

theorem abs_double_sub_le {x : ℚ} (low : 1 / 10 ^ 7 ≤ |x|)
    : |double.round x - x| ≤ |x| / 2 ^ 53 := by
  have positive : 0 < |x| := lt_of_lt_of_le (by norm_num) low
  refine BinaryFormat.abs_round_sub_le_of_normal (abs_pos.mp positive) ?_
  have log : -24 ≤ Int.log 2 |x| := by
    rw [← Int.zpow_le_iff_le_log (by norm_num) positive]
    refine le_trans ?_ low
    norm_num
  change (-1074 : ℤ) + (53 : ℕ) ≤ _
  omega

theorem abs_double_sub_le_of_pos {x : ℚ} (low : 1 / 10 ^ 7 ≤ x)
    : |double.round x - x| ≤ x / 2 ^ 53 := by
  have positive : 0 < x := lt_of_lt_of_le (by norm_num) low
  have near := @abs_double_sub_le x
  rw [abs_of_pos positive] at near
  exact near low

theorem close_of_same_double (some_ : 0 < n) (other : 0 < m)
    (same : double.round m = double.round n)
    : (m : ℚ) < 21 / 20 * n := by
  have one : (1 : ℚ) ≤ n := by exact_mod_cast some_
  have one' : (1 : ℚ) ≤ m := by exact_mod_cast other
  have near := (abs_le.mp (abs_double_sub_le_of_pos (x := n) (by linarith))).2
  have near' := (abs_le.mp (abs_double_sub_le_of_pos (x := m) (by linarith))).1
  rw [same] at near'
  have tiny : (m : ℚ) / 2 ^ 53 ≤ m / 100 := by
    gcongr
    norm_num
  have tiny' : (n : ℚ) / 2 ^ 53 ≤ n / 100 := by
    gcongr
    norm_num
  linarith

theorem exponents
    : double.exponent ((1 : ℤ) * 2 ^ (0 : ℤ)) ≤ 0
      ∧ double.exponent ((476837158203125 : ℤ) * 2 ^ (21 : ℤ)) ≤ 21
      ∧ double.exponent ((1 : ℤ) * 2 ^ (53 : ℤ)) ≤ 53 := by
  decide +kernel

theorem round_bounds (some_ : 0 < n) (bound : n ≤ 10 ^ 21)
    : 1 ≤ double.round n ∧ double.round n ≤ 10 ^ 21 := by
  have one : double.round 1 = 1 := by
    have fixed := @BinaryFormat.round_of_exponent_le double 1 0 exponents.1
    norm_num at fixed
    exact fixed
  have top : double.round (10 ^ 21) = 10 ^ 21 := by
    have fixed := @BinaryFormat.round_of_exponent_le double 476837158203125 21 exponents.2.1
    norm_num at fixed ⊢
    exact fixed
  have low : (1 : ℚ) ≤ n := by exact_mod_cast some_
  have high : (n : ℚ) ≤ 10 ^ 21 := by exact_mod_cast bound
  constructor
  · exact one.symm.trans_le (BinaryFormat.round_mono one_pos low)
  · exact (BinaryFormat.round_mono (one_pos.trans_le low) high).trans_eq top

/-- The decimal of a double that an integer is read as: multiples of higher powers of ten are not,
and nor is any that is nearer.
-/
theorem shortest?_of_integer (some_ : 0 < n) (bound : n ≤ 10 ^ 21)
    : ∃ a k : Nat,
        shortest? (double.round n) DECIMAL_PLACES (Int.log 10 (double.round n)) = some ⟨a, k⟩
        ∧ 0 < a ∧ double.round (a * 10 ^ k : ℕ) = double.round n
        ∧ (k : ℤ) ≤ Int.log 10 (double.round n)
        ∧ (∀ j b : Nat, k < j → (j : ℤ) ≤ Int.log 10 (double.round n) →
          double.round (b * 10 ^ j : ℕ) ≠ double.round n)
        ∧ ∀ b : Nat, b ≠ a → double.round (b * 10 ^ k : ℕ) = double.round n →
          |((a * 10 ^ k : ℕ) : ℚ) - double.round n| < |((b * 10 ^ k : ℕ) : ℚ) - double.round n|
          ∨ |((a * 10 ^ k : ℕ) : ℚ) - double.round n| = |((b * 10 ^ k : ℕ) : ℚ) - double.round n|
            ∧ a % 2 = 0 ∧ b % 2 = 1 := by
  obtain ⟨low, high⟩ := round_bounds some_ bound
  have positive : 0 < double.round (n : ℚ) := by linarith
  have small : |double.round (n : ℚ)| < 2 ^ 1024 := by
    rw [abs_of_pos positive]
    calc double.round (n : ℚ) ≤ 10 ^ 21 := high
      _ < 2 ^ 70 := by norm_num
      _ ≤ 2 ^ 1024 := pow_le_pow_right₀ (by norm_num) (by norm_num)
  have fixed : double.round (double.round (n : ℚ)) = double.round n :=
    BinaryFormat.round_round (Nat.cast_nonneg n)
  have first : 0 ≤ Int.log 10 (double.round (n : ℚ)) := by
    rw [← Int.zpow_le_iff_le_log (by norm_num) positive]
    simpa using low
  have near : Int.log 10 (double.round (n : ℚ)) < 0 + DECIMAL_PLACES := by
    rw [← Int.lt_zpow_iff_log_lt (by norm_num) positive]
    refine high.trans_lt ?_
    norm_num [DECIMAL_PLACES]
  obtain ⟨⟨a, e⟩, found, read, exponent⟩ := shortest?_of_rounded (b := n) (m := 0)
    (v := (n : ℚ)) (x := double.round n) (by exact_mod_cast some_) (by simp) rfl small positive
    first near
  obtain ⟨k, rfl⟩ := Int.eq_ofNat_of_zero_le exponent
  obtain ⟨le, candidate, passed⟩ := shortest?_eq_some found
  have value : ∀ b j : Nat, (DecimalDigits.mk b j).value = ((b * 10 ^ j : ℕ) : ℚ) := by
    intro b j
    rw [DecimalDigits.value, zpow_natCast]
    push_cast
    rfl
  have reads : ∀ b j : Nat, (DecimalDigits.mk b j).reads (double.round n) = true
      ↔ double.round (b * 10 ^ j : ℕ) = double.round n := by
    intro b j
    rw [reads_iff small, value]
  have own := (reads a k).mpr (by rw [← value]; exact read)
  refine ⟨a, k, found, DecimalDigits.pos_of_reads positive small own, (reads a k).mp own, le,
    fun j b above within same => ?_, fun b other same => ?_⟩
  · have isSome := candidate?_isSome_of_reads positive small fixed ((reads b j).mpr same)
    have above : (k : ℤ) < j := by exact_mod_cast above
    rw [passed j above within] at isSome
    cases isSome
  · have nearest := candidate?_nearest positive small fixed candidate ((reads b k).mpr same) other
    rw [value] at nearest
    have cast : (b : ℚ) * 10 ^ (k : ℤ) = ((b * 10 ^ k : ℕ) : ℚ) := value b k
    rwa [cast] at nearest

theorem pos_of_same_double (some_ : 0 < n) (bound : n ≤ 10 ^ 21)
    (same : double.round m = double.round n)
    : 0 < m := by
  rw [Nat.pos_iff_ne_zero]
  rintro rfl
  have low := (round_bounds some_ bound).1
  rw [← same, Nat.cast_zero, BinaryFormat.round_zero] at low
  linarith

theorem shortest?_eq_integer_iff (some_ : 0 < n) (bound : n ≤ 10 ^ 21)
    : (∃ a k : Nat,
        shortest? (double.round n) DECIMAL_PLACES (Int.log 10 (double.round n)) = some ⟨a, k⟩
        ∧ a * 10 ^ k = n)
      ↔ IsShortest n := by
  obtain ⟨a, k, found, own, same, le, passed, nearest⟩ := shortest?_of_integer some_ bound
  obtain ⟨low, -⟩ := round_bounds some_ bound
  have positive : 0 < double.round (n : ℚ) := by linarith
  obtain ⟨l, log⟩ := Int.eq_ofNat_of_zero_le ((Nat.cast_nonneg k).trans le)
  have below : 10 ^ l ≤ double.round (n : ℚ) := by
    have power := Int.zpow_log_le_self (b := 10) (by norm_num) positive
    rw [log] at power
    exact_mod_cast power
  have above : double.round (n : ℚ) < 10 ^ (l + 1) := by
    have power := Int.lt_zpow_succ_log_self (b := 10) (by norm_num) (double.round (n : ℚ))
    rw [log] at power
    exact_mod_cast power
  rw [log] at le passed found ⊢
  have le : k ≤ l := by exact_mod_cast le
  have one : (1 : ℚ) ≤ n := by exact_mod_cast some_
  have near := abs_le.mp (abs_double_sub_le_of_pos (x := n) (by linarith))
  have tiny : (n : ℚ) / 2 ^ 53 ≤ n / 100 := by
    gcongr
    norm_num
  have first : 99 * n < 100 * 10 ^ (l + 1) := by
    have : (99 : ℚ) * n < 100 * 10 ^ (l + 1) := by linarith
    exact_mod_cast this
  constructor
  · rintro ⟨a', k', found', value⟩
    rw [found] at found'
    obtain ⟨rfl, exponent⟩ := DecimalDigits.mk.inj (Option.some.inj found')
    obtain rfl : k = k' := by exact_mod_cast exponent
    -- the last power tried leaves one digit, or a power of ten above the double
    have digit : k = l → a ≤ 10 := by
      rintro rfl
      rw [← value, pow_succ] at first
      have scale : 0 < 10 ^ k := Nat.pow_pos (by decide)
      by_contra many
      have : 11 * 10 ^ k ≤ a * 10 ^ k := Nat.mul_le_mul_right _ (by omega)
      omega
    by_cases ten : 10 ∣ a
    · obtain ⟨b, rfl⟩ := ten
      have shifted : b * 10 ^ (k + 1) = n := by
        rw [← value, pow_succ]
        ring
      have last : k = l := by
        by_contra other
        exact passed (k + 1) b (Nat.lt_succ_self k) (by omega) (by rw [shifted])
      have one : b = 1 := by
        have := digit last
        omega
      rw [one, one_mul] at shifted
      refine ⟨k + 1, shifted ▸ dvd_rfl, fun m some' multiple equal => ?_,
        fun m other multiple equal => ?_⟩
      · have close := close_of_same_double some_ some' equal
        have large := Nat.le_of_dvd some' multiple
        rw [pow_succ, shifted] at large
        have : ((n * 10 : ℕ) : ℚ) ≤ m := by exact_mod_cast large
        push_cast at this
        have : (0 : ℚ) < n := by exact_mod_cast some_
        linarith
      · have some' := pos_of_same_double some_ bound equal
        have close := close_of_same_double some_ some' equal
        rw [shifted] at multiple
        obtain ⟨c, rfl⟩ := multiple
        have twice : 2 ≤ c := by
          rcases c with _ | _ | c
          · rw [Nat.mul_zero] at some'
            exact absurd some' (Nat.lt_irrefl 0)
          · exact absurd (Nat.mul_one n) other
          · omega
        have : ((n * 2 : ℕ) : ℚ) ≤ (n * c : ℕ) := by exact_mod_cast Nat.mul_le_mul_left n twice
        push_cast at this close
        have : (0 : ℚ) < n := by exact_mod_cast some_
        linarith
    · refine ⟨k, value ▸ Nat.dvd_mul_left _ _, fun m some' multiple equal => ?_,
        fun m other multiple equal => ?_⟩
      · obtain ⟨b, rfl⟩ := multiple
        rw [Nat.mul_comm] at equal some'
        rcases Nat.lt_or_ge k l with more | last
        · exact passed (k + 1) b (Nat.lt_succ_self k) (by exact_mod_cast more) equal
        · have close := close_of_same_double some_ some' equal
          have few : a ≤ 9 := by
            have := digit (le.antisymm last)
            omega
          have large : 10 * n ≤ 9 * (b * 10 ^ (k + 1)) := by
            have one : 1 ≤ b := Nat.pos_of_mul_pos_right some'
            calc 10 * n = a * 10 ^ (k + 1) := by rw [← value, pow_succ]; ring
              _ ≤ 9 * b * 10 ^ (k + 1) := Nat.mul_le_mul_right _ (by omega)
              _ = 9 * (b * 10 ^ (k + 1)) := Nat.mul_assoc ..
          have : (10 : ℚ) * n ≤ 9 * (b * 10 ^ (k + 1) : ℕ) := by exact_mod_cast large
          have : (0 : ℚ) < n := by exact_mod_cast some_
          linarith
      · obtain ⟨b, rfl⟩ := multiple
        rw [Nat.mul_comm] at equal other ⊢
        have different : b ≠ a := by
          rintro rfl
          exact other value
        have quotient : n / 10 ^ k = a := by
          rw [← value, Nat.mul_div_cancel _ (Nat.pow_pos (by decide))]
        rw [quotient]
        rw [value] at nearest
        exact (nearest b different equal).imp_right fun tie => ⟨tie.1, tie.2.1⟩
  · rintro ⟨zeros, ⟨b, shape⟩, none_, best⟩
    refine ⟨a, k, found, ?_⟩
    have shape : b * 10 ^ zeros = n := by rw [shape, Nat.mul_comm]
    have valued : 0 < a * 10 ^ k := Nat.mul_pos own (Nat.pow_pos (by decide))
    have high : k ≤ zeros := by
      by_contra more
      have multiple : 10 ^ (zeros + 1) ∣ a * 10 ^ k :=
        (Nat.pow_dvd_pow 10 (by omega)).mul_left a
      exact none_ _ valued multiple same
    rcases Nat.lt_or_ge l zeros with beyond | within
    · -- the double is below a power of ten, which is the integer
      have fixed : double.round (double.round (n : ℚ)) = double.round n :=
        BinaryFormat.round_round (Nat.cast_nonneg n)
      have one : 1 ≤ b := Nat.pos_of_mul_pos_right (shape ▸ some_)
      have top : double.round (n : ℚ) < (10 ^ zeros : ℕ) := by
        have raised : 10 ^ (l + 1) ≤ 10 ^ zeros := Nat.pow_le_pow_right (by decide) beyond
        have : ((10 ^ (l + 1) : ℕ) : ℚ) ≤ (10 ^ zeros : ℕ) := by exact_mod_cast raised
        push_cast at this ⊢
        exact above.trans_le this
      have least : ((10 ^ zeros : ℕ) : ℚ) ≤ n := by
        have : 10 ^ zeros ≤ n := shape ▸ Nat.le_mul_of_pos_left _ one
        exact_mod_cast this
      have power : double.round (10 ^ zeros : ℕ) = double.round n := by
        refine le_antisymm (BinaryFormat.round_mono (positive.trans top) least) ?_
        exact fixed.symm.trans_le (BinaryFormat.round_mono positive top.le)
      have whole : 10 ^ zeros = n := by
        by_contra other
        have strict : ((10 ^ zeros : ℕ) : ℚ) < n := by
          exact lt_of_le_of_ne least fun equal => other (by exact_mod_cast equal)
        have closer := best (10 ^ zeros) other dvd_rfl power
        rw [abs_of_pos (by linarith), abs_of_pos (by linarith)] at closer
        rcases closer with closer | ⟨tie, -⟩ <;> linarith
      have next : zeros = l + 1 := by
        by_contra other
        have raised : 10 ^ (l + 2) ≤ 10 ^ zeros := Nat.pow_le_pow_right (by decide) (by omega)
        rw [whole, Nat.pow_succ] at raised
        omega
      have ten : 10 * 10 ^ l = n := by rw [← whole, next, Nat.pow_succ, Nat.mul_comm]
      have last : k = l := by
        by_contra other
        exact passed l 10 (by omega) le_rfl (by rw [ten])
      rw [last] at same valued ⊢
      have close := close_of_same_double some_ valued same
      have close' := close_of_same_double valued some_ same.symm
      rw [← ten] at close close'
      push_cast at close close'
      have scale : (0 : ℚ) < 10 ^ l := by positivity
      have many : (a : ℚ) < 11 := by
        by_contra many
        have : (11 : ℚ) * 10 ^ l ≤ a * 10 ^ l := by
          have := not_lt.mp many
          gcongr
        linarith
      have few : (9 : ℚ) < a := by
        by_contra few
        have : (a : ℚ) * 10 ^ l ≤ 9 * 10 ^ l := by
          have := not_lt.mp few
          gcongr
        linarith
      have many : a < 11 := by exact_mod_cast many
      have few : 9 < a := by exact_mod_cast few
      rw [← ten, (by omega : a = 10)]
    · have last : k = zeros := by
        by_contra other
        exact passed zeros b (by omega) (by exact_mod_cast within) (by rw [shape])
      subst last
      by_contra other
      have different : b ≠ a := by
        rintro rfl
        exact other shape
      have closer := best (a * 10 ^ k) other (Nat.dvd_mul_left _ _) same
      have nearer := nearest b different (by rw [shape])
      have quotient : n / 10 ^ k = b := by
        rw [← shape, Nat.mul_div_cancel _ (Nat.pow_pos (by decide))]
      rw [shape] at nearer
      rw [quotient] at closer
      rcases closer with closer | ⟨tie, even⟩
      · rcases nearer with nearer | ⟨tie, -⟩
        · exact lt_asymm closer nearer
        · exact closer.ne' tie
      · rcases nearer with nearer | ⟨-, -, odd⟩
        · exact nearer.ne tie.symm
        · omega

theorem round_natCast (small : n < 2 ^ 53) : double.round n = n := by
  rcases Nat.eq_zero_or_pos n with rfl | some_
  · simp
  have positive : (0 : ℚ) < n := by exact_mod_cast some_
  have log : Int.log 2 (n : ℚ) < 53 := by
    rw [← Int.lt_zpow_iff_log_lt (by norm_num) positive]
    exact_mod_cast small
  have exponent : double.exponent (((n : ℤ) : ℚ) * 2 ^ (0 : ℤ)) ≤ 0 := by
    unfold BinaryFormat.exponent
    rw [zpow_zero, mul_one, Int.cast_natCast, abs_of_pos positive]
    change max (Int.log 2 (n : ℚ) + 1 - (53 : ℕ)) (-1074) ≤ 0
    omega
  have fixed := BinaryFormat.round_of_exponent_le exponent
  rwa [zpow_zero, mul_one, Int.cast_natCast] at fixed

theorem eq_of_same_double (small : n < 2 ^ 53) (same : double.round m = double.round n)
    : m = n := by
  have below : m < 2 ^ 53 := by
    by_contra large
    have power : double.round ((2 ^ 53 : ℕ) : ℚ) = (2 ^ 53 : ℕ) := by
      have fixed := @BinaryFormat.round_of_exponent_le double 1 53 exponents.2.2
      norm_num at fixed ⊢
      exact fixed
    have high : ((2 ^ 53 : ℕ) : ℚ) ≤ m := by exact_mod_cast not_lt.mp large
    have kept := BinaryFormat.round_mono (F := double) (by positivity) high
    rw [power, same, round_natCast small] at kept
    exact absurd (by exact_mod_cast kept) (Nat.not_le.mpr small)
  rw [round_natCast below, round_natCast small] at same
  exact_mod_cast same

theorem isShortest_of_safe (small : n < 2 ^ 53) : IsShortest n := by
  obtain ⟨zeros, dvd, last⟩ : ∃ zeros, 10 ^ zeros ∣ n ∧ (0 < n → ¬ 10 ^ (zeros + 1) ∣ n) := by
    rcases Nat.eq_zero_or_pos n with rfl | some_
    · exact ⟨0, one_dvd _, fun none_ => absurd none_ (Nat.lt_irrefl 0)⟩
    · obtain ⟨zeros, rest, apart, rfl⟩ :=
        Nat.exists_eq_pow_mul_and_not_dvd some_.ne' 10 (by decide)
      refine ⟨zeros, Nat.dvd_mul_right _ _, fun _ more => apart ?_⟩
      rw [pow_succ] at more
      exact Nat.dvd_of_mul_dvd_mul_left (Nat.pow_pos (by decide)) more
  refine ⟨zeros, dvd, fun m some_ multiple same => ?_, fun m other _ same => ?_⟩
  · obtain rfl := eq_of_same_double small same
    exact last some_ multiple
  · exact absurd (eq_of_same_double small same) other

end

end AcbuBackend.Runtime

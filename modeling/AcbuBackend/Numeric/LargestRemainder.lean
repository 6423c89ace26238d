import Mathlib.Algebra.Order.BigOperators.Group.List
import Mathlib.Algebra.Order.Floor.Ring
import Mathlib.Data.Rat.Floor
import Mathlib.Tactic.Linarith

/-! Apportionment by largest remainders.
Every claimant gets the whole part of its quota, and the first `m` of an order get one unit more.
Where the order is by falling fractional parts and `m` units are missing from the whole parts, every
claimant ends within one unit of its quota.
-/

namespace AcbuBackend.Numeric

variable {ι : Type}

/-- The share of a claimant when the first `m` of the order are raised. -/
def largestRemainder [DecidableEq ι] (quota : ι → ℚ) (order : List ι) (m : Nat) (i : ι) : ℤ :=
  ⌊quota i⌋ + if i ∈ order.take m then 1 else 0

/-- How many claimants have a fractional quota. -/
def fractionalCount (quota : ι → ℚ) (order : List ι) : Nat :=
  order.countP (fun i => 0 < Int.fract (quota i))

/-- The order serves larger fractional parts first. -/
def ByRemainder (quota : ι → ℚ) (order : List ι) : Prop :=
  order.Pairwise (fun i j => Int.fract (quota j) ≤ Int.fract (quota i))

variable {quota : ι → ℚ} {order : List ι} {m : Nat}

-- The missing units

theorem sum_fract_nonneg : 0 ≤ (order.map (fun i => Int.fract (quota i))).sum :=
  List.sum_nonneg fun x member => by
    obtain ⟨i, -, rfl⟩ := List.mem_map.mp member
    exact Int.fract_nonneg _

theorem sum_fract_le
    : (order.map (fun i => Int.fract (quota i))).sum ≤ fractionalCount quota order := by
  unfold fractionalCount
  induction order with
  | nil => simp
  | cons i rest ih =>
      rw [List.map_cons, List.sum_cons, List.countP_cons, Nat.cast_add]
      by_cases fractional : 0 < Int.fract (quota i)
      · rw [if_pos (decide_eq_true fractional), Nat.cast_one]
        linarith [(Int.fract_lt_one (quota i)).le]
      · rw [if_neg (by simpa using fractional), Nat.cast_zero]
        linarith [not_lt.mp fractional]

theorem sum_quota : (order.map quota).sum
    = ((order.map (fun i => ⌊quota i⌋)).sum : ℤ) +
      (order.map (fun i => Int.fract (quota i))).sum := by
  induction order with
  | nil => simp
  | cons i rest ih =>
      simp only [List.map_cons, List.sum_cons, Int.cast_add, ih]
      linarith [Int.floor_add_fract (quota i)]

/-- Where the quotas sum to within one unit of the total, the units that the whole parts miss are no
more than there are fractional quotas.
-/
theorem missing_bounds {total : ℤ} (near : |(order.map quota).sum - total| < 1)
    : 0 ≤ total - (order.map (fun i => ⌊quota i⌋)).sum
      ∧ total - (order.map (fun i => ⌊quota i⌋)).sum ≤ fractionalCount quota order := by
  obtain ⟨below, above⟩ := abs_lt.mp near
  have nonneg := @sum_fract_nonneg ι quota order
  have bounded := @sum_fract_le ι quota order
  rw [sum_quota] at below above
  constructor
  · have : (-1 : ℚ) < (total - (order.map (fun i => ⌊quota i⌋)).sum : ℤ) := by
      rw [Int.cast_sub]
      linarith
    have : -1 < total - (order.map (fun i => ⌊quota i⌋)).sum := by exact_mod_cast this
    omega
  · have : ((total - (order.map (fun i => ⌊quota i⌋)).sum : ℤ) : ℚ)
        < fractionalCount quota order + 1 := by
      rw [Int.cast_sub]
      linarith
    have : total - (order.map (fun i => ⌊quota i⌋)).sum < fractionalCount quota order + 1 := by
      exact_mod_cast this
    omega

theorem fract_pos_of_mem_take (sorted : ByRemainder quota order)
    (few : m ≤ fractionalCount quota order)
    {i : ι} (served : i ∈ order.take m)
    : 0 < Int.fract (quota i) := by
  induction order generalizing m with
  | nil => simp at served
  | cons first rest ih =>
      cases m with
      | zero => simp at served
      | succ m =>
          obtain ⟨largest, sorted⟩ := List.pairwise_cons.mp sorted
          by_cases fractional : 0 < Int.fract (quota first)
          · rw [fractionalCount, List.countP_cons, if_pos (decide_eq_true fractional)] at few
            rcases List.mem_cons.mp served with rfl | served
            · exact fractional
            · exact ih sorted (Nat.le_of_succ_le_succ few) served
          · have none : fractionalCount quota (first :: rest) = 0 := by
              refine List.countP_eq_zero.mpr fun j member positive => fractional ?_
              have positive := of_decide_eq_true positive
              rcases List.mem_cons.mp member with rfl | member
              · exact positive
              · exact positive.trans_le (largest j member)
            omega

-- The shares

section

variable [DecidableEq ι] {i : ι}

/-- A share is within one unit of its quota. -/
theorem abs_largestRemainder_sub_lt (sorted : ByRemainder quota order)
    (few : m ≤ fractionalCount quota order)
    : |largestRemainder quota order m i - quota i| < 1 := by
  have whole := Int.floor_add_fract (quota i)
  have below := Int.fract_lt_one (quota i)
  have nonneg := Int.fract_nonneg (quota i)
  rw [largestRemainder]
  split
  · rename_i served
    have positive := fract_pos_of_mem_take sorted few served
    rw [abs_lt]
    push_cast
    constructor <;> linarith
  · rw [abs_lt]
    push_cast
    constructor <;> linarith

theorem largestRemainder_of_fract_eq_zero (sorted : ByRemainder quota order)
    (few : m ≤ fractionalCount quota order) (whole : Int.fract (quota i) = 0)
    : largestRemainder quota order m i = ⌊quota i⌋ := by
  rw [largestRemainder, if_neg, add_zero]
  intro served
  exact (fract_pos_of_mem_take sorted few served).ne' whole

theorem largestRemainder_nonneg (nonneg : 0 ≤ quota i) : 0 ≤ largestRemainder quota order m i := by
  have : 0 ≤ ⌊quota i⌋ := Int.floor_nonneg.mpr nonneg
  rw [largestRemainder]
  split <;> omega

/-- Every claimant that is served first adds one unit. -/
theorem sum_largestRemainder (distinct : order.Nodup) (few : m ≤ order.length)
    : (order.map (largestRemainder quota order m)).sum
        = (order.map (fun i => ⌊quota i⌋)).sum + m := by
  have served : (order.map (fun i => if i ∈ order.take m then (1 : ℤ) else 0)).sum = m := by
    have first : (order.take m).map (fun i => if i ∈ order.take m then (1 : ℤ) else 0)
        = List.replicate m 1 := by
      refine List.eq_replicate_iff.mpr ⟨by simp [few], fun x member => ?_⟩
      obtain ⟨i, inFirst, rfl⟩ := List.mem_map.mp member
      exact if_pos inFirst
    have last : (order.drop m).map (fun i => if i ∈ order.take m then (1 : ℤ) else 0)
        = List.replicate (order.length - m) 0 := by
      refine List.eq_replicate_iff.mpr ⟨by simp, fun x member => ?_⟩
      obtain ⟨i, inLast, rfl⟩ := List.mem_map.mp member
      exact if_neg fun inFirst => List.disjoint_take_drop distinct le_rfl inFirst inLast
    rw [← List.take_append_drop m order, List.map_append]
    rw [List.take_append_drop, first, last, List.sum_append, List.sum_replicate, List.sum_replicate]
    simp
  have shares : order.map (largestRemainder quota order m)
      = order.map (fun i => ⌊quota i⌋ + if i ∈ order.take m then 1 else 0) := rfl
  rw [shares, List.sum_map_add, served]

end

end AcbuBackend.Numeric

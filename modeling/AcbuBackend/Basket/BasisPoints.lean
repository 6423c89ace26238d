import AcbuBackend.Numeric.LargestRemainder
import AcbuBackend.Runtime.JsMap
import Mathlib.Algebra.BigOperators.Ring.Finset
import Mathlib.Algebra.BigOperators.Ring.List
import Mathlib.Tactic.NormNum

/-! How the weights of a basket are rounded to whole basis points.
Numbers are exact rationals.
-/

namespace AcbuBackend.Basket

open AcbuBackend.Runtime Numeric

-- The rounding

def BASKET_WEIGHTS : List (String × ℚ) :=
  [("NGN", 18), ("ZAR", 15), ("KES", 12), ("EGP", 11), ("GHS", 9), ("RWF", 8), ("XOF", 8),
    ("MAD", 7), ("TZS", 6), ("UGX", 6)]

def BASKET_WEIGHTS_SUM : ℚ :=
  (BASKET_WEIGHTS.map Prod.snd).sum

def BASKET_WEIGHT_BASIS_POINTS : ℤ := 10000

/-- What `roundWeightsToExactBasisPoints` throws. -/
inductive BasketWeightError
  | sum (total : ℚ)
  | invalid (currency : String) (weight : ℚ)
  | allocation (baseSum : ℤ)

def BasketWeightError.message (toFixed : ℚ → Nat → String) (numberText : ℚ → String)
    : BasketWeightError → String
  | .sum total =>
      s!"Basket weights must sum to {toFixed BASKET_WEIGHTS_SUM 2}; got {toFixed total 8}"
  | .invalid currency weight => s!"Invalid basket weight for {currency}: {numberText weight}"
  | .allocation baseSum =>
      s!"Cannot allocate exact basis-point basket weights from provided values; got base sum {baseSum}"

structure WeightEntry where
  currency : String
  scaled : ℚ
  floored : ℤ
  remainder : ℚ
deriving DecidableEq

def scaleWeight (currency : String) (weight : ℚ) : WeightEntry :=
  let scaled := weight * 100
  let floored := ⌊scaled⌋
  { currency, scaled, floored, remainder := scaled - floored }

def checkWeight (currency : String) (weight : ℚ) : Except BasketWeightError WeightEntry :=
  if weight < 0 ∨ 100 < weight then .error (.invalid currency weight)
  else .ok (scaleWeight currency weight)

def WeightEntry.addPoint (entry : WeightEntry) : WeightEntry :=
  { entry with floored := entry.floored + 1 }

/-- One point to each of the first `missing` entries. -/
def addMissing (missing : Nat) (entries : List WeightEntry) : List WeightEntry :=
  (entries.take missing).map WeightEntry.addPoint ++ entries.drop missing

/-- `entries.sort((a, b) => b.remainder - a.remainder)`. -/
def sortByRemainder (entries : List WeightEntry) : List WeightEntry :=
  entries.mergeSort (fun a b => b.remainder ≤ a.remainder)

/-- The checked entries with the missing points, in the order of their remainders. -/
def allocatePoints (entries : List WeightEntry) : Except BasketWeightError (List WeightEntry) :=
  let baseSum := (entries.map (·.floored)).sum
  let missing := BASKET_WEIGHT_BASIS_POINTS - baseSum
  if missing < 0 ∨ entries.length < missing then .error (.allocation baseSum)
  else .ok (addMissing missing.toNat (sortByRemainder entries))

def roundWeightsToExactBasisPoints (weights : JsMap String ℚ)
    : Except BasketWeightError (JsMap String ℚ) := do
  let total := weights.values.sum
  if 1 / 10 ^ 8 < |total - BASKET_WEIGHTS_SUM| then .error (.sum total)
  else
    let entries ← weights.entries.mapM (fun e => checkWeight e.1 e.2)
    let allocated ← allocatePoints entries
    return .ofEntries (allocated.map (fun entry => (entry.currency, entry.floored / 100)))

-- Its result

/-- The weights are whole basis points that sum to all of them, each within one of its input. -/
structure ExactBasisPoints (weights rounded : JsMap String ℚ) : Prop where
  currencies : rounded.keys.Perm weights.keys
  whole : ∀ r ∈ rounded.values, ∃ points : ℤ, r * 100 = points
  total : (rounded.values.map (· * 100)).sum = 10000
  near : ∀ currency w r, (currency, w) ∈ weights.entries → (currency, r) ∈ rounded.entries →
    |r * 100 - w * 100| < 1
  zero : ∀ currency r, (currency, 0) ∈ weights.entries → (currency, r) ∈ rounded.entries → r = 0

theorem mapM_checkWeight {entries : List (String × ℚ)}
    (valid : ∀ e ∈ entries, 0 ≤ e.2 ∧ e.2 ≤ 100)
    : entries.mapM (fun e => checkWeight e.1 e.2)
        = .ok (entries.map (fun e => scaleWeight e.1 e.2)) := by
  induction entries with
  | nil => rfl
  | cons e rest ih =>
      have inside := valid e List.mem_cons_self
      rw [List.mapM_cons, ih fun e member => valid e (List.mem_cons_of_mem _ member), checkWeight,
        if_neg (by rintro (negative | large) <;> linarith)]
      rfl

/-- The entries of checked weights: what is floored is the whole part of what is scaled. -/
structure Scaled (entries : List WeightEntry) : Prop where
  floored : ∀ e ∈ entries, e.floored = ⌊e.scaled⌋
  remainder : ∀ e ∈ entries, e.remainder = Int.fract e.scaled
  distinct : (entries.map (·.currency)).Nodup

theorem scaled_weights (weights : JsMap String ℚ)
    : Scaled (weights.entries.map (fun e => scaleWeight e.1 e.2)) where
  floored := List.forall_mem_map.mpr fun _ _ => rfl
  remainder := List.forall_mem_map.mpr fun _ _ => rfl
  distinct := by
    rw [List.map_map]
    exact weights.distinct

section

variable {entries : List WeightEntry}

theorem sortByRemainder_perm : (sortByRemainder entries).Perm entries :=
  List.mergeSort_perm _ _

theorem sortByRemainder_sorted (scaled : Scaled entries)
    : ByRemainder WeightEntry.scaled (sortByRemainder entries) := by
  have sorted : (sortByRemainder entries).Pairwise
      (fun a b => decide (b.remainder ≤ a.remainder) = true) := by
    refine List.pairwise_mergeSort (fun a b c first second => ?_) (fun a b => ?_) entries
    · exact decide_eq_true ((of_decide_eq_true second).trans (of_decide_eq_true first))
    · simpa using le_total b.remainder a.remainder
  refine List.Pairwise.imp_of_mem (fun {a b} inA inB served => ?_) sorted
  rw [← scaled.remainder a (sortByRemainder_perm.mem_iff.mp inA),
    ← scaled.remainder b (sortByRemainder_perm.mem_iff.mp inB)]
  exact of_decide_eq_true served

theorem addMissing_eq {order : List WeightEntry} {missing : Nat} (distinct : order.Nodup)
    (floored : ∀ e ∈ order, e.floored = ⌊e.scaled⌋)
    : addMissing missing order
      = order.map
        (fun e => { e with floored := largestRemainder WeightEntry.scaled order missing e }) := by
  conv_rhs => rw [← List.take_append_drop missing order]
  rw [List.map_append, List.take_append_drop, addMissing]
  congr 1
  · refine List.map_congr_left fun e member => ?_
    rw [largestRemainder, if_pos member, WeightEntry.addPoint,
      floored e (List.mem_of_mem_take member)]
  · conv_lhs => rw [← List.map_id (order.drop missing)]
    refine List.map_congr_left fun e member => ?_
    have unserved : e ∉ order.take missing :=
      fun served => List.disjoint_take_drop distinct le_rfl served member
    rw [largestRemainder, if_neg unserved, add_zero, ← floored e (List.mem_of_mem_drop member)]
    rfl

theorem allocatePoints_eq (scaled : Scaled entries)
    (near : |(entries.map WeightEntry.scaled).sum - BASKET_WEIGHT_BASIS_POINTS| < 1)
    : ∃ order : List WeightEntry, ∃ missing : Nat,
        order.Perm entries
        ∧ ByRemainder WeightEntry.scaled order
        ∧ missing ≤ fractionalCount WeightEntry.scaled order
        ∧ (order.map (largestRemainder WeightEntry.scaled order missing)).sum
          = BASKET_WEIGHT_BASIS_POINTS
        ∧ allocatePoints entries = .ok (order.map (fun e =>
            { e with floored := largestRemainder WeightEntry.scaled order missing e })) := by
  have same := @sortByRemainder_perm entries
  have floored : ∀ e ∈ sortByRemainder entries, e.floored = ⌊e.scaled⌋ :=
    fun e member => scaled.floored e (same.mem_iff.mp member)
  have distinct : (sortByRemainder entries).Nodup :=
    same.nodup_iff.mpr (List.Nodup.of_map WeightEntry.currency scaled.distinct)
  have base : (entries.map (·.floored)).sum = ((sortByRemainder entries).map
      (fun e => ⌊e.scaled⌋)).sum := by
    rw [← (same.map _).sum_eq, List.map_congr_left floored]
  rw [← (same.map WeightEntry.scaled).sum_eq] at near
  obtain ⟨nonneg, few⟩ := missing_bounds near
  rw [← base] at nonneg few
  obtain ⟨missing, found⟩ := Int.eq_ofNat_of_zero_le nonneg
  have few : missing ≤ fractionalCount WeightEntry.scaled (sortByRemainder entries) := by
    rw [← Int.ofNat_le]
    exact found ▸ few
  have within : missing ≤ (sortByRemainder entries).length := few.trans List.countP_le_length
  refine ⟨sortByRemainder entries, missing, same, sortByRemainder_sorted scaled, few, ?_, ?_⟩
  · rw [sum_largestRemainder distinct within, ← base]
    omega
  · have length := same.length_eq
    unfold allocatePoints
    dsimp only
    rw [if_neg (by omega), found, Int.toNat_natCast, addMissing_eq distinct floored]

end

/-- Weights between 0 and 100 that sum to 100, up to the tolerance, are rounded to whole basis
points that sum to all of them.
-/
theorem roundWeights_exact (weights : JsMap String ℚ)
    (range : ∀ w ∈ weights.values, 0 ≤ w ∧ w ≤ 100) (sum : |weights.values.sum - 100| ≤ 1 / 10 ^ 8)
    : ∃ rounded, roundWeightsToExactBasisPoints weights = .ok rounded
        ∧ ExactBasisPoints weights rounded := by
  have hundred : BASKET_WEIGHTS_SUM = 100 := by decide +kernel
  have near : |((weights.entries.map (fun e => scaleWeight e.1 e.2)).map WeightEntry.scaled).sum
      - BASKET_WEIGHT_BASIS_POINTS| < 1 := by
    have scaledSum : ((weights.entries.map (fun e => scaleWeight e.1 e.2)).map
      WeightEntry.scaled).sum
        = weights.values.sum * 100 := by
      rw [List.map_map, JsMap.values, ← List.sum_map_mul_right]
      rfl
    have points : (BASKET_WEIGHT_BASIS_POINTS : ℚ) = 100 * 100 := by
      norm_num [BASKET_WEIGHT_BASIS_POINTS]
    rw [scaledSum, points, ← sub_mul, abs_mul, abs_of_pos (by norm_num : (0 : ℚ) < 100)]
    linarith
  obtain ⟨order, missing, same, sorted, few, total, allocated⟩ :=
    allocatePoints_eq (scaled_weights weights) near
  have currencies : (order.map WeightEntry.currency).Perm weights.keys := by
    have := same.map WeightEntry.currency
    rwa [List.map_map] at this
  let points := fun e => (e.currency, (largestRemainder WeightEntry.scaled order missing e : ℚ)
    / 100)
  have entries : (JsMap.ofEntries (order.map points)).entries = order.map points := by
    refine JsMap.entries_ofEntries ?_
    rw [List.map_map]
    exact currencies.nodup_iff.mpr weights.distinct
  -- an entry of the result belongs to the only weight of its currency
  have pair : ∀ currency w r, (currency, w) ∈ weights.entries →
      (currency, r) ∈ (JsMap.ofEntries (order.map points)).entries →
      ∃ e : WeightEntry, e.scaled = w * 100
        ∧ r * 100 = largestRemainder WeightEntry.scaled order missing e := by
    intro currency w r given inRounded
    rw [entries] at inRounded
    obtain ⟨e, inOrder, shape⟩ := List.mem_map.mp inRounded
    obtain ⟨⟨currency', w'⟩, given', rfl⟩ := List.mem_map.mp (same.mem_iff.mp inOrder)
    obtain ⟨rfl, rfl⟩ := Prod.mk.inj shape
    obtain ⟨-, rfl⟩ := Prod.mk.inj (List.inj_on_of_nodup_map weights.distinct given given' rfl)
    exact ⟨_, rfl, div_mul_cancel₀ _ (by norm_num)⟩
  refine ⟨.ofEntries (order.map points), ?_, ?_, ?_, ?_, ?_, ?_⟩
  · rw [roundWeightsToExactBasisPoints, hundred, if_neg (not_lt.mpr sum),
      mapM_checkWeight fun e member => range e.2 (List.mem_map_of_mem member)]
    change (allocatePoints _).bind _ = _
    rw [allocated]
    change Except.ok (JsMap.ofEntries _) = _
    rw [List.map_map]
    rfl
  · rw [JsMap.keys, entries, List.map_map]
    exact currencies
  · rw [JsMap.values, entries, List.map_map]
    rw [List.forall_mem_map]
    exact fun e _ => ⟨_, div_mul_cancel₀ _ (by norm_num)⟩
  · have cancel : ∀ e ∈ order, (points e).2 * 100
        = ((largestRemainder WeightEntry.scaled order missing e : ℤ) : ℚ) :=
      fun e _ => div_mul_cancel₀ _ (by norm_num)
    rw [JsMap.values, entries, List.map_map, List.map_map]
    change (order.map fun e => (points e).2 * 100).sum = 10000
    rw [List.map_congr_left cancel]
    have cast := congrArg (Int.cast : ℤ → ℚ) total
    rw [Int.cast_list_sum, List.map_map] at cast
    exact cast
  · intro currency w r given inRounded
    obtain ⟨e, scaled, shape⟩ := pair currency w r given inRounded
    rw [← scaled, shape]
    exact abs_largestRemainder_sub_lt sorted few
  · intro currency r given inRounded
    obtain ⟨e, scaled, shape⟩ := pair currency 0 r given inRounded
    rw [zero_mul] at scaled
    rw [largestRemainder_of_fract_eq_zero sorted few (by rw [scaled, Int.fract_zero]), scaled,
      Int.floor_zero, Int.cast_zero] at shape
    linarith

/-- Three equal weights, and a currency without weight. -/
def thirds : JsMap String ℚ where
  entries := [("NGN", 100 / 3), ("KES", 100 / 3), ("ZAR", 0), ("GHS", 100 / 3)]
  distinct := by decide

theorem roundWeights_exact_thirds
    : ∃ rounded, roundWeightsToExactBasisPoints thirds = .ok rounded
        ∧ ExactBasisPoints thirds rounded :=
  roundWeights_exact thirds (by decide +kernel) (by decide +kernel)

end AcbuBackend.Basket

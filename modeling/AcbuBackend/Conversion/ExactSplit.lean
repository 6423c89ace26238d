import AcbuBackend.Conversion.BasketDistribution
import AcbuBackend.Numeric.LargestRemainder
import Mathlib.Algebra.BigOperators.Ring.Finset
import Mathlib.Data.List.GetD

/-! The split of an amount over a basket is an apportionment by largest remainders.
Its quotas are the parts of the total by integer weight, and its order is the one in which the job
serves the shares.
-/

namespace AcbuBackend.Conversion

open Numeric AcbuBackend.Runtime

def totalWeight (basket : List BasketEntry) : ℤ :=
  (basket.map weightInt).sum

def exactPart (total : ℤ) (basket : List BasketEntry) (weight : ℤ) : ℚ :=
  total * weight / totalWeight basket

def quota (total : ℤ) (basket : List BasketEntry) (i : Nat) : ℚ :=
  exactPart total basket ((basket.map weightInt).getD i 0)

/-- The shares rounded down. -/
def baseShares (total : ℤ) (basket : List BasketEntry) : List ShareEntry :=
  basket.map (baseShare total (totalWeight basket))

/-- The units that the shares rounded down leave. -/
def residual (total : ℤ) (basket : List BasketEntry) : Nat :=
  (total - ((baseShares total basket).map (·.finalAtomic)).sum).toNat

def exactShares (total : ℤ) (basket : List BasketEntry) : List ℤ :=
  (List.range basket.length).map
    (largestRemainder (quota total basket) (sortedIndices (baseShares total basket))
      (residual total basket))

-- The order

section

variable {shares : List ShareEntry}

theorem servedBefore_some {i j : Nat} {a b : ShareEntry} (first : shares[i]? = some a)
    (second : shares[j]? = some b)
    : servedBefore shares i j = true
      ↔ b.remainder < a.remainder
        ∨ a.remainder = b.remainder
          ∧ (b.weightInt < a.weightInt ∨ a.weightInt = b.weightInt ∧ i ≤ j) := by
  rw [servedBefore, first, second]
  dsimp only
  split
  · rw [decide_eq_true_eq]
    omega
  · split <;> rw [decide_eq_true_eq] <;> omega

theorem servedBefore_none {i j : Nat} (missing : shares.length ≤ i ∨ shares.length ≤ j)
    : servedBefore shares i j = true ↔ i ≤ j := by
  rw [← List.getElem?_eq_none_iff, ← List.getElem?_eq_none_iff] at missing
  rw [servedBefore]
  split
  · rename_i first second
    rw [first, second] at missing
    rcases missing with absurd | absurd <;> cases absurd
  · rw [decide_eq_true_eq]

theorem servedBefore_trans (a b c : Nat) (first : servedBefore shares a b = true)
    (second : servedBefore shares b c = true)
    : servedBefore shares a c = true := by
  by_cases outside : shares.length ≤ a ∨ shares.length ≤ b ∨ shares.length ≤ c
  · -- positions outside come last, in their own order
    by_cases inA : shares.length ≤ a
    · have first := (servedBefore_none (.inl inA)).mp first
      have second := (servedBefore_none (.inl (inA.trans first))).mp second
      exact (servedBefore_none (.inl inA)).mpr (first.trans second)
    · have inC : shares.length ≤ c := by
        by_contra notC
        have inB : shares.length ≤ b := by omega
        have := (servedBefore_none (.inl inB)).mp second
        omega
      exact (servedBefore_none (.inr inC)).mpr (by omega)
  · have found : ∀ i, ¬ shares.length ≤ i → ∃ s, shares[i]? = some s :=
      fun i inside => ⟨_, List.getElem?_eq_getElem (not_le.mp inside)⟩
    obtain ⟨x, foundA⟩ := found a (by omega)
    obtain ⟨y, foundB⟩ := found b (by omega)
    obtain ⟨z, foundC⟩ := found c (by omega)
    rw [servedBefore_some foundA foundB] at first
    rw [servedBefore_some foundB foundC] at second
    rw [servedBefore_some foundA foundC]
    omega

theorem servedBefore_total (a b : Nat)
    : (servedBefore shares a b || servedBefore shares b a) = true := by
  rw [Bool.or_eq_true]
  by_cases outside : shares.length ≤ a ∨ shares.length ≤ b
  · rw [servedBefore_none outside, servedBefore_none outside.symm]
    exact le_total a b
  · obtain ⟨x, foundA⟩ : ∃ s, shares[a]? = some s := ⟨_, List.getElem?_eq_getElem (by omega)⟩
    obtain ⟨y, foundB⟩ : ∃ s, shares[b]? = some s := ⟨_, List.getElem?_eq_getElem (by omega)⟩
    rw [servedBefore_some foundA foundB, servedBefore_some foundB foundA]
    omega

theorem sortedIndices_perm : (sortedIndices shares).Perm (List.range shares.length) :=
  List.mergeSort_perm _ _

theorem sortedIndices_sorted
    : (sortedIndices shares).Pairwise (fun i j => ∀ a b, shares[i]? = some a → shares[j]? = some b →
        b.remainder ≤ a.remainder) := by
  refine (List.pairwise_mergeSort servedBefore_trans servedBefore_total _).imp
    fun {i j} served a b foundA foundB => ?_
  rw [servedBefore_some foundA foundB] at served
  omega

-- The residual

theorem getElem?_addResidual {order : List Nat} (distinct : order.Nodup) {m : Nat}
    (few : m ≤ order.length)
    (i : Nat)
    : (addResidual order m shares)[i]?
      = (shares[i]?).map (fun share => if i ∈ order.take m then share.addUnit else share) := by
  induction m with
  | zero => simp [addResidual]
  | succ m ih =>
      have within : m < order.length := few
      have next : order.getD (m % order.length) 0 = order[m] := by
        rw [Nat.mod_eq_of_lt within, List.getD_eq_getElem _ _ within]
      have split : addResidual order (m + 1) shares
          = (addResidual order m shares).modify order[m] ShareEntry.addUnit := by
        rw [addResidual, List.range_succ, List.foldl_append, ← addResidual, List.foldl_cons, next]
        rfl
      have served : i ∈ order.take (m + 1) ↔ i ∈ order.take m ∨ i = order[m] := by
        rw [List.take_succ_eq_append_getElem within, List.mem_append, List.mem_singleton]
      rw [split, List.getElem?_modify, ih within.le]
      by_cases here : order[m] = i
      · have unserved : i ∉ order.take m := by
          intro served
          have rest : order[m] ∈ order.drop m := by
            rw [List.drop_eq_getElem_cons within]
            exact List.mem_cons_self
          exact List.disjoint_take_drop distinct le_rfl served (here ▸ rest)
        cases shares[i]? with
        | none => rfl
        | some share => simp [served, here, unserved]
      · cases shares[i]? with
        | none => rfl
        | some share => simp [served, here, Ne.symm here]

end

-- The shares

section

variable {total : ℤ} {basket : List BasketEntry}

theorem map_range_eq {β : Type} {g : Nat → β} {f : BasketEntry → β}
    (same : ∀ i e, basket[i]? = some e → g i = f e)
    : (List.range basket.length).map g = basket.map f := by
  refine List.ext_getElem? fun i => ?_
  rw [List.getElem?_map, List.getElem?_map]
  cases found : basket[i]? with
  | none =>
      have outside := List.getElem?_eq_none_iff.mp found
      rw [List.getElem?_eq_none (by simpa using outside)]
      rfl
  | some e =>
      have inside := (List.getElem?_eq_some_iff.mp found).1
      rw [List.getElem?_range inside]
      exact congrArg some (same i e found)

theorem quota_eq {i : Nat} {e : BasketEntry} (found : basket[i]? = some e)
    : quota total basket i = exactPart total basket (weightInt e) := by
  rw [quota, List.getD_eq_getElem?_getD, List.getElem?_map, found]
  rfl

theorem baseShare_eq {e : BasketEntry} (nonneg : 0 ≤ total) (weight : 0 ≤ weightInt e)
    (positive : 0 < totalWeight basket)
    : (baseShare total (totalWeight basket) e).finalAtomic = ⌊exactPart total basket (weightInt e)⌋
      ∧ ((baseShare total (totalWeight basket) e).remainder : ℚ)
        = totalWeight basket * Int.fract (exactPart total basket (weightInt e)) := by
  have product : 0 ≤ total * weightInt e := mul_nonneg nonneg weight
  have divided := Int.mul_ediv_add_emod (total * weightInt e) (totalWeight basket)
  have below := Int.emod_lt_of_pos (total * weightInt e) positive
  have above := Int.emod_nonneg (total * weightInt e) positive.ne'
  have positive' : (0 : ℚ) < totalWeight basket := by exact_mod_cast positive
  have cast : (total : ℚ) * weightInt e = totalWeight basket
    * (total * weightInt e / totalWeight basket : ℤ)
      + (total * weightInt e % totalWeight basket : ℤ) := by
    exact_mod_cast divided.symm
  have floor : ⌊exactPart total basket (weightInt e)⌋
      = total * weightInt e / totalWeight basket := by
    have below : ((total * weightInt e % totalWeight basket : ℤ) : ℚ) < totalWeight basket := by
      exact_mod_cast below
    have above : (0 : ℚ) ≤ (total * weightInt e % totalWeight basket : ℤ) := by exact_mod_cast above
    rw [exactPart, cast, Int.floor_eq_iff, le_div_iff₀ positive', div_lt_iff₀ positive']
    constructor <;> linarith
  rw [Int.fract, floor]
  refine ⟨Int.tdiv_eq_ediv_of_nonneg product, ?_⟩
  rw [mul_sub, exactPart, mul_div_cancel₀ _ positive'.ne', cast, add_sub_cancel_left]
  exact congrArg Int.cast (Int.tmod_eq_emod_of_nonneg product)

theorem sum_exactPart (positive : 0 < totalWeight basket)
    : (basket.map (fun e => exactPart total basket (weightInt e))).sum = total := by
  have positive' : (totalWeight basket : ℚ) ≠ 0 := by exact_mod_cast positive.ne'
  have parts : ∀ e ∈ basket, exactPart total basket (weightInt e)
      = (total / totalWeight basket) * ((weightInt e : ℤ) : ℚ) := by
    intro e _
    rw [exactPart]
    ring
  have weights : (basket.map (fun e => ((weightInt e : ℤ) : ℚ))).sum = totalWeight basket := by
    rw [totalWeight, Int.cast_list_sum, List.map_map]
    rfl
  rw [List.map_congr_left parts, List.sum_map_mul_left, weights, div_mul_cancel₀ _ positive']

theorem sortedIndices_baseShares_perm
    : (sortedIndices (baseShares total basket)).Perm (List.range basket.length) := by
  have same := @sortedIndices_perm (baseShares total basket)
  rwa [baseShares, List.length_map] at same

variable (nonneg : 0 ≤ total) (weights : ∀ e ∈ basket, 0 ≤ weightInt e)
    (positive : 0 < totalWeight basket)

include nonneg weights positive

theorem sortedIndices_byRemainder
    : ByRemainder (quota total basket) (sortedIndices (baseShares total basket)) := by
  have positive' : (0 : ℚ) < totalWeight basket := by exact_mod_cast positive
  refine List.Pairwise.imp_of_mem (fun {i j} inI inJ served => ?_) sortedIndices_sorted
  have found : ∀ k ∈ sortedIndices (baseShares total basket), ∃ e ∈ basket,
      basket[k]? = some e := by
    intro k member
    have inside := List.mem_range.mp (sortedIndices_perm.mem_iff.mp member)
    rw [baseShares, List.length_map] at inside
    exact ⟨_, List.getElem_mem inside, List.getElem?_eq_getElem inside⟩
  obtain ⟨a, inA, foundA⟩ := found i inI
  obtain ⟨b, inB, foundB⟩ := found j inJ
  have fewer := served (baseShare total (totalWeight basket) a)
    (baseShare total (totalWeight basket) b)
    (by rw [baseShares, List.getElem?_map, foundA]; rfl)
    (by rw [baseShares, List.getElem?_map, foundB]; rfl)
  have fewer : ((baseShare total (totalWeight basket) b).remainder : ℚ)
      ≤ (baseShare total (totalWeight basket) a).remainder := by
    exact_mod_cast fewer
  rw [(baseShare_eq nonneg (weights a inA) positive).2,
    (baseShare_eq nonneg (weights b inB) positive).2, ← quota_eq foundA, ← quota_eq foundB] at fewer
  exact le_of_mul_le_mul_left fewer positive'

theorem residual_eq
    : ((sortedIndices (baseShares total basket)).map (fun i => ⌊quota total basket i⌋)).sum
        + residual total basket = total
      ∧ residual total basket
        ≤ fractionalCount (quota total basket) (sortedIndices (baseShares total basket)) := by
  have same := @sortedIndices_baseShares_perm total basket
  have quotas : ((sortedIndices (baseShares total basket)).map (quota total basket)).sum
      = total := by
    rw [(same.map _).sum_eq, map_range_eq fun i e => quota_eq, sum_exactPart positive]
  have base : ((baseShares total basket).map (·.finalAtomic)).sum
      = ((sortedIndices (baseShares total basket)).map (fun i => ⌊quota total basket i⌋)).sum := by
    rw [(same.map _).sum_eq, map_range_eq fun i e found => congrArg Int.floor (quota_eq found),
      baseShares, List.map_map]
    refine congrArg List.sum (List.map_congr_left fun e member => ?_)
    exact (baseShare_eq nonneg (weights e member) positive).1
  have near : |((sortedIndices (baseShares total basket)).map (quota total basket)).sum - total|
      < 1 := by
    rw [quotas, sub_self, abs_zero]
    exact one_pos
  obtain ⟨missing, few⟩ := missing_bounds near
  rw [residual, base]
  omega

theorem sum_exactShares : (exactShares total basket).sum = total := by
  obtain ⟨missing, few⟩ := residual_eq nonneg weights positive
  have same := @sortedIndices_baseShares_perm total basket
  rw [exactShares, ← (same.map _).sum_eq,
    sum_largestRemainder (same.nodup_iff.mpr List.nodup_range) (few.trans List.countP_le_length),
      missing]

theorem exactShare_eq {i : Nat} {e : BasketEntry} (found : basket[i]? = some e)
    : ∃ share : ℤ, (exactShares total basket)[i]? = some share
        ∧ 0 ≤ share
        ∧ |share - exactPart total basket (weightInt e)| < 1
        ∧ (weightInt e = 0 → share = 0) := by
  have few := (residual_eq nonneg weights positive).2
  have sorted := sortedIndices_byRemainder nonneg weights positive
  have inside := (List.getElem?_eq_some_iff.mp found).1
  have part : 0 ≤ quota total basket i := by
    rw [quota_eq found]
    have weight := weights e (List.mem_of_getElem? found)
    exact div_nonneg (mul_nonneg (by exact_mod_cast nonneg) (by exact_mod_cast weight))
      (by exact_mod_cast positive.le)
  refine ⟨_, by rw [exactShares, List.getElem?_map, List.getElem?_range inside]; rfl,
    largestRemainder_nonneg part, ?_, fun zero => ?_⟩
  · rw [← quota_eq found]
    exact abs_largestRemainder_sub_lt sorted few
  · have none : quota total basket i = 0 := by
      rw [quota_eq found, zero, exactPart, Int.cast_zero, mul_zero, zero_div]
    rw [largestRemainder_of_fract_eq_zero sorted few (by rw [none, Int.fract_zero]), none,
      Int.floor_zero]

theorem finalAtomic_addResidual
    : (addResidual (sortedIndices (baseShares total basket)) (residual total basket)
        (baseShares total basket)).map (·.finalAtomic) = exactShares total basket := by
  have few := (residual_eq nonneg weights positive).2
  have same := @sortedIndices_perm (baseShares total basket)
  refine List.ext_getElem? fun i => ?_
  rw [List.getElem?_map, exactShares, List.getElem?_map,
    getElem?_addResidual (same.nodup_iff.mpr List.nodup_range) (few.trans List.countP_le_length),
      baseShares,
    List.getElem?_map]
  cases found : basket[i]? with
  | none =>
      rw [List.getElem?_eq_none (by simpa using found)]
      rfl
  | some e =>
      rw [List.getElem?_range (List.getElem?_eq_some_iff.mp found).1]
      have base := (baseShare_eq nonneg (weights e (List.mem_of_getElem? found)) positive).1
      simp only [Option.map_some, Option.some.injEq, largestRemainder, quota_eq found, ← base]
      split
      · rfl
      · rw [add_zero]

end

-- The allocations

/-- The share of an entry. -/
structure IsShare (total : ℤ) (basket : List BasketEntry) (e : BasketEntry)
    (a : BasketShareAllocation) : Prop where
  currency : a.currency = e.currency
  weight : a.weight = e.weight
  nonneg : 0 ≤ a.amountAtomic
  near : |a.amountAtomic - exactPart total basket (weightInt e)| < 1
  zero : 2 ≤ basket.length → weightInt e = 0 → a.amountAtomic = 0

/-- The allocations split a total over a basket. -/
structure Splits (total : ℤ) (basket : List BasketEntry) (allocations : List BasketShareAllocation)
    : Prop where
  sum : (allocations.map (·.amountAtomic)).sum = total
  shares : List.Forall₂ (IsShare total basket) basket allocations

section

variable {total : ℤ} {basket : List BasketEntry} {decimals : Nat}

theorem forall₂_of_getElem? {α β : Type} {R : α → β → Prop} {l : List α} {l' : List β}
    (length : l'.length = l.length)
    (related : ∀ (i : Nat) a b, l[i]? = some a → l'[i]? = some b → R a b)
    : List.Forall₂ R l l' := by
  rw [List.forall₂_iff_get]
  refine ⟨length.symm, fun i inside inside' => ?_⟩
  exact related i _ _ (List.getElem?_eq_getElem inside) (List.getElem?_eq_getElem inside')

theorem distribute_eq (nonneg : 0 ≤ total) (weights : ∀ e ∈ basket, 0 ≤ weightInt e)
    (positive : 0 < totalWeight basket)
    : ∃ allocations, distribute total basket decimals = .ok allocations
        ∧ allocations.map (·.amountAtomic) = exactShares total basket
        ∧ allocations.map (·.amountDecimal)
          = (exactShares total basket).map (fun share : ℤ => roundToDigits DECIMAL_PRECISION
            (share / 10 ^ decimals))
        ∧ Splits total basket allocations := by
  have shares := finalAtomic_addResidual nonneg weights positive
  let raised := addResidual (sortedIndices (baseShares total basket)) (residual total basket)
    (baseShares total basket)
  have atomic : (raised.map (ShareEntry.allocation decimals)).map (·.amountAtomic)
      = exactShares total basket := by
    rw [← shares, List.map_map]
    rfl
  refine ⟨raised.map (ShareEntry.allocation decimals), if_neg (not_le.mpr positive), atomic, ?_,
    ?_, ?_⟩
  · rw [← shares, List.map_map, List.map_map]
    rfl
  · rw [atomic, sum_exactShares nonneg weights positive]
  · have length : (raised.map (ShareEntry.allocation decimals)).length = basket.length := by
      have := congrArg List.length atomic
      simpa [exactShares] using this
    refine forall₂_of_getElem? length fun i e a found inside => ?_
    obtain ⟨share, there, sign, near, zero⟩ := exactShare_eq nonneg weights positive found
    have amount : a.amountAtomic = share := by
      rw [← atomic, List.getElem?_map, inside] at there
      exact Option.some.inj there
    -- a unit more leaves the entry as it is
    have entry : a.currency = e.currency ∧ a.weight = e.weight := by
      have same := @sortedIndices_perm (baseShares total basket)
      have few := (residual_eq nonneg weights positive).2
      rw [List.getElem?_map, getElem?_addResidual (same.nodup_iff.mpr List.nodup_range)
        (few.trans List.countP_le_length), baseShares, List.getElem?_map, found] at inside
      obtain rfl := Option.some.inj inside
      dsimp only
      split <;> exact ⟨rfl, rfl⟩
    exact ⟨entry.1, entry.2, amount ▸ sign, amount ▸ near, fun _ none => amount.trans (zero none)⟩

theorem weightInt_nonneg {e : BasketEntry} (nonneg : 0 ≤ e.weight) : 0 ≤ weightInt e := by
  have scaled : 0 ≤ e.weight * 10000 := by positivity
  rw [weightInt, toBigIntDown, if_pos scaled]
  exact Int.floor_nonneg.mpr scaled

/-- The units of an amount: those of the amount rounded to the digits of a decimal. -/
def atomicTotal (usdcAmount : ℚ) (decimals : Nat) : ℤ :=
  ⌊roundToDigits DECIMAL_PRECISION (usdcAmount * 10 ^ decimals)⌋

theorem calculateBasketDistribution_eq {usdcAmount : ℚ} (amount : 0 < usdcAmount)
    (nonempty : basket ≠ [])
    (weights : ∀ e ∈ basket, 0 ≤ e.weight) (positive : 0 < totalWeight basket)
    : ∃ allocations, calculateBasketDistribution usdcAmount basket decimals = .ok allocations
        ∧ (atomicTotal usdcAmount decimals ≤ 0 → allocations = [])
        ∧ (0 < atomicTotal usdcAmount decimals →
            allocations ≠ [] ∧ Splits (atomicTotal usdcAmount decimals) basket allocations) := by
  have scaled : 0 ≤ usdcAmount * 10 ^ decimals := by positivity
  have total : toBigIntDown (roundToDigits DECIMAL_PRECISION (usdcAmount * 10 ^ decimals))
      = atomicTotal usdcAmount decimals :=
    if_pos (roundToDigits_nonneg scaled)
  obtain ⟨entry, rest, rfl⟩ := List.exists_cons_of_ne_nil nonempty
  unfold calculateBasketDistribution
  dsimp only
  rw [total]
  by_cases none : atomicTotal usdcAmount decimals ≤ 0
  · exact ⟨[], if_pos (.inr none), fun _ => rfl, fun some => absurd none (not_le.mpr some)⟩
  · rw [if_neg (by simp [amount, none])]
    by_cases single : rest = []
    · subst single
      refine ⟨_, if_pos rfl, fun absurd => (none absurd).elim,
        fun _ => ⟨List.cons_ne_nil _ _, ?_, ?_⟩⟩
      · exact List.sum_singleton
      · refine .cons ⟨rfl, rfl, (not_le.mp none).le, ?_, fun two => ?_⟩ .nil
        · have whole : totalWeight [entry] = weightInt entry := List.sum_singleton
          have weight : (weightInt entry : ℚ) ≠ 0 := by
            exact_mod_cast (whole ▸ positive).ne'
          rw [exactPart, whole, mul_div_cancel_right₀ _ weight, sub_self, abs_zero]
          exact one_pos
        · simp at two
    · rw [if_neg single]
      obtain ⟨allocations, distributed, -, -, splits⟩ :=
        @distribute_eq _ _ decimals (not_le.mp none).le
        (fun e member => weightInt_nonneg (weights e member)) positive
      refine ⟨allocations, distributed, fun absurd => (none absurd).elim, fun _ => ⟨?_, splits⟩⟩
      rintro rfl
      cases splits.shares

theorem atomicTotal_eq_iff {usdcAmount : ℚ} (amount : 0 < usdcAmount)
    : atomicTotal usdcAmount decimals = ⌊usdcAmount * 10 ^ decimals⌋
      ↔ KeepsWholePart DECIMAL_PRECISION (usdcAmount * 10 ^ decimals) :=
  floor_roundToDigits_eq_iff (by positivity)

/-- The split is exact for the amounts whose units a decimal holds, and for no others. -/
theorem calculateBasketDistribution_splits (usdcAmount : ℚ) (decimals : Nat)
    (basket : List BasketEntry)
    (amount : 0 < usdcAmount) (nonempty : basket ≠ []) (weights : ∀ e ∈ basket, 0 ≤ e.weight)
    (positive : 0 < totalWeight basket)
    : ∃ allocations, calculateBasketDistribution usdcAmount basket decimals = .ok allocations
        ∧ ((allocations ≠ [] → Splits ⌊usdcAmount * 10 ^ decimals⌋ basket allocations)
          ↔ KeepsWholePart DECIMAL_PRECISION (usdcAmount * 10 ^ decimals)) := by
  obtain ⟨allocations, calculated, empty, splits⟩ :=
    @calculateBasketDistribution_eq basket decimals usdcAmount amount nonempty weights positive
  refine ⟨allocations, calculated, ?_⟩
  rw [← atomicTotal_eq_iff amount]
  by_cases none : atomicTotal usdcAmount decimals ≤ 0
  · -- too little for a unit, before the rounding as after it
    refine iff_of_true (fun some => absurd (empty none) some) ?_
    have scaled : 0 ≤ usdcAmount * 10 ^ decimals := by positivity
    have below : usdcAmount * 10 ^ decimals < 1 := by
      by_contra one
      have kept := one_le_roundToDigits (p := DECIMAL_PRECISION) (by decide) (not_lt.mp one)
      have : 1 ≤ atomicTotal usdcAmount decimals := Int.le_floor.mpr (by exact_mod_cast kept)
      omega
    rw [Int.floor_eq_zero_iff.mpr ⟨scaled, below⟩]
    exact le_antisymm none (Int.floor_nonneg.mpr (roundToDigits_nonneg scaled))
  · obtain ⟨some, splits⟩ := splits (not_le.mp none)
    constructor
    · intro exact
      rw [← splits.sum, (exact some).sum]
    · intro same _
      rwa [← same]

/-- Two equal weights, and one that is truncated to nothing. -/
def sampleBasket : List BasketEntry :=
  [⟨"NGN", 1⟩, ⟨"KES", 1⟩, ⟨"ZAR", 1 / 100000⟩]

theorem calculateBasketDistribution_splits_sample
    : ∃ allocations, calculateBasketDistribution (3 / 10 ^ 7) sampleBasket 7 = .ok allocations
        ∧ ((allocations ≠ [] → Splits ⌊(3 / 10 ^ 7 : ℚ) * 10 ^ 7⌋ sampleBasket allocations)
          ↔ KeepsWholePart DECIMAL_PRECISION (3 / 10 ^ 7 * 10 ^ 7)) :=
  calculateBasketDistribution_splits (3 / 10 ^ 7) 7 sampleBasket (by norm_num) (by decide)
    (by decide +kernel)
    (by decide +kernel)

/-- An amount just below one USDC, with more digits than a decimal keeps. -/
def carriedAmount : ℚ := 1 - 1 / 10 ^ 28

/-- Its units are rounded up to those of one USDC. -/
theorem carried_amount_rounded_up
    : ∃ allocations, calculateBasketDistribution carriedAmount [⟨"NGN", 100⟩] 7 = .ok allocations
        ∧ allocations.map (·.amountAtomic) = [10000000]
        ∧ ⌊carriedAmount * 10 ^ 7⌋ = 9999999
        ∧ ¬ (allocations ≠ [] → Splits ⌊carriedAmount * 10 ^ 7⌋ [⟨"NGN", 100⟩] allocations) := by
  have calculated : calculateBasketDistribution carriedAmount [⟨"NGN", 100⟩] 7
      = .ok [⟨"NGN", 100, 10000000, carriedAmount, carriedAmount⟩] := by
    decide +kernel
  have floor : ⌊carriedAmount * 10 ^ 7⌋ = 9999999 := by decide +kernel
  refine ⟨_, calculated, rfl, floor, fun exact => ?_⟩
  have sum := (exact (List.cons_ne_nil _ _)).sum
  rw [floor] at sum
  exact absurd sum (by decide)

end

end AcbuBackend.Conversion

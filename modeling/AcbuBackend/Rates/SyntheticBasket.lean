import AcbuBackend.Runtime.Request
import Mathlib.Algebra.BigOperators.Ring.List
import Mathlib.Algebra.Order.BigOperators.Group.List

/-! How much of each basket currency one ACBU holds. -/

namespace AcbuBackend.Rates

/-- A basket row: a currency and its weight in percent points. -/
structure BasketLegInput where
  currency : String
  weight : ℚ

structure SyntheticBasketLeg where
  currency : String
  weightPercent : ℚ
  effectiveValueFraction : ℚ
  usdPerLocal : ℚ
  localPerOneAcbu : ℚ
  usdValueInLeg : ℚ

structure SyntheticBasketOneAcbu where
  usdNotionalPerAcbu : ℚ
  legs : List SyntheticBasketLeg

/-- The rows with a positive weight and a positive rate. -/
def pricedLegs (basket : List BasketLegInput) (usdPerLocal : String → Option ℚ)
    : List BasketLegInput :=
  basket.filter (fun b => 0 < b.weight ∧ 0 < (usdPerLocal b.currency).getD 0)

/-- The leg of one priced row, `W` being the total weight of the priced rows. -/
def composeLeg (usdPerLocal : String → Option ℚ) (usdNotionalPerAcbu W : ℚ)
    (b : BasketLegInput)
    : SyntheticBasketLeg :=
  let r := (usdPerLocal b.currency).getD 0
  let f := b.weight / W
  let usdValueInLeg := usdNotionalPerAcbu * f
  { currency := b.currency
    weightPercent := b.weight
    effectiveValueFraction := f
    usdPerLocal := r
    localPerOneAcbu := usdValueInLeg / r
    usdValueInLeg }

def composeOneAcbuFromWeightsAndUsdRates (basket : List BasketLegInput)
    (usdPerLocal : String → Option ℚ) (usdNotionalPerAcbu : ℚ := 1)
    : Option SyntheticBasketOneAcbu :=
  let priced := pricedLegs basket usdPerLocal
  if priced.length = 0 then none
  else
    let W := (priced.map (·.weight)).sum
    if W ≤ 0 then none
    else
      some { usdNotionalPerAcbu, legs := priced.map (composeLeg usdPerLocal usdNotionalPerAcbu W) }

/-- `computeSyntheticBasketOneAcbuForBasket`. `latestMedianRate` is the `medianRate` of the
newest `OracleRate` row of a currency; only a positive one enters the rates.
-/
def computeSyntheticBasketOneAcbuForBasket (latestMedianRate : String → Option ℚ)
    (basket : List BasketLegInput) (usdNotionalPerAcbu : ℚ := 1)
    : Option SyntheticBasketOneAcbu :=
  composeOneAcbuFromWeightsAndUsdRates basket
    (fun currency =>
      if currency ∈ basket.map (·.currency)
      then (latestMedianRate currency).filter (fun r => 0 < r)
      else none)
    usdNotionalPerAcbu

def totalWeight (basket : List BasketLegInput) : ℚ :=
  (basket.map (·.weight)).sum

theorem totalWeight_pos {basket : List BasketLegInput} (weights : ∀ b ∈ basket, 0 < b.weight)
    (nonempty : basket ≠ [])
    : 0 < totalWeight basket := by
  apply List.sum_pos
  · intro w member
    obtain ⟨b, inBasket, rfl⟩ := List.mem_map.mp member
    exact weights b inBasket
  · simpa using nonempty

theorem weight_eq_totalWeight_iff {basket : List BasketLegInput}
    (weights : ∀ b ∈ basket, 0 < b.weight) {b : BasketLegInput} (member : b ∈ basket)
    : b.weight = totalWeight basket ↔ basket.length = 1 := by
  obtain ⟨before, after, rfl⟩ := List.append_of_mem member
  have rest : before ++ after ≠ [] → 0 < totalWeight (before ++ after) := by
    apply totalWeight_pos
    intro other inRest
    apply weights other
    rcases List.mem_append.mp inRest with inBefore | inAfter
    · exact List.mem_append_left _ inBefore
    · exact List.mem_append_right _ (List.mem_cons_of_mem _ inAfter)
  have total : totalWeight (before ++ b :: after) = b.weight + totalWeight (before ++ after) := by
    simp only [totalWeight, List.map_append, List.map_cons, List.sum_append, List.sum_cons]
    ring
  rw [total]
  constructor
  · intro same
    by_contra longer
    have : before ++ after ≠ [] := by
      intro empty
      have := List.append_eq_nil_iff.mp empty
      simp [this] at longer
    have := rest this
    linarith
  · intro one
    have : before ++ after = [] := by
      have : before.length + after.length = 0 := by
        simp only [List.length_append, List.length_cons] at one
        omega
      simpa [List.append_eq_nil_iff, List.length_eq_zero_iff] using this
    simp [this, totalWeight]

/-- With positive weights and rates every basket row has a leg, and the legs together are
worth the notional. Witness: no row is filtered out, and the fractions share one divisor.
-/
theorem computeSyntheticBasket_legs {latestMedianRate : String → Option ℚ}
    {basket : List BasketLegInput} {usdNotionalPerAcbu : ℚ}
    (weights : ∀ b ∈ basket, 0 < b.weight)
    (rates : ∀ b ∈ basket, ∃ r, latestMedianRate b.currency = some r ∧ 0 < r)
    (nonempty : basket ≠ [])
    : computeSyntheticBasketOneAcbuForBasket latestMedianRate basket usdNotionalPerAcbu
      = some
          { usdNotionalPerAcbu
            legs := basket.map
              (composeLeg latestMedianRate usdNotionalPerAcbu (totalWeight basket)) } := by
  have read : ∀ b ∈ basket,
      (if b.currency ∈ basket.map (·.currency)
        then (latestMedianRate b.currency).filter (fun r => 0 < r) else none)
        = latestMedianRate b.currency := by
    intro b member
    obtain ⟨r, found, positive⟩ := rates b member
    rw [if_pos (List.mem_map.mpr ⟨b, member, rfl⟩)]
    simp [found, positive]
  have everyRow : pricedLegs basket
      (fun currency =>
        if currency ∈ basket.map (·.currency)
        then (latestMedianRate currency).filter (fun r => 0 < r)
        else none)
      = basket := by
    apply List.filter_eq_self.mpr
    intro b member
    obtain ⟨r, found, positive⟩ := rates b member
    simp only [read b member]
    simp [found, positive, weights b member]
  have positive : ¬ (basket.map (·.weight)).sum ≤ 0 :=
    not_le.mpr (totalWeight_pos weights nonempty)
  unfold computeSyntheticBasketOneAcbuForBasket composeOneAcbuFromWeightsAndUsdRates
  simp only [everyRow]
  rw [if_neg (by simpa using nonempty), if_neg positive]
  congr 2
  apply List.map_congr_left
  intro b member
  have same := read b member
  simp only [composeLeg, same, totalWeight]

-- The composition

section

variable {basket : List BasketLegInput} {usdPerLocal : String → Option ℚ} {usdNotionalPerAcbu : ℚ}

theorem mem_pricedLegs {b : BasketLegInput}
    : b ∈ pricedLegs basket usdPerLocal
      ↔ b ∈ basket ∧ 0 < b.weight ∧ ∃ r, usdPerLocal b.currency = some r ∧ 0 < r := by
  rw [pricedLegs, List.mem_filter, decide_eq_true_eq]
  cases usdPerLocal b.currency <;> simp

theorem composeOneAcbu_cases
    : (pricedLegs basket usdPerLocal = []
        ∧ composeOneAcbuFromWeightsAndUsdRates basket usdPerLocal usdNotionalPerAcbu = none)
      ∨ (0 < totalWeight (pricedLegs basket usdPerLocal)
        ∧ composeOneAcbuFromWeightsAndUsdRates basket usdPerLocal usdNotionalPerAcbu = some
          { usdNotionalPerAcbu
            legs := (pricedLegs basket usdPerLocal).map (composeLeg usdPerLocal usdNotionalPerAcbu
              (totalWeight (pricedLegs basket usdPerLocal))) }) := by
  unfold composeOneAcbuFromWeightsAndUsdRates
  by_cases empty : pricedLegs basket usdPerLocal = []
  · exact .inl ⟨empty, if_pos (by simp [empty])⟩
  · have positive := totalWeight_pos (fun b priced => (mem_pricedLegs.mp priced).2.1) empty
    refine .inr ⟨positive, ?_⟩
    rw [if_neg (by simpa using empty)]
    exact if_neg (not_le.mpr positive)

/-- The laws of a composition worth `usdNotionalPerAcbu` whose legs are the rows `priced`. -/
structure Composes (usdPerLocal : String → Option ℚ) (usdNotionalPerAcbu : ℚ)
    (priced : List BasketLegInput)
    (one : SyntheticBasketOneAcbu) : Prop where
  notional : one.usdNotionalPerAcbu = usdNotionalPerAcbu
  rows : one.legs.map (fun leg => ⟨leg.currency, leg.weightPercent⟩) = priced
  rates : ∀ leg ∈ one.legs, usdPerLocal leg.currency = some leg.usdPerLocal
  fractions_pos : ∀ leg ∈ one.legs, 0 < leg.effectiveValueFraction
  proportional : ∀ a ∈ one.legs, ∀ b ∈ one.legs,
    a.effectiveValueFraction * b.weightPercent = b.effectiveValueFraction * a.weightPercent
  fractions_sum : (one.legs.map (·.effectiveValueFraction)).sum = 1
  amounts : ∀ leg ∈ one.legs,
    leg.localPerOneAcbu * leg.usdPerLocal = usdNotionalPerAcbu * leg.effectiveValueFraction
  values_sum : (one.legs.map (·.usdValueInLeg)).sum = usdNotionalPerAcbu

theorem sum_fractions {rows : List BasketLegInput} (positive : 0 < totalWeight rows)
    : (rows.map (fun b => b.weight / totalWeight rows)).sum = 1 := by
  simp only [div_eq_mul_inv]
  rw [List.sum_map_mul_right]
  exact mul_inv_cancel₀ positive.ne'

/-- Nothing is composed exactly when no row has both a weight and a rate. Otherwise the legs are the
rows that have, with fractions proportional to their weights.
-/
theorem composeOneAcbu_composes (basket : List BasketLegInput) (usdPerLocal : String → Option ℚ)
    (usdNotionalPerAcbu : ℚ)
    : (composeOneAcbuFromWeightsAndUsdRates basket usdPerLocal usdNotionalPerAcbu = none
        ↔ ¬ ∃ b ∈ basket, 0 < b.weight ∧ ∃ r, usdPerLocal b.currency = some r ∧ 0 < r)
      ∧ ∀ one, composeOneAcbuFromWeightsAndUsdRates basket usdPerLocal usdNotionalPerAcbu
        = some one →
          Composes usdPerLocal usdNotionalPerAcbu (pricedLegs basket usdPerLocal) one := by
  rcases @composeOneAcbu_cases basket usdPerLocal usdNotionalPerAcbu with
    ⟨empty, none⟩ | ⟨positive, composed⟩
  · refine ⟨iff_of_true none ?_, fun one composed => ?_⟩
    · rintro ⟨b, member, priced⟩
      exact List.not_mem_nil (empty ▸ mem_pricedLegs.mpr ⟨member, priced⟩)
    · cases none.symm.trans composed
  · have priced : ∀ b ∈ pricedLegs basket usdPerLocal,
        0 < b.weight ∧ usdPerLocal b.currency = some ((usdPerLocal b.currency).getD 0)
        ∧ (usdPerLocal b.currency).getD 0 ≠ 0 := by
      intro b member
      obtain ⟨-, weight, r, rate, positive⟩ := mem_pricedLegs.mp member
      rw [rate]
      exact ⟨weight, rfl, positive.ne'⟩
    have sum : ∀ V : ℚ, ((pricedLegs basket usdPerLocal).map
        (fun b => V * (b.weight / totalWeight (pricedLegs basket usdPerLocal)))).sum = V := by
      intro V
      rw [List.sum_map_mul_left, sum_fractions positive, mul_one]
    rw [composed]
    refine ⟨iff_of_false (by simp) fun absent => ?_, fun one same => ?_⟩
    · have empty : pricedLegs basket usdPerLocal = [] :=
        List.eq_nil_iff_forall_not_mem.mpr fun b member =>
          absent ⟨b, (mem_pricedLegs.mp member).1, (mem_pricedLegs.mp member).2⟩
      rw [empty] at positive
      exact lt_irrefl 0 positive
    · obtain rfl := Option.some.inj same
      refine ⟨rfl, ?_, ?_, ?_, ?_, ?_, ?_, ?_⟩
      · rw [List.map_map]
        exact List.map_id _
      · rw [List.forall_mem_map]
        exact fun b member => (priced b member).2.1
      · rw [List.forall_mem_map]
        exact fun b member => div_pos (priced b member).1 positive
      · simp only [List.forall_mem_map]
        intro a _ b _
        simp only [composeLeg]
        ring
      · rw [List.map_map]
        exact sum_fractions positive
      · rw [List.forall_mem_map]
        exact fun b member => div_mul_cancel₀ _ (priced b member).2.2
      · rw [List.map_map]
        exact sum usdNotionalPerAcbu

end

end AcbuBackend.Rates

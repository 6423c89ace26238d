import AcbuBackend.Runtime.Text
import Mathlib.Algebra.BigOperators.Group.List.Basic
import Mathlib.Tactic.Linarith
import Mathlib.Tactic.Positivity

/-! The interest on reserves at partners, and which of it is revenue.
Decimals are exact rationals.
-/

namespace AcbuBackend.Treasury

open AcbuBackend.Runtime

-- The interest of a partner

structure PartnerSegregatedReserve where
  partnerId : String
  reserveAmountUsd : ℚ
  hasContractualEntitlement : Bool
  partnerRetentionBps : JsNumber
  protocolShareBps : JsNumber
  annualYieldRateBps : ℚ

structure PartnerFloatYield where
  grossInterestUsd : ℚ
  protocolYieldUsd : ℚ
  partnerYieldUsd : ℚ

structure RangeError where
  message : String

def invalidSplit (partnerId : String) : RangeError where
  message :=
    s!"Invalid PRIA split for partner {partnerId}: " ++
      "partnerRetentionBps must be 2000..3000, protocolShareBps must be 7000..8000, " ++
      "and their sum must equal 10000"

def calculatePartnerFloatYield (reserve : PartnerSegregatedReserve)
    : Except RangeError PartnerFloatYield :=
  let yieldRate := reserve.annualYieldRateBps / 10000
  let grossInterestUsd := reserve.reserveAmountUsd * yieldRate
  if !reserve.hasContractualEntitlement then
    .ok { grossInterestUsd, protocolYieldUsd := 0, partnerYieldUsd := grossInterestUsd }
  else
    match reserve.partnerRetentionBps, reserve.protocolShareBps with
    | .finite partnerRetentionBps, .finite protocolShareBps =>
        if partnerRetentionBps < 2000 ∨ 3000 < partnerRetentionBps
            ∨ protocolShareBps < 7000 ∨ 8000 < protocolShareBps
            ∨ partnerRetentionBps + protocolShareBps ≠ 10000 then
          .error (invalidSplit reserve.partnerId)
        else
          let protocolShare := protocolShareBps / 10000
          let protocolYieldUsd := grossInterestUsd * protocolShare
          .ok {
            grossInterestUsd
            protocolYieldUsd
            partnerYieldUsd := grossInterestUsd - protocolYieldUsd
          }
    | _, _ => .error (invalidSplit reserve.partnerId)

-- Projections

inductive FloatInterestMode
  | conservative
  | contractual

/-- Whether a mode, or the flag in its place, is the conservative one. -/
def isConservative : FloatInterestMode ⊕ Bool → Bool
  | .inl .conservative | .inr true => true
  | .inl .contractual | .inr false => false

structure RevenueProjectionInputs where
  annualizedVolumeUsd : ℚ
  blendedTakeRateBps : ℚ
  investmentSavingsYieldUsd : ℚ
  partnerReserves : List PartnerSegregatedReserve

structure RevenueProjectionResult where
  transactionFeeRevenueUsd : ℚ
  investmentSavingsYieldUsd : ℚ
  recognizedFloatInterestUsd : ℚ
  grossPartnerFloatInterestUsd : ℚ
  partnerRetainedInterestUsd : ℚ
  totalProtocolRevenueUsd : ℚ
  isConservativeBaseline : Bool

/-- The sums that the loop over the reserves keeps. -/
structure FloatTotals where
  grossPartnerFloatInterestUsd : ℚ := 0
  recognizedFloatInterestUsd : ℚ := 0
  partnerRetainedInterestUsd : ℚ := 0

def FloatTotals.add (conservative : Bool) (totals : FloatTotals) (interest : PartnerFloatYield)
    : FloatTotals :=
  let grossPartnerFloatInterestUsd :=
    totals.grossPartnerFloatInterestUsd + interest.grossInterestUsd
  if conservative then
    { totals with
      grossPartnerFloatInterestUsd
      partnerRetainedInterestUsd := totals.partnerRetainedInterestUsd + interest.grossInterestUsd }
  else
    { grossPartnerFloatInterestUsd
      recognizedFloatInterestUsd := totals.recognizedFloatInterestUsd + interest.protocolYieldUsd
      partnerRetainedInterestUsd :=
        totals.partnerRetainedInterestUsd + interest.partnerYieldUsd }

def sumFloat (conservative : Bool) (reserves : List PartnerSegregatedReserve) (totals : FloatTotals)
    : Except RangeError FloatTotals :=
  reserves.foldlM
    (fun totals reserve => do return totals.add conservative (← calculatePartnerFloatYield reserve))
    totals

def calculateRevenueProjection (inputs : RevenueProjectionInputs)
    (floatInterestMode : FloatInterestMode ⊕ Bool := .inl .conservative)
    : Except RangeError RevenueProjectionResult := do
  let isConservative := isConservative floatInterestMode
  let takeRate := inputs.blendedTakeRateBps / 10000
  let transactionFeeRevenueUsd := inputs.annualizedVolumeUsd * takeRate
  let totals ← sumFloat isConservative inputs.partnerReserves {}
  let totalProtocolRevenueUsd :=
    transactionFeeRevenueUsd + inputs.investmentSavingsYieldUsd + totals.recognizedFloatInterestUsd
  return {
    transactionFeeRevenueUsd
    investmentSavingsYieldUsd := inputs.investmentSavingsYieldUsd
    recognizedFloatInterestUsd := totals.recognizedFloatInterestUsd
    grossPartnerFloatInterestUsd := totals.grossPartnerFloatInterestUsd
    partnerRetainedInterestUsd := totals.partnerRetainedInterestUsd
    totalProtocolRevenueUsd
    isConservativeBaseline := isConservative || totals.recognizedFloatInterestUsd = 0
  }

-- Breakeven

structure BreakevenAnalysisInputs where
  annualOperatingExpensesUsd : ℚ
  blendedTakeRateBps : JsNumber
  confirmedFloatInterestUsd : Option ℚ := none
  investmentSavingsYieldUsd : Option ℚ := none

structure BreakevenAnalysisResult where
  annualOperatingExpensesUsd : ℚ
  confirmedFloatInterestUsd : ℚ
  investmentSavingsYieldUsd : ℚ
  netRevenueRequiredFromVolumeUsd : ℚ
  requiredAnnualVolumeUsd : ℚ
  blendedTakeRateBps : ℚ

def invalidTakeRate : RangeError where
  message := "blendedTakeRateBps must be a positive number"

def calculateBreakevenVolume (inputs : BreakevenAnalysisInputs)
    : Except RangeError BreakevenAnalysisResult :=
  let confirmedFloatInterest := inputs.confirmedFloatInterestUsd.getD 0
  let investmentYield := inputs.investmentSavingsYieldUsd.getD 0
  let otherRevenue := confirmedFloatInterest + investmentYield
  let netRevenueRequired := max 0 (inputs.annualOperatingExpensesUsd - otherRevenue)
  match inputs.blendedTakeRateBps with
  | .finite blendedTakeRateBps =>
      let takeRate := blendedTakeRateBps / 10000
      if takeRate ≤ 0 then .error invalidTakeRate
      else
        .ok {
          annualOperatingExpensesUsd := inputs.annualOperatingExpensesUsd
          confirmedFloatInterestUsd := confirmedFloatInterest
          investmentSavingsYieldUsd := investmentYield
          netRevenueRequiredFromVolumeUsd := netRevenueRequired
          requiredAnnualVolumeUsd := netRevenueRequired / takeRate
          blendedTakeRateBps
        }
  | _ => .error invalidTakeRate

-- What is recognised

namespace PartnerSegregatedReserve

/-- The bounds of the split of an entitled reserve, and the signs of all reserves. -/
structure Admissible (reserve : PartnerSegregatedReserve) : Prop where
  amount : 0 ≤ reserve.reserveAmountUsd
  rate : 0 ≤ reserve.annualYieldRateBps
  split : reserve.hasContractualEntitlement = true →
    ∃ retention share : ℚ,
      reserve.partnerRetentionBps = .finite retention
      ∧ reserve.protocolShareBps = .finite share
      ∧ 2000 ≤ retention ∧ retention ≤ 3000
      ∧ 7000 ≤ share ∧ share ≤ 8000
      ∧ retention + share = 10000

def grossInterestUsd (reserve : PartnerSegregatedReserve) : ℚ :=
  reserve.reserveAmountUsd * (reserve.annualYieldRateBps / 10000)

/-- The part of the interest that the protocol is entitled to. -/
def entitledShare (reserve : PartnerSegregatedReserve) : ℚ :=
  match reserve.hasContractualEntitlement, reserve.protocolShareBps with
  | true, .finite share => share / 10000
  | _, _ => 0

def protocolYieldUsd (reserve : PartnerSegregatedReserve) : ℚ :=
  reserve.grossInterestUsd * reserve.entitledShare

def floatYield (reserve : PartnerSegregatedReserve) : PartnerFloatYield where
  grossInterestUsd := reserve.grossInterestUsd
  protocolYieldUsd := reserve.protocolYieldUsd
  partnerYieldUsd := reserve.grossInterestUsd - reserve.protocolYieldUsd

variable {reserve : PartnerSegregatedReserve}

theorem protocolYieldUsd_of_unentitled (unentitled : reserve.hasContractualEntitlement = false)
    : reserve.protocolYieldUsd = 0 := by
  rw [protocolYieldUsd, entitledShare, unentitled, mul_zero]

theorem Admissible.calculates (admissible : reserve.Admissible)
    : calculatePartnerFloatYield reserve = .ok reserve.floatYield := by
  cases entitled : reserve.hasContractualEntitlement with
  | false =>
      rw [floatYield, protocolYieldUsd_of_unentitled entitled, sub_zero,
        calculatePartnerFloatYield, entitled]
      rfl
  | true =>
      obtain ⟨retention, share, left, right, lower, upper, lower', upper', whole⟩ :=
        admissible.split entitled
      have accepted : ¬ (retention < 2000 ∨ 3000 < retention ∨ share < 7000 ∨ 8000 < share
          ∨ retention + share ≠ 10000) := by
        simp only [not_or, not_lt, not_not]
        exact ⟨lower, upper, lower', upper', whole⟩
      simp only [calculatePartnerFloatYield, entitled, left, right, if_neg accepted, floatYield,
        protocolYieldUsd, entitledShare]
      rfl

theorem Admissible.protocolYieldUsd_nonneg (admissible : reserve.Admissible)
    : 0 ≤ reserve.protocolYieldUsd := by
  cases entitled : reserve.hasContractualEntitlement with
  | false => exact (protocolYieldUsd_of_unentitled entitled).ge
  | true =>
      obtain ⟨_, share, _, right, _, _, lower, _⟩ := admissible.split entitled
      have gross : 0 ≤ reserve.grossInterestUsd :=
        mul_nonneg admissible.amount (div_nonneg admissible.rate (by norm_num))
      rw [protocolYieldUsd, entitledShare, entitled, right]
      exact mul_nonneg gross (div_nonneg (by linarith) (by norm_num))

end PartnerSegregatedReserve

section

variable {reserves : List PartnerSegregatedReserve}

def sumOf (amount : PartnerSegregatedReserve → ℚ) (reserves : List PartnerSegregatedReserve) : ℚ :=
  (reserves.map amount).sum

open PartnerSegregatedReserve

theorem sumFloat_eq {conservative : Bool} (totals : FloatTotals)
    (admissible : ∀ reserve ∈ reserves, reserve.Admissible)
    : sumFloat conservative reserves totals = .ok {
        grossPartnerFloatInterestUsd :=
          totals.grossPartnerFloatInterestUsd + sumOf grossInterestUsd reserves
        recognizedFloatInterestUsd := totals.recognizedFloatInterestUsd
          + if conservative then 0 else sumOf protocolYieldUsd reserves
        partnerRetainedInterestUsd := totals.partnerRetainedInterestUsd
          + if conservative then sumOf grossInterestUsd reserves
            else sumOf grossInterestUsd reserves - sumOf protocolYieldUsd reserves } := by
  induction reserves generalizing totals with
  | nil => cases conservative <;> simp [sumFloat, sumOf] <;> rfl
  | cons reserve reserves ih =>
      have first := (admissible reserve List.mem_cons_self).calculates
      have rest := ih (totals.add conservative reserve.floatYield)
        fun r member => admissible r (List.mem_cons_of_mem _ member)
      have step : sumFloat conservative (reserve :: reserves) totals
          = sumFloat conservative reserves (totals.add conservative reserve.floatYield) := by
        rw [sumFloat, List.foldlM_cons, first]
        rfl
      rw [step, rest]
      cases conservative with
      | true => simp [FloatTotals.add, sumOf, floatYield, add_assoc]
      | false =>
          simp only [FloatTotals.add, sumOf, floatYield, List.map_cons, List.sum_cons, add_assoc,
            Bool.false_eq_true, if_false, Except.ok.injEq, FloatTotals.mk.injEq, true_and]
          ring

theorem sumOf_protocolYieldUsd_entitled
    : sumOf protocolYieldUsd (reserves.filter (·.hasContractualEntitlement))
      = sumOf protocolYieldUsd reserves := by
  induction reserves with
  | nil => rfl
  | cons reserve reserves ih =>
      cases entitled : reserve.hasContractualEntitlement with
      | true =>
          rw [List.filter_cons_of_pos entitled]
          exact congrArg (reserve.protocolYieldUsd + ·) ih
      | false =>
          rw [List.filter_cons_of_neg (by simp [entitled]), ih]
          have nothing := protocolYieldUsd_of_unentitled entitled
          exact (by simp [sumOf, nothing])

theorem sumOf_protocolYieldUsd_nonneg (admissible : ∀ reserve ∈ reserves, reserve.Admissible)
    : 0 ≤ sumOf protocolYieldUsd reserves := by
  refine List.sum_nonneg fun amount member => ?_
  obtain ⟨reserve, inReserves, rfl⟩ := List.mem_map.mp member
  exact (admissible reserve inReserves).protocolYieldUsd_nonneg

end

section

variable {inputs : RevenueProjectionInputs}

def RevenueProjectionInputs.recognized (inputs : RevenueProjectionInputs)
    (mode : FloatInterestMode ⊕ Bool)
    : ℚ :=
  if isConservative mode then 0
  else sumOf PartnerSegregatedReserve.protocolYieldUsd inputs.partnerReserves

theorem calculateRevenueProjection_eq (mode : FloatInterestMode ⊕ Bool)
    (admissible : ∀ reserve ∈ inputs.partnerReserves, reserve.Admissible)
    : ∃ result, calculateRevenueProjection inputs mode = .ok result
        ∧ result.transactionFeeRevenueUsd
          = inputs.annualizedVolumeUsd * (inputs.blendedTakeRateBps / 10000)
        ∧ result.recognizedFloatInterestUsd = inputs.recognized mode
        ∧ result.grossPartnerFloatInterestUsd
          = sumOf PartnerSegregatedReserve.grossInterestUsd inputs.partnerReserves
        ∧ result.recognizedFloatInterestUsd + result.partnerRetainedInterestUsd
          = result.grossPartnerFloatInterestUsd
        ∧ result.totalProtocolRevenueUsd
          = inputs.annualizedVolumeUsd * (inputs.blendedTakeRateBps / 10000)
            + inputs.investmentSavingsYieldUsd + inputs.recognized mode := by
  have summed := @sumFloat_eq _ (isConservative mode) {} admissible
  unfold calculateRevenueProjection
  dsimp only
  rw [summed]
  refine ⟨_, rfl, rfl, zero_add _, zero_add _, ?_, ?_⟩
  · cases isConservative mode <;> simp
  · simp [RevenueProjectionInputs.recognized]

/-- What the projections of `inputs` recognise in the two modes. -/
structure FloatInterestAccounted (inputs : RevenueProjectionInputs) : Prop where
  conserved : ∀ mode, ∃ result, calculateRevenueProjection inputs mode = .ok result
    ∧ result.grossPartnerFloatInterestUsd
      = sumOf PartnerSegregatedReserve.grossInterestUsd inputs.partnerReserves
    ∧ result.recognizedFloatInterestUsd + result.partnerRetainedInterestUsd
      = result.grossPartnerFloatInterestUsd
  unentitled : ∀ reserve ∈ inputs.partnerReserves, reserve.hasContractualEntitlement = false →
    ∃ interest, calculatePartnerFloatYield reserve = .ok interest ∧ interest.protocolYieldUsd = 0
  /-- The reserves without entitlement might as well not be there. -/
  entitled : ∀ mode, ∃ result entitled, calculateRevenueProjection inputs mode = .ok result
    ∧ calculateRevenueProjection { inputs with
        partnerReserves := inputs.partnerReserves.filter (·.hasContractualEntitlement) } mode
      = .ok entitled
    ∧ result.recognizedFloatInterestUsd = entitled.recognizedFloatInterestUsd
  conservative : ∀ mode, isConservative mode = true →
    ∃ result, calculateRevenueProjection inputs mode = .ok result
      ∧ result.recognizedFloatInterestUsd = 0
  ordered : ∀ mode upside, isConservative mode = true → isConservative upside = false →
    ∃ baseline best, calculateRevenueProjection inputs mode = .ok baseline
      ∧ calculateRevenueProjection inputs upside = .ok best
      ∧ baseline.totalProtocolRevenueUsd ≤ best.totalProtocolRevenueUsd

theorem floatInterest_accounted
    (admissible : ∀ reserve ∈ inputs.partnerReserves, reserve.Admissible)
    : FloatInterestAccounted inputs where
  conserved mode := by
    obtain ⟨result, projected, _, _, gross, whole, _⟩ :=
      calculateRevenueProjection_eq mode admissible
    exact ⟨result, projected, gross, whole⟩
  unentitled reserve member unentitled :=
    ⟨_, (admissible reserve member).calculates,
      PartnerSegregatedReserve.protocolYieldUsd_of_unentitled unentitled⟩
  entitled mode := by
    obtain ⟨result, projected, _, recognized, _⟩ := calculateRevenueProjection_eq mode admissible
    have remaining : ∀ reserve ∈ inputs.partnerReserves.filter (·.hasContractualEntitlement),
        reserve.Admissible :=
      fun reserve member => admissible reserve (List.mem_of_mem_filter member)
    obtain ⟨entitled, projected', _, recognized', _⟩ :=
      @calculateRevenueProjection_eq { inputs with
        partnerReserves := inputs.partnerReserves.filter (·.hasContractualEntitlement) } mode
        remaining
    refine ⟨result, entitled, projected, projected', ?_⟩
    rw [recognized, recognized', RevenueProjectionInputs.recognized,
      RevenueProjectionInputs.recognized, sumOf_protocolYieldUsd_entitled]
  conservative mode conservative := by
    obtain ⟨result, projected, _, recognized, _⟩ := calculateRevenueProjection_eq mode admissible
    rw [RevenueProjectionInputs.recognized, if_pos conservative] at recognized
    exact ⟨result, projected, recognized⟩
  ordered mode upside conservative contractual := by
    obtain ⟨baseline, projected, _, _, _, _, total⟩ :=
      calculateRevenueProjection_eq mode admissible
    obtain ⟨best, projected', _, _, _, _, total'⟩ :=
      calculateRevenueProjection_eq upside admissible
    refine ⟨baseline, best, projected, projected', ?_⟩
    rw [total, total', RevenueProjectionInputs.recognized, if_pos conservative,
      RevenueProjectionInputs.recognized, contractual]
    have nonneg := sumOf_protocolYieldUsd_nonneg admissible
    simpa using nonneg

end

-- Breaking even

/-- The revenue besides the fees. -/
def BreakevenAnalysisInputs.otherRevenueUsd (expenses : BreakevenAnalysisInputs) : ℚ :=
  expenses.confirmedFloatInterestUsd.getD 0 + expenses.investmentSavingsYieldUsd.getD 0

def RevenueProjectionInputs.atVolume (inputs : RevenueProjectionInputs)
    (analysis : BreakevenAnalysisResult)
    : RevenueProjectionInputs :=
  { inputs with
    annualizedVolumeUsd := analysis.requiredAnnualVolumeUsd
    blendedTakeRateBps := analysis.blendedTakeRateBps }

theorem calculateBreakevenVolume_eq {expenses : BreakevenAnalysisInputs} {bps : ℚ}
    (rate : expenses.blendedTakeRateBps = .finite bps) (positive : 0 < bps)
    : ∃ analysis, calculateBreakevenVolume expenses = .ok analysis
        ∧ analysis.requiredAnnualVolumeUsd * (analysis.blendedTakeRateBps / 10000)
          = max 0 (expenses.annualOperatingExpensesUsd - expenses.otherRevenueUsd) := by
  have takeRate : 0 < bps / 10000 := by positivity
  unfold calculateBreakevenVolume
  rw [rate]
  dsimp only
  rw [if_neg takeRate.not_ge]
  exact ⟨_, rfl, div_mul_cancel₀ _ takeRate.ne'⟩

/-- What the protocol recognises of the interest of its partners is split off the gross interest.
The break-even volume earns fees that cover the expenses together with the other revenue, and no
more than cover them as long as that revenue does not exceed them by itself.
-/
theorem floatRevenue_accounted {inputs : RevenueProjectionInputs}
    {expenses : BreakevenAnalysisInputs} {bps : ℚ}
    (admissible : ∀ reserve ∈ inputs.partnerReserves, reserve.Admissible)
    (rate : expenses.blendedTakeRateBps = .finite bps) (positive : 0 < bps)
    : FloatInterestAccounted inputs
      ∧ ∃ analysis, calculateBreakevenVolume expenses = .ok analysis
        ∧ ∀ mode, ∃ result,
          calculateRevenueProjection (inputs.atVolume analysis) mode = .ok result
            ∧ expenses.annualOperatingExpensesUsd
              ≤ result.transactionFeeRevenueUsd + expenses.otherRevenueUsd
            ∧ (result.transactionFeeRevenueUsd + expenses.otherRevenueUsd
                = expenses.annualOperatingExpensesUsd
              ↔ expenses.otherRevenueUsd ≤ expenses.annualOperatingExpensesUsd) := by
  obtain ⟨analysis, analysed, earned⟩ := calculateBreakevenVolume_eq rate positive
  refine ⟨floatInterest_accounted admissible, analysis, analysed, fun mode => ?_⟩
  obtain ⟨result, projected, fees, _⟩ :=
    @calculateRevenueProjection_eq (inputs.atVolume analysis) mode admissible
  refine ⟨result, projected, ?_⟩
  rw [fees]
  change _ ≤ analysis.requiredAnnualVolumeUsd * (analysis.blendedTakeRateBps / 10000) + _
    ∧ (analysis.requiredAnnualVolumeUsd * (analysis.blendedTakeRateBps / 10000) + _ = _ ↔ _)
  rw [earned, ← sub_le_iff_le_add]
  refine ⟨le_max_right _ _, ?_⟩
  rw [← eq_sub_iff_add_eq, max_eq_right_iff, sub_nonneg]

def sampleInputs : RevenueProjectionInputs where
  annualizedVolumeUsd := 100000000
  blendedTakeRateBps := 95
  investmentSavingsYieldUsd := 50000
  partnerReserves := [
    { partnerId := "partner-ngn-01"
      reserveAmountUsd := 15000000
      hasContractualEntitlement := false
      partnerRetentionBps := .finite 2500
      protocolShareBps := .finite 7500
      annualYieldRateBps := 1000 },
    { partnerId := "partner-kes-01"
      reserveAmountUsd := 20000000
      hasContractualEntitlement := true
      partnerRetentionBps := .finite 2000
      protocolShareBps := .finite 8000
      annualYieldRateBps := 900 }]

def sampleExpenses : BreakevenAnalysisInputs where
  annualOperatingExpensesUsd := 4200000
  blendedTakeRateBps := .finite 95

theorem sampleInputs_admissible
    : ∀ reserve ∈ sampleInputs.partnerReserves, reserve.Admissible := by
  simp only [sampleInputs, List.forall_mem_cons, List.not_mem_nil, false_imp_iff, implies_true,
    and_true]
  refine ⟨⟨by norm_num, by norm_num, fun entitled => ?_⟩, ⟨by norm_num, by norm_num, fun _ => ?_⟩⟩
  · cases entitled
  · exact ⟨2000, 8000, rfl, rfl, by norm_num⟩

theorem floatRevenue_accounted_sample
    : FloatInterestAccounted sampleInputs
      ∧ ∃ analysis, calculateBreakevenVolume sampleExpenses = .ok analysis
        ∧ ∀ mode, ∃ result,
          calculateRevenueProjection (sampleInputs.atVolume analysis) mode = .ok result
            ∧ sampleExpenses.annualOperatingExpensesUsd
              ≤ result.transactionFeeRevenueUsd + sampleExpenses.otherRevenueUsd
            ∧ (result.transactionFeeRevenueUsd + sampleExpenses.otherRevenueUsd
                = sampleExpenses.annualOperatingExpensesUsd
              ↔ sampleExpenses.otherRevenueUsd ≤ sampleExpenses.annualOperatingExpensesUsd) :=
  floatRevenue_accounted sampleInputs_admissible rfl (by norm_num)

end AcbuBackend.Treasury

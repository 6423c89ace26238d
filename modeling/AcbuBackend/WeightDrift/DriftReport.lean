import AcbuBackend.Reserves.ReserveTracker
import AcbuBackend.Runtime.JsMap
import AcbuBackend.Runtime.Text
import AcbuBackend.WeightDrift.WeightDriftAuditService

/-! `calculateDriftReport`, of the basket and the reserve statuses that its calls answer.
It adds up decimals with `+`, which concatenates their texts, and it passes the drift of an entry
to `generateRecommendation` in the place of the actual weight. So it throws for every basket with
an entry.
-/

namespace AcbuBackend.WeightDrift

open Reserves AcbuBackend.Runtime

def DRIFT_THRESHOLD_PCT : ℚ := 2

/-- How decimals are written: `valueOf` and `toString` are one text. -/
structure DecimalTexts where
  decimalText : ℚ → String
  toFixed : ℚ → Nat → String

/-- The report with the exact values that are kept for the database. -/
structure CalculatedReport extends WeightDriftReport where
  decimalEntries : List (String × String × String)
  decimalMaxDriftPercent : String

-- The sum of the policy weights

/-- `Math.abs(sum - 100) > 0.1`, which is false of `NaN`. -/
def isOffHundred : JsNumber → Bool
  | .nan => false
  | .infinity _ => true
  | .finite value => 1 / 10 < |value - 100|

/-- The check of the policy weights. The sum of none is the number 0; the sum of some is a text,
which has no `toFixed`.
-/
def checkPolicySum (texts : DecimalTexts) : List ℚ → Except JsError Unit
  | [] => .error (.error ("Basket weights must sum to 100%, "
      ++ s!"but sum to {texts.toFixed 0 2}%. Cannot compute meaningful drift."))
  | weights =>
      let policySum := weights.foldl (fun sum w => sum ++ texts.decimalText w) "0"
      if isOffHundred (jsNumber policySum)
      then .error (.error "policySum.toFixed is not a function")
      else .ok ()

-- The entries

/-- `generateRecommendation`. `none` stands for a drift that is not passed. -/
def generateRecommendation (texts : DecimalTexts) (currency : String)
    (policyWeight _actualWeight : ℚ) (driftPercent : Option ℚ)
    : Except JsError String :=
  match driftPercent with
  | none => .error (.error "[DecimalError] Invalid argument: undefined")
  | some drift =>
      if |drift| ≤ 1 / 2 then .ok "Within acceptable range. No action required."
      else if 0 < drift then
        .ok (s!"Overweight by {texts.toFixed drift 2}%. "
          ++ s!"Consider reducing {currency} position by "
          ++ s!"~{texts.toFixed |drift| 1}% "
          ++ s!"to realign with {texts.decimalText policyWeight}% target.")
      else
        .ok (s!"Underweight by {texts.toFixed |drift| 2}%. "
          ++ s!"Consider increasing {currency} position by "
          ++ s!"~{texts.toFixed |drift| 1}% to reach {texts.decimalText policyWeight}% target.")

def driftEntry (texts : DecimalTexts) (actualWeights : JsMap String ℚ) (currency : String)
    (policyWeight : ℚ)
    : Except JsError WeightDriftEntry := do
  let actualWeight := (actualWeights.get currency).getD 0
  let driftPercent := actualWeight - policyWeight
  let recommendation ← generateRecommendation texts currency policyWeight driftPercent none
  return {
    currency
    policyWeight
    actualWeight
    driftPercent
    exceedsThreshold := DRIFT_THRESHOLD_PCT < |driftPercent|
    recommendation }

/-- A week in milliseconds. -/
def AUDIT_PERIOD : ℤ := 7 * 86400000

/-- `calculateDriftReport`, at a time. -/
def calculateDriftReport (texts : DecimalTexts) (policyBasket : List BasketEntry)
    (currencies : List ReserveStatus) (now : ℤ)
    : Except JsError CalculatedReport := do
  let policyWeights := JsMap.ofEntries (policyBasket.map (fun e => (e.currency, e.weight)))
  checkPolicySum texts policyWeights.values
  let actualWeights := JsMap.ofEntries (currencies.map (fun c => (c.currency, c.actualWeight)))
  let allCurrencies := (policyWeights.keys ++ actualWeights.keys).dedup
  let entries ← policyWeights.entries.mapM (fun e => driftEntry texts actualWeights e.1 e.2)
  let maxDrift := entries.foldl (fun maxDrift entry => max maxDrift |entry.driftPercent|) 0
  return {
    auditId := ""
    auditPeriodStart := now - AUDIT_PERIOD
    auditPeriodEnd := now
    totalCurrencies := allCurrencies.length
    currenciesExceedingThreshold := entries.countP (·.exceedsThreshold)
    maxDriftPercent := maxDrift
    entries
    status := .pending
    decimalEntries := entries.map (fun entry => (texts.decimalText entry.policyWeight,
      texts.decimalText entry.actualWeight, texts.decimalText entry.driftPercent))
    decimalMaxDriftPercent := texts.decimalText maxDrift }

-- No report

/-- What a report should say of a policy and of the actual weights. -/
structure Reports (policyBasket : List BasketEntry) (currencies : List ReserveStatus)
    (report : CalculatedReport) : Prop where
  once : (report.entries.map (·.currency)).Nodup
  union : ∀ currency, currency ∈ report.entries.map (·.currency)
    ↔ currency ∈ policyBasket.map (·.currency) ∨ currency ∈ currencies.map (·.currency)
  total : report.totalCurrencies = report.entries.length
  exceeding : report.currenciesExceedingThreshold
    = report.entries.countP (fun entry => DRIFT_THRESHOLD_PCT < |entry.driftPercent|)
  max_mem : ∃ entry ∈ report.entries, |entry.driftPercent| = report.maxDriftPercent
  max_le : ∀ entry ∈ report.entries, |entry.driftPercent| ≤ report.maxDriftPercent

section

variable {texts : DecimalTexts} {actualWeights : JsMap String ℚ}

theorem driftEntry_throws (currency : String) (policyWeight : ℚ)
    : driftEntry texts actualWeights currency policyWeight
      = .error (.error "[DecimalError] Invalid argument: undefined") :=
  rfl

theorem policyWeights_ne_nil {policyBasket : List BasketEntry} (some : policyBasket ≠ [])
    : (JsMap.ofEntries (policyBasket.map (fun e => (e.currency, e.weight)))).entries ≠ [] := by
  rcases List.eq_nil_or_concat policyBasket with rfl | ⟨init, last, rfl⟩
  · exact absurd rfl some
  · rw [List.concat_eq_append, List.map_append, JsMap.ofEntries, List.foldl_append]
    exact JsMap.entries_set_ne_nil

/-- No report is calculated of a policy whose weights sum to all. -/
theorem calculateDriftReport_throws (texts : DecimalTexts) (policyBasket : List BasketEntry)
    (currencies : List ReserveStatus) (now : ℤ)
    (sum : (policyBasket.map (·.weight)).sum = 100)
    : (∃ error, calculateDriftReport texts policyBasket currencies now = .error error)
      ∧ ¬ ∃ report, calculateDriftReport texts policyBasket currencies now = .ok report
          ∧ Reports policyBasket currencies report := by
  have throws : ∃ error, calculateDriftReport texts policyBasket currencies now = .error error := by
    have some : policyBasket ≠ [] := by
      rintro rfl
      simp at sum
    unfold calculateDriftReport
    dsimp only
    cases checkPolicySum texts
      (JsMap.ofEntries (policyBasket.map fun e => (e.currency, e.weight))).values with
    | error error => exact ⟨error, rfl⟩
    | ok _ =>
        obtain ⟨first, rest, shape⟩ := List.exists_cons_of_ne_nil (policyWeights_ne_nil some)
        rw [shape, List.mapM_cons, driftEntry_throws]
        exact ⟨_, rfl⟩
  refine ⟨throws, ?_⟩
  rintro ⟨report, calculated, -⟩
  obtain ⟨error, thrown⟩ := throws
  cases thrown.symm.trans calculated

def sampleTexts : DecimalTexts where
  decimalText weight := if weight = 40 then "40" else "30"
  toFixed _ _ := "0.00"

def samplePolicy : List BasketEntry :=
  [⟨"USD", 40⟩, ⟨"NGN", 30⟩, ⟨"KES", 30⟩]

def sampleStatus (currency : String) (targetWeight actualWeight : ℚ) : ReserveStatus where
  currency := currency
  targetWeight := targetWeight
  actualWeight := actualWeight
  reserveAmount := 0
  reserveValueUsd := 0
  weightDrift := actualWeight - targetWeight

def sampleCurrencies : List ReserveStatus :=
  [sampleStatus "USD" 40 43, sampleStatus "NGN" 30 27, sampleStatus "KES" 30 30]

theorem calculateDriftReport_throws_sample
    : (∃ error, calculateDriftReport sampleTexts samplePolicy sampleCurrencies 0 = .error error)
      ∧ ¬ ∃ report,
          calculateDriftReport sampleTexts samplePolicy sampleCurrencies 0 = .ok report
          ∧ Reports samplePolicy sampleCurrencies report :=
  calculateDriftReport_throws sampleTexts samplePolicy sampleCurrencies 0 (by decide +kernel)

/-- The weights 40, 30 and 30 make the text 0403030, which is not about 100. -/
theorem three_weights_concatenated
    : (samplePolicy.map (·.weight)).sum = 100
      ∧ (calculateDriftReport sampleTexts samplePolicy sampleCurrencies 0).map (·.totalCurrencies)
        = .error (.error "policySum.toFixed is not a function") := by
  constructor
  · decide +kernel
  · decide +kernel

end

end AcbuBackend.WeightDrift

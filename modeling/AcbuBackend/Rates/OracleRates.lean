import Mathlib.Algebra.BigOperators.Ring.List
import Mathlib.Algebra.Order.BigOperators.Group.List
import Mathlib.Algebra.Order.Field.Rat
import Mathlib.Data.List.Sort
import Mathlib.Tactic.Linarith
import Mathlib.Tactic.FieldSimp
import Mathlib.Tactic.Ring

/-! The oracle rates of the currencies: how the rates of the sources are combined, and what
`fetchAndStoreRates` stores of a currency. Rates and weights are exact rationals, where the source
has doubles. Instants are milliseconds.
-/

namespace AcbuBackend.Rates

-- Combining the sources

def OUTLIER_DEVIATION : ℚ := 3 / 100
def LAYER_WEIGHT_CB : ℚ := 1 / 4
def LAYER_WEIGHT_FINTECH : ℚ := 1 / 4
def LAYER_WEIGHT_FOREX : ℚ := 1 / 4
def LAYER_WEIGHT_WORLD_BANK : ℚ := 1 / 4

/-- What the sources answer for a currency in one run. -/
structure SourceRates where
  centralBankRate : Option ℚ
  fintechRate : Option ℚ
  forexRate : Option ℚ
  worldBankRate : Option ℚ

def SourceRates.positive (s : SourceRates) : List ℚ :=
  [s.centralBankRate, s.fintechRate, s.forexRate, s.worldBankRate].filterMap
    (Option.filter (fun r => 0 < r))

def SourceRates.keep (s : SourceRates) (inlier : ℚ → Bool) : SourceRates where
  centralBankRate := s.centralBankRate.filter inlier
  fintechRate := s.fintechRate.filter inlier
  forexRate := s.forexRate.filter inlier
  worldBankRate := s.worldBankRate.filter inlier

def median (values : List ℚ) : ℚ :=
  if values.length = 0 then 0
  else
    let sorted := values.insertionSort (· ≤ ·)
    let mid := values.length / 2
    if values.length % 2 = 1 then sorted.getD mid 0
    else (sorted.getD (mid - 1) 0 + sorted.getD mid 0) / 2

def excludeOutliers (values : List ℚ) (threshold : ℚ) : List ℚ :=
  let m := median values
  values.filter (fun v => |v - m| / (if m = 0 then 1 else m) ≤ threshold)

def SourceRates.parts (s : SourceRates) : List (ℚ × ℚ) :=
  [(LAYER_WEIGHT_CB, s.centralBankRate), (LAYER_WEIGHT_FINTECH, s.fintechRate),
    (LAYER_WEIGHT_FOREX, s.forexRate), (LAYER_WEIGHT_WORLD_BANK, s.worldBankRate)].filterMap
    (fun (w, rate) => rate.map (fun v => (w, v)))

def compositeRate (s : SourceRates) : ℚ :=
  if s.parts.length = 0 then 0
  else
    let totalW := (s.parts.map Prod.fst).sum
    (s.parts.map (fun p => p.1 / totalW * p.2)).sum

/-- The composite of the sources, without the outliers among them unless all are. -/
def compositeOf (s : SourceRates) : ℚ :=
  let filtered := excludeOutliers s.positive OUTLIER_DEVIATION
  if filtered.length < s.positive.length ∧ 0 < filtered.length then
    compositeRate (s.keep (fun r => filtered.contains r))
  else compositeRate s

structure RateDeviationAssessment where
  deviation : Option ℚ
  reviewRequired : Bool

def assessRateDeviation (previousRate : Option ℚ) (newRate maxDeviation : ℚ)
    : RateDeviationAssessment :=
  match previousRate with
  | none => { deviation := none, reviewRequired := false }
  | some previousRate =>
      if previousRate ≤ 0 then { deviation := none, reviewRequired := false }
      else
        let deviation := |newRate - previousRate| / previousRate
        { deviation := some deviation, reviewRequired := maxDeviation < deviation }

-- The stored rates

/-- A row of `oracle_rates`; the last three fields before the instant are its `rawValues`. -/
structure OracleRate where
  currency : String
  rateUsd : ℚ
  centralBankRate : Option ℚ
  fintechRate : Option ℚ
  forexRate : Option ℚ
  medianRate : ℚ
  worldBankRate : Option ℚ
  deviationFromPreviousRate : Option ℚ
  reviewRequired : Bool
  timestamp : ℤ

/-- `oracle_rates` in the order of `orderBy: { timestamp: "desc" }`. -/
structure OracleRateTable where
  rows : List OracleRate
  newestFirst : rows.Pairwise (fun a b => b.timestamp ≤ a.timestamp)

namespace OracleRateTable

/-- `findFirst({ where: { currency }, orderBy: { timestamp: "desc" } })`. -/
def latest (table : OracleRateTable) (currency : String) : Option OracleRate :=
  table.rows.find? (fun row => row.currency = currency)

/-- `findMany({ where: { currency, timestamp: { gte: since } }, orderBy: { timestamp: "asc" } })`.
-/
def since (table : OracleRateTable) (currency : String) (since : ℤ) : List OracleRate :=
  (table.rows.filter (fun row => row.currency = currency ∧ since ≤ row.timestamp)).reverse

def create (table : OracleRateTable) (row : OracleRate) : OracleRateTable where
  rows := table.rows.orderedInsert (fun a b => b.timestamp ≤ a.timestamp) row
  newestFirst := by
    have : Std.Total (fun a b : OracleRate => b.timestamp ≤ a.timestamp) :=
      ⟨fun a b => le_total b.timestamp a.timestamp⟩
    have : IsTrans OracleRate (fun a b => b.timestamp ≤ a.timestamp) :=
      ⟨fun _ _ _ first second => le_trans second first⟩
    exact table.newestFirst.orderedInsert row _

theorem rows_create {table : OracleRateTable} {row : OracleRate}
    (newest : ∀ older ∈ table.rows, older.timestamp ≤ row.timestamp)
    : (table.create row).rows = row :: table.rows := by
  change table.rows.orderedInsert _ row = _
  cases shape : table.rows with
  | nil => rfl
  | cons first rest =>
      rw [List.orderedInsert_cons, if_pos (newest first (shape ▸ List.mem_cons_self))]

end OracleRateTable

def getAverageRateOverHours (table : OracleRateTable) (now : ℤ) (currency : String) (hours : ℕ)
    : Option ℚ :=
  let rows := table.since currency (now - hours * 60 * 60 * 1000)
  if rows.length = 0 then none else some ((rows.map (·.medianRate)).sum / rows.length)

-- One currency of a run

/-- `config.oracle`, whose limits are checked to be positive when it is read. -/
structure OracleConfig where
  maxDeviationPerUpdate : ℚ := 1 / 20
  circuitBreakerThreshold : ℚ := 1 / 10
  maxDeviation_pos : 0 < maxDeviationPerUpdate := by norm_num
  threshold_pos : 0 < circuitBreakerThreshold := by norm_num

/-- The rate that is stored for a composite: the breaker replaces one that is too far from the
previous rate by the average of the last 48 hours.
-/
def publishedRate (config : OracleConfig) (table : OracleRateTable) (averagedAt : ℤ)
    (currency : String)
    (composite : ℚ)
    : ℚ :=
  let previousRate := (table.latest currency).map (·.medianRate)
  let assessment := assessRateDeviation previousRate composite config.maxDeviationPerUpdate
  if assessment.deviation.any (fun deviation => config.circuitBreakerThreshold < deviation) then
    (getAverageRateOverHours table averagedAt currency 48).getD composite
  else composite

/-- The part of `fetchAndStoreRates` about one currency. The average is asked for at `averagedAt`,
and the row is dated by the database.
-/
def storeOracleRate (config : OracleConfig) (averagedAt createdAt : ℤ) (currency : String)
    (s : SourceRates)
    (table : OracleRateTable)
    : OracleRateTable :=
  if s.positive.length = 0 then table
  else
    let composite := compositeOf s
    let previousRate := (table.latest currency).map (·.medianRate)
    let assessment := assessRateDeviation previousRate composite config.maxDeviationPerUpdate
    let published := publishedRate config table averagedAt currency composite
    table.create
      { currency
        rateUsd := published
        centralBankRate := s.centralBankRate
        fintechRate := s.fintechRate
        forexRate := s.forexRate
        medianRate := published
        worldBankRate := s.worldBankRate
        deviationFromPreviousRate := assessment.deviation
        reviewRequired := assessment.reviewRequired
        timestamp := createdAt }

-- Sources that agree

/-- Every source that has a rate reports `v`, and one has. -/
structure SourceRates.Report (s : SourceRates) (v : ℚ) : Prop where
  agree : ∀ rate ∈ [s.centralBankRate, s.fintechRate, s.forexRate, s.worldBankRate], ∀ r ∈ rate,
    r = v
  reported : ∃ rate ∈ [s.centralBankRate, s.fintechRate, s.forexRate, s.worldBankRate], rate.isSome

section

variable {s : SourceRates} {v : ℚ}

theorem SourceRates.mem_parts {p : ℚ × ℚ} (member : p ∈ s.parts)
    : 0 < p.1 ∧ some p.2 ∈ [s.centralBankRate, s.fintechRate, s.forexRate, s.worldBankRate] := by
  obtain ⟨⟨weight, rate⟩, layer, found⟩ := List.mem_filterMap.mp member
  obtain ⟨r, there, rfl⟩ := Option.map_eq_some_iff.mp found
  subst there
  simp only [List.mem_cons, Prod.mk.injEq, List.not_mem_nil, or_false] at layer ⊢
  rcases layer with ⟨rfl, there⟩ | ⟨rfl, there⟩ | ⟨rfl, there⟩ | ⟨rfl, there⟩
  · exact ⟨by norm_num [LAYER_WEIGHT_CB], .inl there⟩
  · exact ⟨by norm_num [LAYER_WEIGHT_FINTECH], .inr (.inl there)⟩
  · exact ⟨by norm_num [LAYER_WEIGHT_FOREX], .inr (.inr (.inl there))⟩
  · exact ⟨by norm_num [LAYER_WEIGHT_WORLD_BANK], .inr (.inr (.inr there))⟩

theorem SourceRates.Report.exists_some (h : s.Report v)
    : some v ∈ [s.centralBankRate, s.fintechRate, s.forexRate, s.worldBankRate] := by
  obtain ⟨rate, member, there⟩ := h.reported
  obtain ⟨r, rfl⟩ := Option.isSome_iff_exists.mp there
  obtain rfl := h.agree _ member r rfl
  exact member

theorem SourceRates.Report.parts_ne_nil (h : s.Report v) : s.parts ≠ [] := by
  have layer : ∀ {w : ℚ} {rate : Option ℚ}, some v = rate →
      (w, rate) ∈ [(LAYER_WEIGHT_CB, s.centralBankRate), (LAYER_WEIGHT_FINTECH, s.fintechRate),
        (LAYER_WEIGHT_FOREX, s.forexRate), (LAYER_WEIGHT_WORLD_BANK, s.worldBankRate)] →
      s.parts ≠ [] := by
    rintro w _ rfl member
    exact List.ne_nil_of_mem (List.mem_filterMap.mpr ⟨_, member, rfl⟩)
  have reported := h.exists_some
  simp only [List.mem_cons, List.not_mem_nil, or_false] at reported
  rcases reported with there | there | there | there
  · exact layer (w := LAYER_WEIGHT_CB) there (by simp)
  · exact layer (w := LAYER_WEIGHT_FINTECH) there (by simp)
  · exact layer (w := LAYER_WEIGHT_FOREX) there (by simp)
  · exact layer (w := LAYER_WEIGHT_WORLD_BANK) there (by simp)

theorem SourceRates.Report.compositeRate_eq (h : s.Report v) : compositeRate s = v := by
  have total : 0 < (s.parts.map Prod.fst).sum := by
    refine List.sum_pos _ (fun weight member => ?_) (by simpa using h.parts_ne_nil)
    obtain ⟨p, layer, rfl⟩ := List.mem_map.mp member
    exact (mem_parts layer).1
  have each : ∀ p ∈ s.parts, p.1 / (s.parts.map Prod.fst).sum * p.2
      = p.1 * (v / (s.parts.map Prod.fst).sum) := by
    intro p member
    rw [h.agree _ (mem_parts member).2 p.2 rfl]
    ring
  rw [compositeRate, if_neg (by simpa using h.parts_ne_nil)]
  change (s.parts.map fun p => p.1 / (s.parts.map Prod.fst).sum * p.2).sum = v
  rw [List.map_congr_left each, List.sum_map_mul_right]
  exact mul_div_cancel₀ v total.ne'

theorem SourceRates.Report.positive_eq (h : s.Report v) : ∀ r ∈ s.positive, r = v := by
  intro r member
  obtain ⟨rate, there, kept⟩ := List.mem_filterMap.mp member
  exact h.agree rate there r (Option.filter_eq_some_iff.mp kept).1

theorem SourceRates.Report.positive_ne_nil (h : s.Report v) (positive : 0 < v)
    : s.positive.length ≠ 0 := by
  have member : v ∈ s.positive :=
    List.mem_filterMap.mpr ⟨some v, h.exists_some, by simp [Option.filter, positive]⟩
  exact (List.length_pos_of_mem member).ne'

theorem median_of_constant {values : List ℚ} (same : ∀ r ∈ values, r = v) (some : values.length ≠ 0)
    : median values = v := by
  have shape : values = List.replicate values.length v := List.eq_replicate_of_mem same
  have sorted : values.insertionSort (· ≤ ·) = List.replicate values.length v := by
    refine List.eq_replicate_iff.mpr ⟨List.length_insertionSort _ _, fun r member => ?_⟩
    exact same r ((List.perm_insertionSort _ _).mem_iff.mp member)
  have at' : ∀ k < values.length, (List.replicate values.length v).getD k 0 = v := by
    intro k bound
    simp [List.getD_eq_getElem?_getD, bound]
  rw [median, if_neg some]
  dsimp only
  rw [sorted, at' _ (by omega), at' _ (by omega)]
  split
  · rfl
  · ring

theorem SourceRates.Report.compositeOf_eq (h : s.Report v) (positive : 0 < v)
    : compositeOf s = v := by
  have kept : excludeOutliers s.positive OUTLIER_DEVIATION = s.positive := by
    refine List.filter_eq_self.mpr fun r member => ?_
    rw [h.positive_eq r member, median_of_constant h.positive_eq (h.positive_ne_nil positive)]
    norm_num [OUTLIER_DEVIATION]
  rw [compositeOf, kept, if_neg (by simp)]
  exact h.compositeRate_eq

end

end AcbuBackend.Rates

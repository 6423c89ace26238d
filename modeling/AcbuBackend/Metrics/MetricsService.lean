import AcbuBackend.Basket.BasisPoints
import Mathlib.Data.List.Dedup
import Mathlib.Tactic.Positivity

/-! The metrics of the basket currencies, and the weights that are proposed from them.
Numbers are exact rationals. The rows are written one by one, and each write may fail.
-/

namespace AcbuBackend.Metrics

open AcbuBackend.Runtime Basket

-- Scores

def GDP_WEIGHT : ℚ := 4 / 10

def TRADE_WEIGHT : ℚ := 3 / 10

def LIQUIDITY_WEIGHT : ℚ := 3 / 10

def BASKET_CURRENCIES : List String :=
  ["NGN", "ZAR", "KES", "EGP", "GHS", "RWF", "XOF", "MAD", "TZS", "UGX"]

def DAY_MS : ℤ := 24 * 60 * 60 * 1000

def normalizeToScores (values : JsMap String ℚ) : JsMap String ℚ :=
  let total := values.values.sum
  if total ≤ 0 then values
  else values.entries.foldl (fun out e => out.set e.1 (e.2 / total * 100)) .empty

/-- A row of `transactions`. -/
structure Transaction where
  type : String
  status : String
  localCurrency : Option String
  createdAt : ℤ
  acbuAmountBurned : Option ℚ
  localAmount : Option ℚ

/-- What a run reads: the clock, the basket, the burns, and the World Bank. -/
structure Sources where
  now : ℤ
  basketCurrencies : List String
  transactions : List Transaction
  fetchGdpUsd : String → Option ℚ
  fetchPopulation : String → Option ℚ

/-- The amount a burn counts for. -/
def Transaction.volume (tx : Transaction) : ℚ :=
  (tx.acbuAmountBurned.or tx.localAmount).getD 0

def TRADE_ROW_CAP : Nat := 50000

namespace Sources

def burns (sources : Sources) (periodDays : Nat) : List Transaction :=
  let since := sources.now - periodDays * DAY_MS
  (sources.transactions.filter (fun tx =>
    tx.type = "burn" && tx.status = "completed" && tx.localCurrency.isSome
      && since ≤ tx.createdAt)).take TRADE_ROW_CAP

def getTradeVolumeByCurrency (sources : Sources) (periodDays : Nat) : JsMap String ℚ :=
  let zeros := BASKET_CURRENCIES.foldl (fun byCurrency c => byCurrency.set c 0) .empty
  (sources.burns periodDays).foldl
    (fun byCurrency b =>
      let cc := b.localCurrency.getD ""
      match byCurrency.get cc with
      | none => byCurrency
      | some before => byCurrency.set cc (before + b.volume))
    zeros

def currencies (sources : Sources) : List String :=
  if sources.basketCurrencies = [] then BASKET_CURRENCIES else sources.basketCurrencies

/-- The positive values that are fetched for the currencies. -/
def fetched (sources : Sources) (fetch : String → Option ℚ) : JsMap String ℚ :=
  sources.currencies.foldl
    (fun raw currency =>
      match fetch currency with
      | some value => if 0 < value then raw.set currency value else raw
      | none => raw)
    .empty

def gdpRaw (sources : Sources) : JsMap String ℚ :=
  sources.fetched sources.fetchGdpUsd

def populationRaw (sources : Sources) : JsMap String ℚ :=
  sources.fetched sources.fetchPopulation

def tradeRaw (sources : Sources) : JsMap String ℚ :=
  sources.currencies.foldl (fun raw c => if c ∈ raw.keys then raw else raw.set c 0)
    (sources.getTradeVolumeByCurrency 90)

def liquidityRaw (sources : Sources) : JsMap String ℚ :=
  sources.currencies.foldl (fun raw c => raw.set c 1) .empty

def gdpScore (sources : Sources) (currency : String) : ℚ :=
  ((normalizeToScores sources.gdpRaw).get currency).getD 0

def tradeScore (sources : Sources) (currency : String) : ℚ :=
  ((normalizeToScores sources.tradeRaw).get currency).getD 0

def liquidityScore (sources : Sources) (currency : String) : ℚ :=
  ((normalizeToScores sources.liquidityRaw).get currency).getD 0

def proposedWeightRaw (sources : Sources) : JsMap String ℚ :=
  sources.currencies.foldl
    (fun raw currency =>
      raw.set currency
        (GDP_WEIGHT * sources.gdpScore currency + TRADE_WEIGHT * sources.tradeScore currency
          + LIQUIDITY_WEIGHT * sources.liquidityScore currency))
    .empty

def proposedWeights (sources : Sources) : JsMap String ℚ :=
  normalizeToScores sources.proposedWeightRaw

end Sources

-- Writing rows

structure RawValues where
  gdpUsd : Option ℚ
  population : Option ℚ
  tradeVolume : Option ℚ

/-- A row of `basket_metrics`, under its currency and period. -/
structure BasketMetrics where
  gdpScore : ℚ
  tradeScore : ℚ
  liquidityScore : ℚ
  rawValues : RawValues
  source : String

/-- A row of `basket_config`. -/
structure BasketConfig where
  effectiveFrom : ℤ
  currency : String
  weight : ℚ
  status : String

/-- The two tables, and how many writes have been issued. -/
structure Database where
  basketMetrics : JsMap (String × String) BasketMetrics
  basketConfig : List BasketConfig
  writes : Nat

inductive IngestError
  | write
  | weights (error : BasketWeightError)

/-- A run keeps what it has written when it throws. -/
abbrev Ingest := EStateM IngestError Database

/-- A write, which fails where `fails` says so. -/
def write (fails : Nat → Bool) (change : Database → Database) : Ingest Unit := fun db =>
  let issued := { db with writes := db.writes + 1 }
  if fails db.writes then .error .write issued else .ok () (change issued)

def Sources.metrics (sources : Sources) (currency : String) : BasketMetrics where
  gdpScore := sources.gdpScore currency
  tradeScore := sources.tradeScore currency
  liquidityScore := sources.liquidityScore currency
  rawValues := {
    gdpUsd := sources.gdpRaw.get currency
    population := sources.populationRaw.get currency
    tradeVolume := sources.tradeRaw.get currency }
  source := "world_bank+platform"

def Database.upsertMetrics (key : String × String) (row : BasketMetrics) (db : Database)
    : Database :=
  { db with basketMetrics := db.basketMetrics.set key row }

def Database.createConfig (row : BasketConfig) (db : Database) : Database :=
  { db with basketConfig := db.basketConfig ++ [row] }

def Sources.proposal (sources : Sources) (entry : String × ℚ) : BasketConfig where
  effectiveFrom := sources.now
  currency := entry.1
  weight := entry.2
  status := "proposed"

def ingestMetricsAndProposeWeights (fails : Nat → Bool) (sources : Sources) (period : String)
    : Ingest Unit := do
  sources.currencies.forM fun currency =>
    write fails (Database.upsertMetrics (currency, period) (sources.metrics currency))
  match roundWeightsToExactBasisPoints sources.proposedWeights with
  | .error error => throw (.weights error)
  | .ok rounded =>
      rounded.entries.forM fun entry => write fails (Database.createConfig (sources.proposal entry))

-- The proposed weights

/-- The values of a map are not negative. -/
def NonNegative (values : JsMap String ℚ) : Prop :=
  ∀ e ∈ values.entries, 0 ≤ e.2

section

variable {values : JsMap String ℚ}

theorem NonNegative.empty : NonNegative .empty :=
  fun _ member => absurd member List.not_mem_nil

theorem NonNegative.set {key : String} {value : ℚ} (nonneg : NonNegative values) (new : 0 ≤ value)
    : NonNegative (values.set key value) := by
  intro e member
  rcases JsMap.mem_entries_set.mp member with rfl | ⟨-, old⟩
  · exact new
  · exact nonneg e old

theorem NonNegative.get {key : String} (nonneg : NonNegative values)
    : 0 ≤ (values.get key).getD 0 := by
  cases found : values.get key with
  | none => exact le_rfl
  | some value => exact nonneg _ (JsMap.mem_entries_of_get found)

theorem NonNegative.values_nonneg (nonneg : NonNegative values) : ∀ v ∈ values.values, 0 ≤ v :=
  List.forall_mem_map.mpr nonneg

theorem entries_normalizeToScores (positive : 0 < values.values.sum)
    : (normalizeToScores values).entries
      = values.entries.map (fun e => (e.1, e.2 / values.values.sum * 100)) := by
  have distinct : ((values.entries.map
      (fun e => (e.1, e.2 / values.values.sum * 100))).map Prod.fst).Nodup := by
    rw [List.map_map]
    exact values.distinct
  rw [← JsMap.entries_ofEntries distinct, JsMap.ofEntries, List.foldl_map, normalizeToScores,
    if_neg positive.not_ge]

theorem NonNegative.normalizeToScores (nonneg : NonNegative values)
    : NonNegative (normalizeToScores values) := by
  by_cases positive : 0 < values.values.sum
  · intro e member
    rw [entries_normalizeToScores positive] at member
    obtain ⟨value, inValues, rfl⟩ := List.mem_map.mp member
    have := nonneg value inValues
    positivity
  · rw [Metrics.normalizeToScores, if_pos (not_lt.mp positive)]
    exact nonneg

theorem sum_normalizeToScores (positive : 0 < values.values.sum)
    : (normalizeToScores values).values.sum = 100 := by
  have shares : (normalizeToScores values).values
      = values.entries.map (fun e => e.2 * (100 / values.values.sum)) := by
    rw [JsMap.values, entries_normalizeToScores positive, List.map_map]
    refine List.map_congr_left fun e _ => ?_
    rw [Function.comp_apply, div_mul_eq_mul_div, mul_div_assoc]
  rw [shares, List.sum_map_mul_right]
  exact mul_div_cancel₀ _ positive.ne'

end

namespace Sources

variable {sources : Sources}

/-- No transaction has a negative amount. -/
def NonNegativeVolumes (sources : Sources) : Prop :=
  ∀ tx ∈ sources.transactions, 0 ≤ tx.volume

theorem currencies_ne_nil : sources.currencies ≠ [] := by
  unfold currencies
  split
  · decide
  · assumption

theorem fetched_nonneg {fetch : String → Option ℚ} : NonNegative (sources.fetched fetch) := by
  refine List.foldlRecOn sources.currencies _ NonNegative.empty fun raw nonneg currency _ => ?_
  split
  · split
    · rename_i positive
      exact nonneg.set positive.le
    · exact nonneg
  · exact nonneg

theorem tradeRaw_nonneg (volumes : sources.NonNegativeVolumes) : NonNegative sources.tradeRaw := by
  have zeros : NonNegative (BASKET_CURRENCIES.foldl (fun m c => m.set c 0) .empty) :=
    List.foldlRecOn BASKET_CURRENCIES _ NonNegative.empty fun _ nonneg _ _ => nonneg.set le_rfl
  have traded : NonNegative (sources.getTradeVolumeByCurrency 90) := by
    refine List.foldlRecOn _ _ zeros fun m nonneg b member => ?_
    have volume := volumes b (List.mem_of_mem_filter (List.mem_of_mem_take member))
    dsimp only
    split
    · exact nonneg
    · rename_i before found
      exact nonneg.set (add_nonneg (nonneg _ (JsMap.mem_entries_of_get found)) volume)
  refine List.foldlRecOn sources.currencies _ traded fun raw nonneg c _ => ?_
  split
  · exact nonneg
  · exact nonneg.set le_rfl

theorem mem_liquidityRaw {e : String × ℚ}
    : e ∈ sources.liquidityRaw.entries ↔ e.1 ∈ sources.currencies ∧ e.2 = 1 := by
  rw [liquidityRaw, JsMap.mem_entries_foldl_set]
  simp [JsMap.empty]

theorem liquidityScore_pos {currency : String} (member : currency ∈ sources.currencies)
    : 0 < sources.liquidityScore currency := by
  have nonneg : NonNegative sources.liquidityRaw :=
    fun e inRaw => (mem_liquidityRaw.mp inRaw).2 ▸ zero_le_one
  have own : (currency, (1 : ℚ)) ∈ sources.liquidityRaw.entries :=
    mem_liquidityRaw.mpr ⟨member, rfl⟩
  have positive : 0 < sources.liquidityRaw.values.sum :=
    zero_lt_one.trans_le
      (List.single_le_sum nonneg.values_nonneg _ (List.mem_map_of_mem own))
  have there : currency ∈ (normalizeToScores sources.liquidityRaw).keys := by
    rw [JsMap.keys, entries_normalizeToScores positive, List.map_map]
    exact List.mem_map_of_mem own
  obtain ⟨score, found⟩ := Option.isSome_iff_exists.mp (JsMap.get_isSome.mpr there)
  have scored := JsMap.mem_entries_of_get found
  rw [entries_normalizeToScores positive] at scored
  obtain ⟨e, inRaw, shape⟩ := List.mem_map.mp scored
  obtain ⟨-, rfl⟩ := Prod.mk.inj shape
  rw [liquidityScore, found, Option.getD_some, (mem_liquidityRaw.mp inRaw).2]
  positivity

def rawWeight (sources : Sources) (currency : String) : ℚ :=
  GDP_WEIGHT * sources.gdpScore currency + TRADE_WEIGHT * sources.tradeScore currency
    + LIQUIDITY_WEIGHT * sources.liquidityScore currency

theorem mem_proposedWeightRaw {e : String × ℚ}
    : e ∈ sources.proposedWeightRaw.entries
      ↔ e.1 ∈ sources.currencies ∧ e.2 = sources.rawWeight e.1 := by
  refine (JsMap.mem_entries_foldl_set (f := sources.rawWeight)).trans ?_
  simp [JsMap.empty]

theorem rawWeight_pos {currency : String} (volumes : sources.NonNegativeVolumes)
    (member : currency ∈ sources.currencies)
    : 0 < sources.rawWeight currency := by
  have gdp : 0 ≤ sources.gdpScore currency := fetched_nonneg.normalizeToScores.get
  have trade : 0 ≤ sources.tradeScore currency := (tradeRaw_nonneg volumes).normalizeToScores.get
  have liquidity := liquidityScore_pos member
  unfold rawWeight GDP_WEIGHT TRADE_WEIGHT LIQUIDITY_WEIGHT
  positivity

/-- The proposed weights are shares of a hundred, one for each currency. -/
structure WholeWeights (currencies : List String) (weights : JsMap String ℚ) : Prop where
  currencies : ∀ currency, currency ∈ weights.keys ↔ currency ∈ currencies
  range : ∀ w ∈ weights.values, 0 ≤ w ∧ w ≤ 100
  total : weights.values.sum = 100

theorem proposedWeights_whole (volumes : sources.NonNegativeVolumes)
    : WholeWeights sources.currencies sources.proposedWeights := by
  have nonneg : NonNegative sources.proposedWeightRaw := by
    intro e member
    obtain ⟨there, value⟩ := mem_proposedWeightRaw.mp member
    exact value ▸ (rawWeight_pos volumes there).le
  have positive : 0 < sources.proposedWeightRaw.values.sum := by
    obtain ⟨currency, member⟩ := List.exists_mem_of_ne_nil _ (@currencies_ne_nil sources)
    have own : (currency, sources.rawWeight currency) ∈ sources.proposedWeightRaw.entries :=
      mem_proposedWeightRaw.mpr ⟨member, rfl⟩
    exact (rawWeight_pos volumes member).trans_le
      (List.single_le_sum nonneg.values_nonneg _ (List.mem_map_of_mem own))
  have total := sum_normalizeToScores positive
  have shares := nonneg.normalizeToScores.values_nonneg
  refine ⟨fun currency => ?_, fun w member => ⟨shares w member, ?_⟩, total⟩
  · rw [proposedWeights, JsMap.keys, entries_normalizeToScores positive, List.map_map,
      List.mem_map]
    constructor
    · rintro ⟨e, member, rfl⟩
      exact (mem_proposedWeightRaw.mp member).1
    · intro member
      exact ⟨(currency, sources.rawWeight currency), mem_proposedWeightRaw.mpr ⟨member, rfl⟩, rfl⟩
  · exact total ▸ List.single_le_sum shares w member

end Sources

-- Writes up to the first that fails

/-- How many of some writes are carried out: those before the first that fails. -/
def carriedOut (fails : Nat → Bool) (start : Nat) : Nat → Nat
  | 0 => 0
  | count + 1 => if fails start then 0 else carriedOut fails (start + 1) count + 1

section

variable {fails : Nat → Bool}

theorem carriedOut_le {start count : Nat} : carriedOut fails start count ≤ count := by
  induction count generalizing start with
  | zero => exact le_rfl
  | succ count ih =>
      rw [carriedOut]
      split
      · exact Nat.zero_le _
      · exact Nat.succ_le_succ ih

theorem carriedOut_eq_iff {start count : Nat}
    : carriedOut fails start count = count ↔ ∀ i < count, fails (start + i) = false := by
  induction count generalizing start with
  | zero => simp [carriedOut]
  | succ count ih =>
      rw [carriedOut, Nat.forall_lt_succ_left]
      cases failed : fails start with
      | true => simp
      | false =>
          simp only [Bool.false_eq_true, if_false, Nat.succ.injEq, ih, true_and]
          refine forall_congr' fun i => imp_congr_right fun _ => ?_
          rw [Nat.add_right_comm, Nat.add_assoc]

theorem carriedOut_eq_zero {start count : Nat} (some : 0 < count)
    : carriedOut fails start count = 0 ↔ fails start = true := by
  obtain ⟨rest, rfl⟩ := Nat.exists_eq_succ_of_ne_zero some.ne'
  rw [carriedOut]
  cases fails start <;> simp

theorem forM_write {α : Type} {change : α → Database → Database} {added : α → List BasketConfig}
    (appends : ∀ x db, (change x db).basketConfig = db.basketConfig ++ added x
      ∧ (change x db).writes = db.writes)
    (xs : List α) (db : Database)
    : ∃ after : Database,
        after.basketConfig = db.basketConfig
          ++ (xs.take (carriedOut fails db.writes xs.length)).flatMap added
        ∧ (carriedOut fails db.writes xs.length = xs.length →
          (xs.forM fun x => write fails (change x)) db = .ok () after
            ∧ after.writes = db.writes + xs.length)
        ∧ (carriedOut fails db.writes xs.length ≠ xs.length →
          (xs.forM fun x => write fails (change x)) db = .error .write after) := by
  induction xs generalizing db with
  | nil => exact ⟨db, (List.append_nil _).symm, fun _ => ⟨rfl, rfl⟩, fun apart => absurd rfl apart⟩
  | cons x xs ih =>
      rw [List.length_cons, carriedOut]
      cases failed : fails db.writes with
      | true =>
          have thrown : ((x :: xs).forM fun x => write fails (change x)) db
              = .error .write { db with writes := db.writes + 1 } := by
            simp [write, failed, bind, EStateM.bind]
          exact ⟨{ db with writes := db.writes + 1 }, by simp, fun done => by simp at done,
            fun _ => thrown⟩
      | false =>
          have goesOn : ((x :: xs).forM fun x => write fails (change x)) db
              = (xs.forM fun x => write fails (change x))
                (change x { db with writes := db.writes + 1 }) := by
            simp [write, failed, bind, EStateM.bind]
          obtain ⟨appended, issued⟩ := appends x { db with writes := db.writes + 1 }
          obtain ⟨after, config, completes, stops⟩ :=
            ih (change x { db with writes := db.writes + 1 })
          rw [appended] at config
          simp only [issued] at config completes stops
          simp only [Bool.false_eq_true, if_false, Nat.succ.injEq, goesOn]
          refine ⟨after, ?_, fun done => ?_, fun apart => stops fun done => apart ?_⟩
          · rw [config, List.take_succ_cons, List.flatMap_cons, List.append_assoc]
          · obtain ⟨ran, counted⟩ := completes done
            exact ⟨ran, by omega⟩
          · rw [done]

end

-- All or nothing

/-- The database after a run that returned or threw. -/
def stateOf {α : Type} : EStateM.Result IngestError Database α → Database
  | .ok _ db | .error _ db => db

/-- Rows that propose a whole basket. -/
structure IsProposal (sources : Sources) (rows : List BasketConfig) : Prop where
  distinct : (rows.map (·.currency)).Nodup
  currencies : ∀ currency, currency ∈ rows.map (·.currency) ↔ currency ∈ sources.currencies
  proposed : ∀ row ∈ rows, row.status = "proposed" ∧ row.effectiveFrom = sources.now
  total : (rows.map (·.weight)).sum = 100

/-- A run stores no row of `basket_config`, or a whole proposal. -/
def AllOrNothing (fails : Nat → Bool) (sources : Sources) (period : String) (db : Database)
    : Prop :=
  ∃ rows,
    (stateOf (ingestMetricsAndProposeWeights fails sources period db)).basketConfig
      = db.basketConfig ++ rows
    ∧ (rows = [] ∨ IsProposal sources rows)

section

variable {fails : Nat → Bool} {sources : Sources} {period : String} {db : Database}

/-- How many rows a proposal has. -/
def Sources.currencyCount (sources : Sources) : Nat :=
  sources.currencies.dedup.length

theorem IsProposal.length {rows : List BasketConfig} (proposal : IsProposal sources rows)
    : rows.length = sources.currencyCount := by
  have same : (rows.map (·.currency)).Perm sources.currencies.dedup := by
    rw [List.perm_ext_iff_of_nodup proposal.distinct (List.nodup_dedup _)]
    exact fun currency => (proposal.currencies currency).trans List.mem_dedup.symm
  rw [Sources.currencyCount, ← same.length_eq, List.length_map]

theorem rounded_isProposal (volumes : sources.NonNegativeVolumes)
    : ∃ rounded, roundWeightsToExactBasisPoints sources.proposedWeights = .ok rounded
        ∧ IsProposal sources (rounded.entries.map sources.proposal) := by
  have whole := Sources.proposedWeights_whole volumes
  obtain ⟨rounded, computed, exact_⟩ := roundWeights_exact sources.proposedWeights whole.range
    (by rw [whole.total]; norm_num)
  have keys : (rounded.entries.map sources.proposal).map (·.currency) = rounded.keys := by
    rw [List.map_map]
    rfl
  refine ⟨rounded, computed, ?_, fun currency => ?_, ?_, ?_⟩
  · exact keys ▸ rounded.distinct
  · rw [keys, exact_.currencies.mem_iff]
    exact whole.currencies currency
  · exact List.forall_mem_map.mpr fun _ _ => ⟨rfl, rfl⟩
  · have total := exact_.total
    rw [List.sum_map_mul_right, List.map_id'] at total
    rw [List.map_map]
    change rounded.values.sum = 100
    linarith

/-- The rows that a run stores are the first of a proposal: those before the first write that
fails, if all metrics are written.
-/
theorem ingest_stores (volumes : sources.NonNegativeVolumes)
    : ∃ rows, IsProposal sources rows
        ∧ (stateOf (ingestMetricsAndProposeWeights fails sources period db)).basketConfig
          = db.basketConfig
            ++ if carriedOut fails db.writes sources.currencies.length = sources.currencies.length
              then rows.take (carriedOut fails (db.writes + sources.currencies.length) rows.length)
              else [] := by
  obtain ⟨rounded, computed, proposal⟩ := rounded_isProposal volumes
  refine ⟨_, proposal, ?_⟩
  obtain ⟨middle, kept, completes, stops⟩ := @forM_write fails _
    (fun currency => Database.upsertMetrics (currency, period) (sources.metrics currency))
    (fun _ => []) (fun _ _ => ⟨(List.append_nil _).symm, rfl⟩) sources.currencies db
  rw [List.flatMap_eq_nil_iff.mpr fun _ _ => rfl, List.append_nil] at kept
  by_cases done : carriedOut fails db.writes sources.currencies.length = sources.currencies.length
  · obtain ⟨written, issued⟩ := completes done
    obtain ⟨after, config, completes', stops'⟩ := @forM_write fails _
      (fun entry => Database.createConfig (sources.proposal entry))
      (fun entry => [sources.proposal entry]) (fun _ _ => ⟨rfl, rfl⟩) rounded.entries middle
    have ran : ingestMetricsAndProposeWeights fails sources period db
        = (rounded.entries.forM fun entry =>
          write fails (Database.createConfig (sources.proposal entry))) middle := by
      simp only [ingestMetricsAndProposeWeights, computed, bind, EStateM.bind, written]
    have stored : stateOf ((rounded.entries.forM fun entry =>
        write fails (Database.createConfig (sources.proposal entry))) middle) = after := by
      by_cases done' : carriedOut fails middle.writes rounded.entries.length
        = rounded.entries.length
      · rw [(completes' done').1]
        rfl
      · rw [stops' done']
        rfl
    rw [if_pos done, ran, stored, config, kept, issued, List.length_map, ← List.map_eq_flatMap,
      List.map_take]
  · have thrown : ingestMetricsAndProposeWeights fails sources period db
        = .error .write middle := by
      simp only [ingestMetricsAndProposeWeights, bind, EStateM.bind, stops done]
    rw [if_neg done, thrown, List.append_nil]
    exact kept

theorem allOrNothing_iff_carriedOut (volumes : sources.NonNegativeVolumes)
    : AllOrNothing fails sources period db
      ↔ carriedOut fails db.writes sources.currencies.length ≠ sources.currencies.length
        ∨ carriedOut fails (db.writes + sources.currencies.length) sources.currencyCount = 0
        ∨ carriedOut fails (db.writes + sources.currencies.length) sources.currencyCount
          = sources.currencyCount := by
  obtain ⟨rows, proposal, stores⟩ := @ingest_stores fails sources period db volumes
  unfold AllOrNothing
  simp only [stores, List.append_cancel_left_eq, exists_eq_left']
  by_cases done : carriedOut fails db.writes sources.currencies.length = sources.currencies.length
  · rw [if_pos done, proposal.length, or_iff_right (not_not.mpr done)]
    refine or_congr ?_ ⟨fun part => ?_, fun all => ?_⟩
    · rw [List.take_eq_nil_iff, or_iff_left]
      intro empty
      have count := proposal.length
      rw [empty, List.length_nil, eq_comm, Sources.currencyCount, List.length_eq_zero_iff,
        List.dedup_eq_nil] at count
      exact Sources.currencies_ne_nil count
    · have length := part.length
      rwa [List.length_take, proposal.length, min_eq_left carriedOut_le] at length
    · rw [all, ← proposal.length, List.take_length]
      exact proposal
  · rw [if_neg done]
    exact iff_of_true (.inl rfl) (.inl done)

/-- A run stores a whole proposal or nothing exactly when none of its writes fails, or one fails no
later than the first row.
-/
theorem allOrNothing_iff (volumes : sources.NonNegativeVolumes)
    : AllOrNothing fails sources period db
      ↔ (∀ i < sources.currencies.length + sources.currencyCount, fails (db.writes + i) = false)
        ∨ ∃ i ≤ sources.currencies.length, fails (db.writes + i) = true := by
  rw [allOrNothing_iff_carriedOut volumes]
  have some : 0 < sources.currencyCount := by
    rw [Sources.currencyCount, List.length_pos_iff, ne_eq, List.dedup_eq_nil]
    exact Sources.currencies_ne_nil
  rw [carriedOut_eq_zero some, carriedOut_eq_iff, ne_eq, carriedOut_eq_iff]
  constructor
  · rintro (metrics | first | rows)
    · push Not at metrics
      obtain ⟨i, early, failed⟩ := metrics
      exact .inr ⟨i, early.le, by simpa using failed⟩
    · exact .inr ⟨_, le_rfl, first⟩
    · by_cases metrics : ∀ i < sources.currencies.length, fails (db.writes + i) = false
      · refine .inl fun i below => ?_
        rcases lt_or_ge i sources.currencies.length with early | late
        · exact metrics i early
        · obtain ⟨j, rfl⟩ := Nat.exists_eq_add_of_le late
          rw [← Nat.add_assoc]
          exact rows j (by omega)
      · push Not at metrics
        obtain ⟨i, early, failed⟩ := metrics
        exact .inr ⟨i, early.le, by simpa using failed⟩
  · rintro (none | ⟨i, early, failed⟩)
    · refine .inr (.inr fun j below => ?_)
      rw [Nat.add_assoc]
      exact none _ (by omega)
    · rcases early.lt_or_eq with before | rfl
      · exact .inl fun metrics => by simp [metrics i before] at failed
      · exact .inr (.inl failed)

end

def twoCurrencies : Sources where
  now := 1735689600000
  basketCurrencies := ["NGN", "KES"]
  transactions := [{
    type := "burn"
    status := "completed"
    localCurrency := some "KES"
    createdAt := 1735600000000
    acbuAmountBurned := some 250
    localAmount := none }]
  fetchGdpUsd currency := if currency = "NGN" then some 363000000000 else none
  fetchPopulation _ := none

def emptyDatabase : Database where
  basketMetrics := .empty
  basketConfig := []
  writes := 0

theorem twoCurrencies_volumes : twoCurrencies.NonNegativeVolumes := by
  intro tx member
  obtain rfl := List.mem_singleton.mp member
  decide +kernel

def failsAt (number i : Nat) : Bool :=
  i == number

/-- The third write is the one of the first row. -/
theorem allOrNothing_iff_twoCurrencies
    : AllOrNothing (failsAt 2) twoCurrencies "2025-Q1" emptyDatabase :=
  (allOrNothing_iff twoCurrencies_volumes).mpr (.inr ⟨2, by decide +kernel, rfl⟩)

/-- Of two rows the first is stored and the second is not. -/
theorem half_a_proposal
    : ¬ AllOrNothing (failsAt 3) twoCurrencies "2025-Q1" emptyDatabase := by
  rw [allOrNothing_iff_carriedOut twoCurrencies_volumes]
  decide

end AcbuBackend.Metrics

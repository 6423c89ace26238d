import AcbuBackend.Rates.OracleRates

/-! Whether the breaker lets a rate through that every source reports from some time on. The average
it stores instead is taken over its own earlier answers.
-/

namespace AcbuBackend.Rates

-- Runs at a fixed interval

/-- When the runs take place: they start at a fixed interval, and each is over before the next one.
-/
structure RunSchedule where
  startedAt : ℤ
  interval : ℤ
  interval_pos : 0 < interval
  averagedAt : ℕ → ℤ
  createdAt : ℕ → ℤ
  started_le : ∀ k : ℕ, startedAt + k * interval ≤ averagedAt k
  averaged_le : ∀ k, averagedAt k ≤ createdAt k
  created_lt : ∀ k : ℕ, createdAt k < startedAt + (k + 1) * interval

/-- 48 hours. -/
def averagedMs : ℤ := 48 * 60 * 60 * 1000

/-- Run `k` starts more than 48 hours after the first one. -/
def RunSchedule.Past48h (schedule : RunSchedule) (k : ℕ) : Prop :=
  averagedMs < k * schedule.interval

/-- The rates of one currency before run `k`. -/
def ratesBefore (config : OracleConfig) (currency : String) (schedule : RunSchedule)
    (sources : ℕ → SourceRates) (history : OracleRateTable)
    : ℕ → OracleRateTable
  | 0 => history
  | k + 1 =>
      storeOracleRate config (schedule.averagedAt k) (schedule.createdAt k) currency (sources k)
        (ratesBefore config currency schedule sources history k)

def storedRate (table : OracleRateTable) (currency : String) : Option ℚ :=
  (table.latest currency).map (·.medianRate)

/-- A run lets a rate through: no positive rate is stored, or the stored one is within the
threshold, or none was stored in the last 48 hours, or those that were average that rate.
-/
def LetsThrough (config : OracleConfig) (currency : String) (v : ℚ) (averagedAt : ℤ)
    (table : OracleRateTable)
    : Prop :=
  (∀ previous, storedRate table currency = some previous →
    previous ≤ 0 ∨ |v - previous| ≤ config.circuitBreakerThreshold * previous)
  ∨ ∀ average, getAverageRateOverHours table averagedAt currency 48 = some average → average = v

-- One run

section

variable {config : OracleConfig} {currency : String} {v : ℚ} {averagedAt createdAt : ℤ}
    {table : OracleRateTable}
  {s : SourceRates}

theorem publishedRate_eq_iff
    : publishedRate config table averagedAt currency v = v
        ↔ LetsThrough config currency v averagedAt table := by
  unfold publishedRate LetsThrough storedRate
  cases (table.latest currency).map (·.medianRate) with
  | none => simp [assessRateDeviation]
  | some previous =>
      by_cases positive : previous ≤ 0
      · simp [assessRateDeviation, positive]
      · have moved : config.circuitBreakerThreshold < |v - previous| / previous
            ↔ ¬ |v - previous| ≤ config.circuitBreakerThreshold * previous := by
          rw [lt_div_iff₀ (not_le.mp positive), not_le]
        by_cases within : |v - previous| ≤ config.circuitBreakerThreshold * previous
        · simp [assessRateDeviation, positive, moved, within]
        · cases getAverageRateOverHours table averagedAt currency 48 <;>
            simp [assessRateDeviation, positive, moved, within]

theorem rows_storeOracleRate (reports : s.Report v) (positive : 0 < v)
    (newest : ∀ older ∈ table.rows, older.timestamp ≤ createdAt)
    : ∃ row, (storeOracleRate config averagedAt createdAt currency s table).rows = row :: table.rows
      ∧ row.currency = currency ∧ row.timestamp = createdAt
      ∧ row.medianRate = publishedRate config table averagedAt currency v := by
  rw [storeOracleRate, if_neg (reports.positive_ne_nil positive), reports.compositeOf_eq positive]
  exact ⟨_, OracleRateTable.rows_create newest, rfl, rfl, rfl⟩

theorem storedRate_storeOracleRate (reports : s.Report v) (positive : 0 < v)
    (newest : ∀ older ∈ table.rows, older.timestamp ≤ createdAt)
    : storedRate (storeOracleRate config averagedAt createdAt currency s table) currency
      = some (publishedRate config table averagedAt currency v) := by
  obtain ⟨row, rows, named, -, published⟩ :=
    @rows_storeOracleRate config currency v averagedAt createdAt table s reports positive newest
  rw [storedRate, OracleRateTable.latest, rows, List.find?_cons_of_pos (by simpa using named)]
  exact congrArg some published

theorem letsThrough_of_storedRate (positive : 0 < v) (stored : storedRate table currency = some v)
    : LetsThrough config currency v averagedAt table := by
  refine .inl fun previous there => .inr ?_
  obtain rfl := Option.some.inj (stored.symm.trans there)
  rw [sub_self, abs_zero]
  exact (mul_pos config.threshold_pos positive).le

end

-- All runs

section

variable {config : OracleConfig} {currency : String} {v : ℚ} {schedule : RunSchedule}
    {sources : ℕ → SourceRates}
  {history : OracleRateTable}

theorem timestamp_lt_of_mem (past : ∀ row ∈ history.rows, row.timestamp < schedule.startedAt)
    (k : ℕ)
    : ∀ row ∈ (ratesBefore config currency schedule sources history k).rows,
        row.timestamp < schedule.startedAt + k * schedule.interval := by
  induction k with
  | zero => simpa [ratesBefore] using past
  | succ k ih =>
      have before : ∀ row ∈ (ratesBefore config currency schedule sources history k).rows,
          row.timestamp < schedule.startedAt + (k + 1) * schedule.interval := by
        intro row member
        have earlier := ih row member
        have step := schedule.interval_pos
        linarith
      intro row member
      push_cast
      rw [ratesBefore, storeOracleRate] at member
      split at member
      · exact before row member
      · rcases (List.mem_orderedInsert _).mp member with rfl | member
        · exact schedule.created_lt k
        · exact before row member

theorem timestamp_le_createdAt (past : ∀ row ∈ history.rows, row.timestamp < schedule.startedAt)
    (k : ℕ)
    : ∀ row ∈ (ratesBefore config currency schedule sources history k).rows,
        row.timestamp ≤ schedule.createdAt k := by
  intro row member
  exact (timestamp_lt_of_mem past k row member).le.trans
    ((schedule.started_le k).trans (schedule.averaged_le k))

theorem storedRate_iff (reports : ∀ k, (sources k).Report v) (positive : 0 < v)
    (past : ∀ row ∈ history.rows, row.timestamp < schedule.startedAt) (k : ℕ)
    : storedRate (ratesBefore config currency schedule sources history (k + 1)) currency = some v
      ↔ LetsThrough config currency v (schedule.averagedAt k)
          (ratesBefore config currency schedule sources history k) := by
  rw [ratesBefore, storedRate_storeOracleRate (reports k) positive (timestamp_le_createdAt past k),
    Option.some.injEq]
  exact publishedRate_eq_iff

theorem storedRate_of_le (reports : ∀ k, (sources k).Report v) (positive : 0 < v)
    (past : ∀ row ∈ history.rows, row.timestamp < schedule.startedAt) {j k : ℕ} (later : j ≤ k)
    (stored : storedRate (ratesBefore config currency schedule sources history (j + 1)) currency
      = some v)
    : storedRate (ratesBefore config currency schedule sources history (k + 1)) currency
        = some v := by
  induction k, later using Nat.le_induction with
  | base => exact stored
  | succ k _ ih =>
      exact (storedRate_iff reports positive past (k + 1)).mpr
        (letsThrough_of_storedRate positive ih)

end

/-- The runs that start more than 48 hours after the first one all leave `v` stored exactly when
some run lets `v` through, the first of them at the latest.
-/
theorem breaker_recovers_iff (config : OracleConfig) (currency : String) (v : ℚ)
    (schedule : RunSchedule)
    (sources : ℕ → SourceRates) (history : OracleRateTable) (positive : 0 < v)
    (reports : ∀ k, (sources k).Report v)
    (past : ∀ row ∈ history.rows, row.timestamp < schedule.startedAt)
    : (∀ k, schedule.Past48h k →
        storedRate (ratesBefore config currency schedule sources history (k + 1)) currency = some v)
      ↔ ∃ j, (∀ k, schedule.Past48h k → j ≤ k)
          ∧ LetsThrough config currency v (schedule.averagedAt j)
              (ratesBefore config currency schedule sources history j) := by
  constructor
  · intro recovered
    have reached : ∃ k, schedule.Past48h k := by
      refine ⟨(averagedMs + 1).toNat, ?_⟩
      rw [RunSchedule.Past48h, Int.toNat_of_nonneg (by decide)]
      have step : (averagedMs + 1) * 1 ≤ (averagedMs + 1) * schedule.interval :=
        mul_le_mul_of_nonneg_left schedule.interval_pos (by decide)
      linarith
    classical
    refine ⟨Nat.find reached, fun k gone => Nat.find_min' reached gone, ?_⟩
    exact (storedRate_iff reports positive past _).mp (recovered _ (Nat.find_spec reached))
  · rintro ⟨j, early, through⟩ k gone
    exact storedRate_of_le reports positive past (early k gone)
      ((storedRate_iff reports positive past j).mpr through)

-- A frozen rate

section

variable {config : OracleConfig} {currency : String} {u v : ℚ} {table : OracleRateTable} {now : ℤ}
    {hours : ℕ}

theorem getAverageRateOverHours_of_constant
    (same : ∀ row ∈ table.rows, row.currency = currency → row.medianRate = u)
    (recent : ∃ row ∈ table.rows, row.currency = currency
      ∧ now - hours * 60 * 60 * 1000 ≤ row.timestamp)
    : getAverageRateOverHours table now currency hours = some u := by
  obtain ⟨row, there, named, young⟩ := recent
  have member : row ∈ table.since currency (now - hours * 60 * 60 * 1000) := by
    rw [OracleRateTable.since, List.mem_reverse]
    exact List.mem_filter.mpr ⟨there, decide_eq_true ⟨named, young⟩⟩
  have some : (table.since currency (now - hours * 60 * 60 * 1000)).length ≠ 0 :=
    (List.length_pos_of_mem member).ne'
  have each : ∀ row ∈ table.since currency (now - hours * 60 * 60 * 1000), row.medianRate = u := by
    intro row member
    simp only [OracleRateTable.since, List.mem_reverse, List.mem_filter,
      decide_eq_true_eq] at member
    exact same row member.1 member.2.1
  have nonzero : ((table.since currency (now - hours * 60 * 60 * 1000)).length : ℚ) ≠ 0 :=
    Nat.cast_ne_zero.mpr some
  rw [getAverageRateOverHours, if_neg some, List.map_congr_left each, List.map_const',
    List.sum_replicate, nsmul_eq_mul, mul_div_cancel_left₀ _ nonzero]

/-- A rate that was the same for as long as the average looks back. -/
structure Frozen (currency : String) (u : ℚ) (now : ℤ) (table : OracleRateTable) : Prop where
  stored : storedRate table currency = some u
  constant : ∀ row ∈ table.rows, row.currency = currency → row.medianRate = u
  recent : ∃ row ∈ table.rows, row.currency = currency ∧ now - averagedMs ≤ row.timestamp

theorem Frozen.publishedRate_eq (h : Frozen currency u now table) (positive : 0 < u)
    (beyond : config.circuitBreakerThreshold * u < |v - u|)
    : publishedRate config table now currency v = u := by
  have stored : (table.latest currency).map (·.medianRate) = some u := h.stored
  have moved : config.circuitBreakerThreshold < |v - u| / u := (lt_div_iff₀ positive).mpr beyond
  have average : getAverageRateOverHours table now currency 48 = some u :=
    getAverageRateOverHours_of_constant h.constant h.recent
  simp [publishedRate, stored, assessRateDeviation, not_le.mpr positive, moved, average]

theorem frozen_ratesBefore {schedule : RunSchedule} {sources : ℕ → SourceRates}
    {history : OracleRateTable}
    (daily : 2 * schedule.interval ≤ averagedMs) (positive : 0 < u) (positive' : 0 < v)
    (beyond : config.circuitBreakerThreshold * u < |v - u|) (reports : ∀ k, (sources k).Report v)
    (past : ∀ row ∈ history.rows, row.timestamp < schedule.startedAt)
    (start : Frozen currency u (schedule.averagedAt 0) history) (k : ℕ)
    : Frozen currency u (schedule.averagedAt k) (ratesBefore config currency schedule sources
        history k) := by
  have stored : ∀ k, ∃ row,
      (ratesBefore config currency schedule sources history (k + 1)).rows
        = row :: (ratesBefore config currency schedule sources history k).rows
      ∧ row.currency = currency ∧ row.timestamp = schedule.createdAt k
      ∧ row.medianRate = publishedRate config (ratesBefore config currency schedule sources
        history k)
          (schedule.averagedAt k) currency v :=
    fun k => rows_storeOracleRate (reports k) positive' (timestamp_le_createdAt past k)
  induction k with
  | zero => exact start
  | succ k ih =>
      have published := ih.publishedRate_eq positive beyond
      obtain ⟨row, rows, named, dated, rate⟩ := stored k
      refine ⟨?_, ?_, row, ?_, named, ?_⟩
      · rw [storedRate, OracleRateTable.latest, rows, List.find?_cons_of_pos (by simpa using named)]
        exact congrArg some (rate.trans published)
      · rw [rows]
        exact List.forall_mem_cons.mpr ⟨fun _ => rate.trans published, ih.constant⟩
      · rw [rows]
        exact List.mem_cons_self
      · have before := (schedule.averaged_le (k + 1)).trans_lt (schedule.created_lt (k + 1))
        have after := (schedule.started_le k).trans (schedule.averaged_le k)
        push_cast at before
        rw [dated]
        linarith

end

-- Runs every six hours

def everySixHours : RunSchedule where
  startedAt := 0
  interval := 6 * 60 * 60 * 1000
  interval_pos := by norm_num
  averagedAt k := k * (6 * 60 * 60 * 1000)
  createdAt k := k * (6 * 60 * 60 * 1000) + 1000
  started_le k := by simp
  averaged_le k := by simp
  created_lt k := by linarith

def allReport (v : ℚ) : SourceRates where
  centralBankRate := some v
  fintechRate := some v
  forexRate := some v
  worldBankRate := some v

theorem allReport_report {v : ℚ} : (allReport v).Report v where
  agree rate member r there := by
    simp only [allReport, List.mem_cons, List.not_mem_nil, or_false, or_self] at member
    rw [member] at there
    exact (Option.some.inj there).symm
  reported := ⟨some v, by simp [allReport], rfl⟩

/-- A rate of 100, stored an hour before the first run. -/
def storedHundred : OracleRateTable where
  rows :=
    [{ currency := "NGN"
       rateUsd := 100
       centralBankRate := some 100
       fintechRate := some 100
       forexRate := some 100
       medianRate := 100
       worldBankRate := some 100
       deviationFromPreviousRate := none
       reviewRequired := false
       timestamp := -3600000 }]
  newestFirst := List.pairwise_singleton _ _

theorem storedHundred_past
    : ∀ row ∈ storedHundred.rows, row.timestamp < everySixHours.startedAt := by
  decide

/-- A rise by five per cent is let through at once. -/
theorem breaker_recovers_small_move
    : everySixHours.Past48h 9
      ∧ ∀ k, everySixHours.Past48h k →
          storedRate (ratesBefore {} "NGN" everySixHours (fun _ => allReport 105) storedHundred
            (k + 1)) "NGN"
            = some 105 := by
  refine ⟨by norm_num [RunSchedule.Past48h, averagedMs, everySixHours], ?_⟩
  refine (breaker_recovers_iff {} "NGN" 105 everySixHours (fun _ => allReport 105) storedHundred
    (by norm_num)
    (fun _ => allReport_report) storedHundred_past).mpr ⟨0, fun k _ => Nat.zero_le k, .inl ?_⟩
  intro previous stored
  obtain rfl : 100 = previous := Option.some.inj stored
  exact .inr (by norm_num)

/-- A rise by a quarter is never let through: every run stores the old rate again. -/
theorem breaker_freezes
    : (∀ k, storedRate (ratesBefore {} "NGN" everySixHours (fun _ => allReport 125) storedHundred
        (k + 1)) "NGN"
        = some 100)
      ∧ ¬ ∀ k, everySixHours.Past48h k →
          storedRate (ratesBefore {} "NGN" everySixHours (fun _ => allReport 125) storedHundred
            (k + 1)) "NGN"
            = some 125 := by
  have start : Frozen "NGN" 100 (everySixHours.averagedAt 0) storedHundred :=
    ⟨rfl, by decide, by decide⟩
  have frozen := fun k => (@frozen_ratesBefore {} "NGN" 100 125 everySixHours
    (fun _ => allReport 125)
    storedHundred (by decide) (by norm_num) (by norm_num) (by norm_num) (fun _ => allReport_report)
    storedHundred_past start k).stored
  refine ⟨fun k => frozen (k + 1), fun recovers => ?_⟩
  have gone : everySixHours.Past48h 9 := by
    norm_num [RunSchedule.Past48h, averagedMs, everySixHours]
  have same := (frozen 10).symm.trans (recovers 9 gone)
  exact absurd (Option.some.inj same) (by norm_num)

end AcbuBackend.Rates

import AcbuBackend.Rates.CurrencyConverter

/-! What the rate pipeline makes of an oracle rate.
The writer stores the amount of a currency in its slice of one ACBU; the reader takes the
column for the amount that is worth a whole ACBU.
-/

namespace AcbuBackend.Rates

open AcbuBackend.Runtime

/-- Both conversions value `x` units of `currency` at `r` USD each. -/
def ConvertsAt (now : ℤ) (s : RateState) (x : ℚ) (currency : String) (r : ℚ) : Prop :=
  (convertLocalToUsd now s x currency).1 = .ok (x * r)
  ∧ (convertLocalToUsdWithPrecision now s x currency).1.map (·.usdAmountDecimal) = .ok (x * r)

/-- A row prices `currency` at `r` USD, as far as the amount `x` can tell. -/
def RowConvertsAt (row : AcbuRate) (x : ℚ) (currency : String) (r : ℚ) : Prop :=
  ∃ rateField rate,
    currencyToRateField currency = some rateField
    ∧ rateField row = some rate
    ∧ 0 < rate
    ∧ 0 < row.acbuUsd
    ∧ (x = 0 ∨ row.acbuUsd = r * rate)

def storedCurrencies : List String :=
  ["NGN", "KES", "ZAR", "RWF", "GHS", "EGP", "MAD", "TZS", "UGX", "XOF"]

/-- When the pipeline agrees, in terms of the state before the write: an older row that is
still served has the rate; otherwise the basket is that one currency, or it is the dollar at
par, or the amount is zero in a stored currency.
-/
def PipelineAgrees (s : RateState) (createdAt readAt : ℤ) (basket : List BasketLegInput)
    (x : ℚ) (currency : String) (r : ℚ)
    : Prop :=
  match s.staleRow? createdAt readAt with
  | some served => RowConvertsAt served x currency r
  | none =>
      (currency ∈ storedCurrencies ∧ (x = 0 ∨ basket.length = 1))
      ∨ (currency = "USD" ∧ (x = 0 ∨ r = 1))

theorem scaled_eq_iff {x rate usd r : ℚ} (positive : 0 < rate)
    : x / rate * usd = x * r ↔ x = 0 ∨ usd = r * rate := by
  have nonzero : rate ≠ 0 := ne_of_gt positive
  have cleared : x / rate * usd = x * r ↔ x * usd = x * (r * rate) := by
    constructor
    · intro same
      field_simp at same
      linarith
    · intro same
      field_simp
      linarith
  rw [cleared, mul_eq_mul_left_iff, or_comm]

theorem convertsAt_iff {now : ℤ} {s : RateState} {x r : ℚ} {currency : String}
    : ConvertsAt now s x currency r
      ↔ ∃ row, (getLatestAcbuRate now s).1 = some row ∧ RowConvertsAt row x currency r := by
  unfold ConvertsAt RowConvertsAt
  rw [convertLocalToUsd_fst, convertLocalToUsdWithPrecision_fst]
  cases served : (getLatestAcbuRate now s).1 with
  | none => cases field : currencyToRateField currency <;> simp [convertAtRate, field, Except.map]
  | some row =>
      simp only [Option.some.injEq, exists_eq_left']
      constructor
      · rintro ⟨converted, -⟩
        cases outcome : convertAtRate (some row) x currency with
        | error e => simp [outcome, Except.map] at converted
        | ok result =>
            obtain ⟨rateField, rate, field, column, positive, usd, rfl⟩ :=
              convertAtRate_eq_ok_iff.mp outcome
            have amount : x / rate * row.acbuUsd = x * r := by
              simpa [outcome, Except.map] using converted
            exact ⟨rateField, rate, field, column, positive, usd,
              (scaled_eq_iff positive).mp amount⟩
      · rintro ⟨rateField, rate, field, column, positive, usd, agree⟩
        have amount := (scaled_eq_iff positive).mpr agree
        obtain ⟨result, outcome, converted⟩ :
            ∃ result, convertAtRate (some row) x currency = .ok result
              ∧ result.usdAmount = x / rate * row.acbuUsd
              ∧ result.usdAmountDecimal = x / rate * row.acbuUsd :=
          ⟨_, convertAtRate_eq_ok_iff.mpr ⟨rateField, rate, field, column, positive, usd, rfl⟩,
            rfl, rfl⟩
        rw [outcome]
        simp [Except.map, converted, amount]

theorem getLatestAcbuRate_fst {now : ℤ} {s : RateState}
    : (getLatestAcbuRate now s).1 = (s.cachedRow? now).or s.table.latest := by
  unfold getLatestAcbuRate
  cases s.cachedRow? now <;> cases s.table.latest <;> rfl

theorem column_of_stored {basketOne : SyntheticBasketOneAcbu} {prev24h : Option AcbuRate}
    {timestamp : ℤ} {currency : String} (h : currency ∈ storedCurrencies)
    : ∃ rateField,
        currencyToRateField currency = some rateField
        ∧ rateField (acbuRateData basketOne prev24h timestamp)
          = acbuPerCurrency basketOne.legs currency := by
  simp only [storedCurrencies, List.mem_cons, List.not_mem_nil, or_false] at h
  rcases h with rfl | rfl | rfl | rfl | rfl | rfl | rfl | rfl | rfl | rfl <;>
    exact ⟨_, rfl, rfl⟩

theorem column_of_not_stored {basketOne : SyntheticBasketOneAcbu} {prev24h : Option AcbuRate}
    {timestamp : ℤ} {currency : String} {rateField : AcbuRate → Option ℚ}
    (h : currency ∉ storedCurrencies) (notDollar : currency ≠ "USD")
    (field : currencyToRateField currency = some rateField)
    : rateField (acbuRateData basketOne prev24h timestamp) = none := by
  unfold currencyToRateField at field
  split at field
  case h_11 | h_12 =>
    obtain rfl := Option.some.inj field
    rfl
  case h_13 => exact absurd rfl notDollar
  case h_14 => cases field
  all_goals exact absurd (by decide) h

/-- A stored row prices a basket currency right exactly when the basket is that currency
alone. Witness: its column is its share of the basket divided by its rate.
-/
theorem rowConvertsAt_stored_iff {latestMedianRate : String → Option ℚ}
    {basket : List BasketLegInput} {basketOne : SyntheticBasketOneAcbu}
    {prev24h : Option AcbuRate} {timestamp : ℤ} {x r : ℚ} {currency : String}
    (weights : ∀ b ∈ basket, 0 < b.weight)
    (legs : basketOne
      = { usdNotionalPerAcbu := 1
          legs := basket.map (composeLeg latestMedianRate 1 (totalWeight basket)) })
    (member : ∃ b ∈ basket, b.currency = currency)
    (rate : latestMedianRate currency = some r) (positive : 0 < r)
    (stored : currency ∈ storedCurrencies)
    : RowConvertsAt (acbuRateData basketOne prev24h timestamp) x currency r
      ↔ x = 0 ∨ basket.length = 1 := by
  obtain ⟨rateField, field, column⟩ := @column_of_stored basketOne prev24h timestamp _ stored
  have priced : ∃ leg ∈ basketOne.legs, leg.currency = currency := by
    obtain ⟨b, inBasket, named⟩ := member
    exact ⟨_, by rw [legs]; exact List.mem_map.mpr ⟨b, inBasket, rfl⟩, named⟩
  obtain ⟨leg, inLegs, named, value⟩ := acbuPerCurrency_of_mem priced
  rw [legs] at inLegs
  obtain ⟨b, inBasket, rfl⟩ := List.mem_map.mp inLegs
  have named : b.currency = currency := named
  have nonempty : basket ≠ [] := List.ne_nil_of_mem inBasket
  have total := totalWeight_pos weights nonempty
  have amount : (composeLeg latestMedianRate 1 (totalWeight basket) b).localPerOneAcbu
      = b.weight / totalWeight basket / r := by
    simp [composeLeg, named, rate]
  rw [amount] at value
  have share : 0 < b.weight / totalWeight basket / r :=
    div_pos (div_pos (weights b inBasket) total) positive
  have usd : (acbuRateData basketOne prev24h timestamp).acbuUsd = 1 := by
    simp [acbuRateData, legs]
  have alone : (1 : ℚ) = r * (b.weight / totalWeight basket / r) ↔ basket.length = 1 := by
    rw [← weight_eq_totalWeight_iff weights inBasket, mul_div_cancel₀ _ (ne_of_gt positive),
      eq_comm, div_eq_one_iff_eq (ne_of_gt total)]
  unfold RowConvertsAt
  constructor
  · rintro ⟨_, read, field', column', _, _, agree⟩
    obtain rfl := Option.some.inj (field.symm.trans field')
    obtain rfl := Option.some.inj ((column.trans value).symm.trans column')
    rwa [usd, alone] at agree
  · intro agree
    refine ⟨rateField, _, field, column.trans value, share, by rw [usd]; norm_num, ?_⟩
    rwa [usd, alone]

theorem rowConvertsAt_dollar_iff {basketOne : SyntheticBasketOneAcbu}
    {prev24h : Option AcbuRate} {timestamp : ℤ} {x r : ℚ}
    (notional : basketOne.usdNotionalPerAcbu = 1)
    : RowConvertsAt (acbuRateData basketOne prev24h timestamp) x "USD" r ↔ x = 0 ∨ r = 1 := by
  have usd : (acbuRateData basketOne prev24h timestamp).acbuUsd = 1 := notional
  unfold RowConvertsAt
  constructor
  · rintro ⟨_, read, field, column, _, _, agree⟩
    obtain rfl := Option.some.inj field
    obtain rfl := Option.some.inj column
    simpa [usd, eq_comm] using agree
  · intro agree
    refine ⟨_, _, rfl, rfl, by rw [usd]; norm_num, by rw [usd]; norm_num, ?_⟩
    simpa [usd, eq_comm] using agree

theorem getLatest_storeAcbuRate {s : RateState} {basket : List BasketLegInput}
    {latestMedianRate : String → Option ℚ} {startedAt createdAt readAt : ℤ}
    {basketOne : SyntheticBasketOneAcbu}
    (composed : computeSyntheticBasketOneAcbuForBasket latestMedianRate basket 1 = some basketOne)
    (nonempty : basketOne.legs ≠ [])
    : ∃ prev24h,
        (getLatestAcbuRate readAt (storeAcbuRate startedAt createdAt latestMedianRate basket s)).1
          = (s.staleRow? createdAt readAt).or
              (some (acbuRateData basketOne prev24h createdAt)) := by
  refine ⟨s.table.latestBefore (startedAt - 24 * 60 * 60 * 1000), ?_⟩
  have written : (storeAcbuRate startedAt createdAt latestMedianRate basket s).table
      = s.table.create (acbuRateData basketOne
          (s.table.latestBefore (startedAt - 24 * 60 * 60 * 1000)) createdAt) := by
    unfold storeAcbuRate
    simp only [composed, List.length_eq_zero_iff, nonempty, if_false]
  have served : (storeAcbuRate startedAt createdAt latestMedianRate basket s).cachedRow? readAt
      = s.cachedRow? readAt := by
    simp [RateState.cachedRow?]
  rw [getLatestAcbuRate_fst, served, written, AcbuRateTable.latest_create, RateState.staleRow?,
    Option.or_assoc]
  rfl

/-- The pipeline returns the oracle rate it was fed exactly under `PipelineAgrees`. -/
theorem convertsAt_storeAcbuRate_iff (s : RateState) (basket : List BasketLegInput)
    (latestMedianRate : String → Option ℚ) (startedAt createdAt readAt : ℤ) (x r : ℚ)
    (currency : String)
    (weights : ∀ b ∈ basket, 0 < b.weight)
    (rates : ∀ b ∈ basket, ∃ r, latestMedianRate b.currency = some r ∧ 0 < r)
    (member : ∃ b ∈ basket, b.currency = currency)
    (rate : latestMedianRate currency = some r)
    : ConvertsAt readAt (storeAcbuRate startedAt createdAt latestMedianRate basket s) x currency r
      ↔ PipelineAgrees s createdAt readAt basket x currency r := by
  obtain ⟨b, inBasket, named⟩ := member
  have nonempty : basket ≠ [] := List.ne_nil_of_mem inBasket
  have positive : 0 < r := by
    obtain ⟨r', found, positive⟩ := rates b inBasket
    rw [named, rate] at found
    obtain rfl := Option.some.inj found
    exact positive
  have composed :
      computeSyntheticBasketOneAcbuForBasket latestMedianRate basket 1
        = some
            { usdNotionalPerAcbu := 1
              legs := basket.map (composeLeg latestMedianRate 1 (totalWeight basket)) } :=
    computeSyntheticBasket_legs weights rates nonempty
  obtain ⟨prev24h, served⟩ :=
    @getLatest_storeAcbuRate s basket latestMedianRate startedAt createdAt readAt _ composed
      (by simpa using nonempty)
  rw [convertsAt_iff, served]
  unfold PipelineAgrees
  cases stale : s.staleRow? createdAt readAt with
  | some old => simp
  | none =>
      simp only [Option.none_or, Option.some.injEq, exists_eq_left']
      by_cases stored : currency ∈ storedCurrencies
      · have notDollar : currency ≠ "USD" := by
          rintro rfl
          exact absurd stored (by decide)
        rw [rowConvertsAt_stored_iff weights rfl ⟨b, inBasket, named⟩ rate positive stored]
        simp [stored, notDollar]
      · by_cases dollar : currency = "USD"
        · subst dollar
          rw [rowConvertsAt_dollar_iff rfl]
          simp [stored]
        · simp only [stored, dollar, false_and, or_self, iff_false]
          rintro ⟨rateField, rate, field, column, _⟩
          rw [column_of_not_stored stored dollar field] at column
          cases column

def emptyRateState : RateState where
  table := { rows := [], newestFirst := List.Pairwise.nil }
  cache := { cached := none, expiresAt := 0 }

/-- With two currencies in the basket, 100 NGN at one cent each convert to two dollars. -/
theorem convertsAt_storeAcbuRate_fails
    : (∀ b ∈ [BasketLegInput.mk "NGN" 50, BasketLegInput.mk "KES" 50], 0 < b.weight)
      ∧ (convertLocalToUsd 1
          (storeAcbuRate 0 0 (fun _ => some (1 / 100))
            [BasketLegInput.mk "NGN" 50, BasketLegInput.mk "KES" 50] emptyRateState)
          100 "NGN").1 = .ok 2
      ∧ ¬ ConvertsAt 1
          (storeAcbuRate 0 0 (fun _ => some (1 / 100))
            [BasketLegInput.mk "NGN" 50, BasketLegInput.mk "KES" 50] emptyRateState)
          100 "NGN" (1 / 100) := by
  have converted : (convertLocalToUsd 1
      (storeAcbuRate 0 0 (fun _ => some (1 / 100))
        [BasketLegInput.mk "NGN" 50, BasketLegInput.mk "KES" 50] emptyRateState)
      100 "NGN").1 = .ok 2 := by
    decide +kernel
  refine ⟨by decide +kernel, converted, ?_⟩
  rintro ⟨agreed, -⟩
  rw [converted] at agreed
  have : (2 : ℚ) = 100 * (1 / 100) := Except.ok.inj agreed
  norm_num at this

/-- A basket of one currency, read without a cached row. -/
theorem convertsAt_storeAcbuRate_single
    : ConvertsAt 1
        (storeAcbuRate 0 0 (fun _ => some (1 / 100)) [BasketLegInput.mk "NGN" 100]
          emptyRateState)
        100 "NGN" (1 / 100) :=
  (convertsAt_storeAcbuRate_iff emptyRateState [BasketLegInput.mk "NGN" 100]
    (fun _ => some (1 / 100)) 0 0 1 100 (1 / 100) "NGN"
    (by decide +kernel)
    (fun _ _ => ⟨1 / 100, rfl, by norm_num⟩)
    ⟨BasketLegInput.mk "NGN" 100, by simp, rfl⟩
    rfl).mpr
    (Or.inl ⟨by decide, Or.inr rfl⟩)

end AcbuBackend.Rates

import AcbuBackend.Rates.SyntheticBasket
import Mathlib.Data.List.Induction
import Mathlib.Data.List.Sort

/-! The stored ACBU rates, the cache in front of them, and how a round of oracle rates is
written. Instants are milliseconds.
-/

namespace AcbuBackend.Rates

/-- A row of `acbu_rates`. -/
structure AcbuRate where
  acbuUsd : ℚ
  acbuEur : Option ℚ
  acbuGbp : Option ℚ
  acbuNgn : Option ℚ
  acbuKes : Option ℚ
  acbuZar : Option ℚ
  acbuRwf : Option ℚ
  acbuGhs : Option ℚ
  acbuEgp : Option ℚ
  acbuMad : Option ℚ
  acbuTzs : Option ℚ
  acbuUgx : Option ℚ
  acbuXof : Option ℚ
  change24hUsd : Option ℚ
  timestamp : ℤ
deriving DecidableEq

/-- `acbu_rates` in the order of `orderBy: { timestamp: "desc" }`. -/
structure AcbuRateTable where
  rows : List AcbuRate
  newestFirst : rows.Pairwise (fun a b => b.timestamp ≤ a.timestamp)

namespace AcbuRateTable

/-- `findFirst({ orderBy: { timestamp: "desc" } })`. -/
def latest (table : AcbuRateTable) : Option AcbuRate :=
  table.rows.head?

/-- `findFirst({ where: { timestamp: { lt: instant } }, orderBy: { timestamp: "desc" } })`. -/
def latestBefore (table : AcbuRateTable) (instant : ℤ) : Option AcbuRate :=
  table.rows.find? (fun row => row.timestamp < instant)

def create (table : AcbuRateTable) (row : AcbuRate) : AcbuRateTable where
  rows := table.rows.orderedInsert (fun a b => b.timestamp ≤ a.timestamp) row
  newestFirst := by
    have : Std.Total (fun a b : AcbuRate => b.timestamp ≤ a.timestamp) :=
      ⟨fun a b => le_total b.timestamp a.timestamp⟩
    have : IsTrans AcbuRate (fun a b => b.timestamp ≤ a.timestamp) :=
      ⟨fun _ _ _ first second => le_trans second first⟩
    exact table.newestFirst.orderedInsert row _

theorem latest_create {table : AcbuRateTable} {row : AcbuRate}
    : (table.create row).latest
      = (table.latest.filter (fun older => row.timestamp < older.timestamp)).or (some row) := by
  unfold latest
  change (table.rows.orderedInsert _ row).head? = _
  cases table.rows with
  | nil => rfl
  | cons newest rest =>
      by_cases later : newest.timestamp ≤ row.timestamp
      · simp [List.orderedInsert_cons, Option.filter, later, not_lt.mpr later]
      · simp [List.orderedInsert_cons, Option.filter, later, not_le.mp later]

end AcbuRateTable

/-- The module state of the cache. -/
structure AcbuRateCache where
  cached : Option AcbuRate
  expiresAt : ℤ

structure RateState where
  table : AcbuRateTable
  cache : AcbuRateCache

/-- `TTL_MS`. -/
def ttlMs : ℤ := 10000

def RateState.cachedRow? (s : RateState) (now : ℤ) : Option AcbuRate :=
  if now < s.cache.expiresAt then s.cache.cached else none

/-- The row that a row created at `createdAt` does not replace for a reader at `readAt`. -/
def RateState.staleRow? (s : RateState) (createdAt readAt : ℤ) : Option AcbuRate :=
  (s.cachedRow? readAt).or
    (s.table.latest.filter (fun newest => createdAt < newest.timestamp))

/-- `getLatestAcbuRate`, `none` standing for its error. -/
def getLatestAcbuRate (now : ℤ) (s : RateState) : Option AcbuRate × RateState :=
  match s.cachedRow? now with
  | some row => (some row, s)
  | none =>
      match s.table.latest with
      | some row => (some row, { s with cache := { cached := some row, expiresAt := now + ttlMs } })
      | none => (none, s)

/-- `acbuPerCurrency`: a later leg of a currency overwrites an earlier one. -/
def acbuPerCurrency (legs : List SyntheticBasketLeg) : String → Option ℚ :=
  legs.foldl (fun m leg => Function.update m leg.currency (some leg.localPerOneAcbu))
    (fun _ => none)

/-- The row a composed basket is stored as. -/
def acbuRateData (basketOne : SyntheticBasketOneAcbu) (prev24h : Option AcbuRate)
    (timestamp : ℤ)
    : AcbuRate :=
  let acbuUsd := basketOne.usdNotionalPerAcbu
  let perCurrency := acbuPerCurrency basketOne.legs
  { acbuUsd
    change24hUsd :=
      prev24h.bind (fun prev =>
        if 0 < acbuUsd then some ((acbuUsd - prev.acbuUsd) / prev.acbuUsd * 100) else none)
    acbuEur := none
    acbuGbp := none
    acbuNgn := perCurrency "NGN"
    acbuKes := perCurrency "KES"
    acbuZar := perCurrency "ZAR"
    acbuRwf := perCurrency "RWF"
    acbuGhs := perCurrency "GHS"
    acbuEgp := perCurrency "EGP"
    acbuMad := perCurrency "MAD"
    acbuTzs := perCurrency "TZS"
    acbuUgx := perCurrency "UGX"
    acbuXof := perCurrency "XOF"
    timestamp }

/-- The end of `fetchAndStoreRates`, after the oracle rates of the round are stored.
`startedAt` is its `now`; the row is dated by the database.
-/
def storeAcbuRate (startedAt createdAt : ℤ) (latestMedianRate : String → Option ℚ)
    (basket : List BasketLegInput) (s : RateState)
    : RateState :=
  match computeSyntheticBasketOneAcbuForBasket latestMedianRate basket 1 with
  | none => s
  | some basketOne =>
      if basketOne.legs.length = 0 then s
      else
        let prev24h := s.table.latestBefore (startedAt - 24 * 60 * 60 * 1000)
        { s with table := s.table.create (acbuRateData basketOne prev24h createdAt) }

@[simp] theorem storeAcbuRate_cache {startedAt createdAt : ℤ}
    {latestMedianRate : String → Option ℚ} {basket : List BasketLegInput} {s : RateState}
    : (storeAcbuRate startedAt createdAt latestMedianRate basket s).cache = s.cache := by
  unfold storeAcbuRate
  split
  · rfl
  · split <;> rfl

theorem acbuPerCurrency_append (legs : List SyntheticBasketLeg) (leg : SyntheticBasketLeg)
    : acbuPerCurrency (legs ++ [leg])
      = Function.update (acbuPerCurrency legs) leg.currency (some leg.localPerOneAcbu) := by
  simp [acbuPerCurrency]

theorem acbuPerCurrency_of_mem {legs : List SyntheticBasketLeg} {currency : String}
    (h : ∃ leg ∈ legs, leg.currency = currency)
    : ∃ leg ∈ legs, leg.currency = currency
        ∧ acbuPerCurrency legs currency = some leg.localPerOneAcbu := by
  induction legs using List.reverseRecOn with
  | nil => simp at h
  | append_singleton legs last ih =>
      rw [acbuPerCurrency_append]
      by_cases same : last.currency = currency
      · refine ⟨last, by simp, same, ?_⟩
        rw [← same, Function.update_self]
      · obtain ⟨leg, member, named⟩ := h
        have earlier : leg ∈ legs := by
          rcases List.mem_append.mp member with earlier | isLast
          · exact earlier
          · rw [List.mem_singleton.mp isLast] at named
            exact absurd named same
        obtain ⟨found, foundMember, foundNamed, stored⟩ := ih ⟨leg, earlier, named⟩
        refine ⟨found, List.mem_append_left _ foundMember, foundNamed, ?_⟩
        rw [Function.update_of_ne (Ne.symm same)]
        exact stored

end AcbuBackend.Rates

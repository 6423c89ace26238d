import AcbuBackend.Runtime.JsMap
import AcbuBackend.Runtime.NumberText
import Mathlib.Data.List.Sort

/-! The treasury totals and their reconciliation against the ledger.
Numbers are exact rationals where the source adds doubles. Rows are in the order in which the
queries return them.
-/

namespace AcbuBackend.Treasury

open AcbuBackend.Runtime

def DEFAULT_TOLERANCE_PERCENTAGE : ℚ := 1 / 100

def DAYS_FOR_FX_FALLBACK : ℤ := 7

def SEGMENT_TRANSACTIONS : String := "transactions"

def SEGMENT_INVESTMENT_SAVINGS : String := "investment_savings"

-- The database

structure TransactionRow where
  type : String
  status : String
  localCurrency : Option String
  usdcAmount : Option ℚ

structure ReserveRow where
  currency : String
  segment : String
  reserveAmount : ℚ
  reserveValueUsd : ℚ
  timestamp : ℤ

structure OracleRate where
  currency : String
  rateUsd : ℚ
  timestamp : ℤ

structure Database where
  transactions : List TransactionRow
  reserves : List ReserveRow
  oracleRates : List OracleRate
  now : ℤ

def newestFirst {ρ : Type} (timestamp : ρ → ℤ) (rows : List ρ) : List ρ :=
  rows.insertionSort (fun row other => timestamp other ≤ timestamp row)

def decimalToNumber (value : Option ℚ) : ℚ :=
  value.getD 0

-- Transactions by currency

structure TransactionAggregate where
  currency : String
  totalMintedUsd : ℚ
  totalBurnedUsd : ℚ
  netTransferredUsd : ℚ
  transactionCount : Nat

/-- The condition of the query. -/
def TransactionRow.selected (tx : TransactionRow) : Bool :=
  ["completed", "processing"].contains tx.status && ["mint", "burn", "transfer"].contains tx.type

/-- The rows that are read. -/
def TRANSACTION_CAP : Nat := 50000

def Database.readTransactions (db : Database) : List TransactionRow :=
  (db.transactions.filter TransactionRow.selected).take TRANSACTION_CAP

def TransactionRow.addTo (tx : TransactionRow) (existing : TransactionAggregate)
    : TransactionAggregate :=
  let amount := decimalToNumber tx.usdcAmount
  let counted := { existing with transactionCount := existing.transactionCount + 1 }
  if tx.type = "mint" then { counted with totalMintedUsd := existing.totalMintedUsd + amount }
  else if tx.type = "burn" then { counted with totalBurnedUsd := existing.totalBurnedUsd + amount }
  else if tx.type = "transfer" then
    { counted with netTransferredUsd := existing.netTransferredUsd + amount }
  else counted

/-- One round of the loop. A row without a currency is skipped. -/
def addTransaction (aggregates : JsMap String TransactionAggregate) (tx : TransactionRow)
    : JsMap String TransactionAggregate :=
  match tx.localCurrency with
  | none => aggregates
  | some currency =>
      if currency = "" then aggregates
      else
        let existing := (aggregates.get currency).getD
          { currency, totalMintedUsd := 0, totalBurnedUsd := 0, netTransferredUsd := 0,
            transactionCount := 0 }
        aggregates.set currency (tx.addTo existing)

def aggregateTransactionsBySegment (db : Database) : JsMap String TransactionAggregate :=
  db.readTransactions.foldl addTransaction .empty

-- Reserves by currency and segment

structure ReserveSnapshot where
  currency : String
  segment : String
  amount : ℚ
  valueUsd : ℚ
  timestamp : ℤ

def distinctReserves (seen : List (String × String)) : List ReserveRow → List ReserveRow
  | [] => []
  | row :: rest =>
      if (row.currency, row.segment) ∈ seen then distinctReserves seen rest
      else row :: distinctReserves ((row.currency, row.segment) :: seen) rest

def getLatestReserves (db : Database) : List ReserveRow :=
  distinctReserves [] (newestFirst ReserveRow.timestamp db.reserves)

def reserveKey (currency segment : String) : String :=
  s!"{currency}:{segment}"

def getLatestReservesBySegment (db : Database) : JsMap String ReserveSnapshot :=
  (getLatestReserves db).foldl
    (fun reserveMap reserve => reserveMap.set (reserveKey reserve.currency reserve.segment)
      { currency := reserve.currency
        segment := reserve.segment
        amount := reserve.reserveAmount
        valueUsd := reserve.reserveValueUsd
        timestamp := reserve.timestamp })
    .empty

inductive FxSource
  | current
  | fallback
  | zero

structure FxRate where
  currency : String
  rateUsd : ℚ
  timestamp : ℤ
  source : FxSource

def getFxRateWithFallback (db : Database) (currency : String) : Option FxRate :=
  let rates := newestFirst OracleRate.timestamp
    (db.oracleRates.filter (fun rate => rate.currency = currency))
  match rates.head? with
  | some currentRate =>
      some { currency, rateUsd := currentRate.rateUsd, timestamp := currentRate.timestamp,
             source := .current }
  | none =>
      let fallbackDate := db.now - DAYS_FOR_FX_FALLBACK * 24 * 60 * 60 * 1000
      (rates.filter (fun rate => fallbackDate ≤ rate.timestamp)).head?.map (fun fallbackRate =>
        { currency, rateUsd := fallbackRate.rateUsd, timestamp := fallbackRate.timestamp,
          source := .fallback })

structure TreasurySegment where
  currency : String
  segment : String
  reserveAmount : ℚ
  reserveValueUsd : ℚ
  fxRate : ℚ
  fxRateTimestamp : ℤ
  fxRateSource : FxSource

def buildTreasurySegment (db : Database) (currency segment : String)
    (reserve : Option ReserveSnapshot) : TreasurySegment :=
  let unpriced : TreasurySegment :=
    { currency, segment
      reserveAmount := (reserve.map (·.amount)).getD 0
      reserveValueUsd := (reserve.map (·.valueUsd)).getD 0
      fxRate := 1
      fxRateTimestamp := db.now
      fxRateSource := .zero }
  match reserve, getFxRateWithFallback db currency with
  | some _, some fxData =>
      { unpriced with
        fxRate := fxData.rateUsd
        fxRateTimestamp := fxData.timestamp
        fxRateSource := fxData.source }
  | _, _ => unpriced

-- Reconciliation

/-- `toFixed(places)`. -/
def toFixed (places : Nat) (x : ℚ) : String :=
  let units := ⌊|x| * 10 ^ places + 1 / 2⌋.toNat
  let sign := if x < 0 then "-" else ""
  let decimals := padZeros places (Nat.toDigits 10 (units % 10 ^ places))
  s!"{sign}{units / 10 ^ places}.{String.ofList decimals}"

structure ReconciliationResult where
  ledgerTotal : ℚ
  calculatedTotal : ℚ
  discrepancy : ℚ
  discrepancyPercentage : ℚ
  isReconciled : Bool
  tolerancePercentage : ℚ
  warnings : List String

def reconcileTotals (ledgerTotalUsd calculatedTotalUsd : ℚ)
    (tolerancePercentage : ℚ := DEFAULT_TOLERANCE_PERCENTAGE) : ReconciliationResult :=
  let discrepancy := |ledgerTotalUsd - calculatedTotalUsd|
  let discrepancyPercentage :=
    if ledgerTotalUsd > 0 then discrepancy / ledgerTotalUsd * 100 else 0
  let isReconciled := decide (discrepancyPercentage ≤ tolerancePercentage)
  let warnings :=
    if !isReconciled then
      [s!"Treasury reconciliation FAILED: Ledger Total USD {toFixed 2 ledgerTotalUsd} "
        ++ s!"vs Calculated Total USD {toFixed 2 calculatedTotalUsd}, "
        ++ s!"discrepancy {toFixed 4 discrepancyPercentage}% "
        ++ s!"(tolerance: {numberText (double.round tolerancePercentage)}%)"]
    else if discrepancy > 0 then
      [s!"Treasury within tolerance: discrepancy {toFixed 4 discrepancyPercentage}% "
        ++ s!"(threshold: {numberText (double.round tolerancePercentage)}%)"]
    else []
  { ledgerTotal := ledgerTotalUsd
    calculatedTotal := calculatedTotalUsd
    discrepancy
    discrepancyPercentage
    isReconciled
    tolerancePercentage
    warnings }

-- The treasury

structure TreasuryBySegment where
  currency : String
  transactions : TreasurySegment
  investmentSavings : TreasurySegment
  reserveAmount : ℚ
  reserveValueUsd : ℚ

structure EnterpriseTreasuryResult where
  totalBalanceUsd : ℚ
  totalReserveAmount : ℚ
  transactionsSegmentUsd : ℚ
  investmentSavingsSegmentUsd : ℚ
  byCurrency : List TreasuryBySegment
  reconciliation : ReconciliationResult
  message : String

def treasuryCurrencies (reservesBySegment : JsMap String ReserveSnapshot)
    (txAggregates : JsMap String TransactionAggregate) : List String :=
  let reserved := reservesBySegment.keys.map (fun key =>
    String.ofList (key.toList.takeWhile (· ≠ ':')))
  (reserved ++ txAggregates.keys).dedup.insertionSort (fun a b => decide (a ≤ b))

def buildTreasury (db : Database) (reservesBySegment : JsMap String ReserveSnapshot)
    (currency : String) : TreasuryBySegment :=
  let txReserve := reservesBySegment.get (reserveKey currency SEGMENT_TRANSACTIONS)
  let invReserve := reservesBySegment.get (reserveKey currency SEGMENT_INVESTMENT_SAVINGS)
  let transactions := buildTreasurySegment db currency SEGMENT_TRANSACTIONS txReserve
  let investmentSavings := buildTreasurySegment db currency SEGMENT_INVESTMENT_SAVINGS invReserve
  { currency, transactions, investmentSavings
    reserveAmount := transactions.reserveAmount + investmentSavings.reserveAmount
    reserveValueUsd := transactions.reserveValueUsd + investmentSavings.reserveValueUsd }

def TransactionAggregate.total (tx : TransactionAggregate) : ℚ :=
  tx.totalMintedUsd - tx.totalBurnedUsd + tx.netTransferredUsd

def getEnterpriseTreasury (db : Database)
    (tolerancePercentage : ℚ := DEFAULT_TOLERANCE_PERCENTAGE) : EnterpriseTreasuryResult :=
  let reservesBySegment := getLatestReservesBySegment db
  let txAggregates := aggregateTransactionsBySegment db
  let byCurrency := (treasuryCurrencies reservesBySegment txAggregates).map
    (buildTreasury db reservesBySegment)
  let totalBalanceUsd := (byCurrency.map (·.reserveValueUsd)).sum
  let calculatedTotalUsd := (txAggregates.values.map TransactionAggregate.total).sum
  let reconciliation := reconcileTotals totalBalanceUsd calculatedTotalUsd tolerancePercentage
  { totalBalanceUsd
    totalReserveAmount := (byCurrency.map (·.reserveAmount)).sum
    transactionsSegmentUsd := (byCurrency.map (·.transactions.reserveValueUsd)).sum
    investmentSavingsSegmentUsd := (byCurrency.map (·.investmentSavings.reserveValueUsd)).sum
    byCurrency
    reconciliation
    message :=
      if reconciliation.isReconciled then "Treasury reconciliation successful"
      else "Treasury reconciliation failed - see warnings in reconciliation section" }

-- The verdict

/-- The totals are apart by at most a percentage of the larger of them. -/
def WithinTolerance (ledgerTotal calculatedTotal tolerance : ℚ) : Prop :=
  |ledgerTotal - calculatedTotal| ≤ tolerance / 100 * max |ledgerTotal| |calculatedTotal|

section

variable {ledgerTotal calculatedTotal further tolerance : ℚ}

theorem isReconciled_iff (holds : 0 < ledgerTotal)
    : (reconcileTotals ledgerTotal calculatedTotal tolerance).isReconciled = true
      ↔ |ledgerTotal - calculatedTotal| ≤ tolerance / 100 * ledgerTotal := by
  have percentage : |ledgerTotal - calculatedTotal| / ledgerTotal * 100 ≤ tolerance
      ↔ |ledgerTotal - calculatedTotal| ≤ tolerance / 100 * ledgerTotal := by
    rw [← le_div_iff₀ (by norm_num : (0 : ℚ) < 100), div_le_iff₀ holds]
  rw [← percentage]
  simp only [reconcileTotals, decide_eq_true_eq, gt_iff_lt, if_pos holds]

theorem isReconciled_of_empty (nonneg : 0 ≤ tolerance)
    : (reconcileTotals 0 calculatedTotal tolerance).isReconciled = true := by
  simp only [reconcileTotals, decide_eq_true_eq, gt_iff_lt, lt_irrefl, if_false]
  exact nonneg

theorem not_isReconciled_of_further (ledger : 0 ≤ ledgerTotal) (nonneg : 0 ≤ tolerance)
    (away : |ledgerTotal - calculatedTotal| ≤ |ledgerTotal - further|)
    (failed : (reconcileTotals ledgerTotal calculatedTotal tolerance).isReconciled = false)
    : (reconcileTotals ledgerTotal further tolerance).isReconciled = false := by
  rcases ledger.eq_or_lt with rfl | holds
  · rw [isReconciled_of_empty nonneg] at failed
    cases failed
  · rw [Bool.eq_false_iff, ne_eq, isReconciled_iff holds] at failed ⊢
    exact fun within => failed (away.trans within)

/-- The verdict keeps to its tolerance, and to itself as the total moves away, exactly when the
ledger holds something, or nothing was calculated either, or everything is tolerated.
-/
theorem reconcileTotals_sound_iff (ledger : 0 ≤ ledgerTotal) (nonneg : 0 ≤ tolerance)
    : ((reconcileTotals ledgerTotal calculatedTotal tolerance).isReconciled = true →
          WithinTolerance ledgerTotal calculatedTotal tolerance)
        ∧ (∀ further, |ledgerTotal - calculatedTotal| ≤ |ledgerTotal - further| →
          (reconcileTotals ledgerTotal calculatedTotal tolerance).isReconciled = false →
          (reconcileTotals ledgerTotal further tolerance).isReconciled = false)
      ↔ 0 < ledgerTotal ∨ calculatedTotal = 0 ∨ 100 ≤ tolerance := by
  rw [and_iff_left fun further => not_isReconciled_of_further ledger nonneg]
  unfold WithinTolerance
  rcases ledger.eq_or_lt with rfl | holds
  · rw [imp_iff_right (isReconciled_of_empty nonneg), zero_sub, abs_neg, abs_zero,
      max_eq_right (abs_nonneg _), or_iff_right (lt_irrefl 0)]
    rcases eq_or_ne calculatedTotal 0 with rfl | apart
    · simp
    · have positive := abs_pos.mpr apart
      rw [or_iff_right apart, le_mul_iff_one_le_left positive, le_div_iff₀ (by norm_num), one_mul]
  · refine iff_of_true (fun reconciled => ?_) (.inl holds)
    have within := (isReconciled_iff holds).mp reconciled
    refine within.trans (mul_le_mul_of_nonneg_left ?_ (by positivity))
    exact (le_abs_self ledgerTotal).trans (le_max_left _ _)

end

theorem reconcileTotals_sound_hundred
    : ((reconcileTotals 100 (100 + 1 / 200)).isReconciled = true →
          WithinTolerance 100 (100 + 1 / 200) DEFAULT_TOLERANCE_PERCENTAGE)
        ∧ (∀ further, |(100 : ℚ) - (100 + 1 / 200)| ≤ |100 - further| →
          (reconcileTotals 100 (100 + 1 / 200)).isReconciled = false →
          (reconcileTotals 100 further).isReconciled = false) :=
  (reconcileTotals_sound_iff (by norm_num) (by decide +kernel)).mpr (.inl (by norm_num))

/-- A million that was calculated is reconciled with nothing in the ledger. -/
theorem million_reconciled_with_nothing
    : (reconcileTotals 0 1000000).isReconciled = true
      ∧ ¬ WithinTolerance 0 1000000 DEFAULT_TOLERANCE_PERCENTAGE := by
  refine ⟨isReconciled_of_empty (by decide +kernel), ?_⟩
  unfold WithinTolerance DEFAULT_TOLERANCE_PERCENTAGE
  norm_num

-- The calculated total

/-- What a row counts for: mints and transfers are added, burns are taken off. -/
def TransactionRow.signedUsd (tx : TransactionRow) : ℚ :=
  if tx.type = "mint" then decimalToNumber tx.usdcAmount
  else if tx.type = "burn" then -decimalToNumber tx.usdcAmount
  else if tx.type = "transfer" then decimalToNumber tx.usdcAmount
  else 0

def TransactionRow.hasCurrency (tx : TransactionRow) : Bool :=
  tx.localCurrency.any (fun currency => currency ≠ "")

def sumUsd (rows : List TransactionRow) : ℚ :=
  (rows.map TransactionRow.signedUsd).sum

theorem total_addTo {tx : TransactionRow} {existing : TransactionAggregate}
    : (tx.addTo existing).total = existing.total + tx.signedUsd := by
  unfold TransactionRow.addTo TransactionRow.signedUsd TransactionAggregate.total
  dsimp only
  split
  · ring
  split
  · ring
  split
  · ring
  · ring

theorem total_addTransaction {aggregates : JsMap String TransactionAggregate} {tx : TransactionRow}
    : ((addTransaction aggregates tx).values.map TransactionAggregate.total).sum
      = (aggregates.values.map TransactionAggregate.total).sum
        + if tx.hasCurrency then tx.signedUsd else 0 := by
  unfold addTransaction TransactionRow.hasCurrency
  cases tx.localCurrency with
  | none => simp
  | some currency =>
      by_cases empty : currency = ""
      · simp [empty]
      · have named : (some currency).any (fun currency => currency ≠ "") = true := by
          simp [empty]
        dsimp only
        rw [if_neg empty, named, if_pos rfl, JsMap.sum_values_set, total_addTo]
        cases aggregates.get currency with
        | none =>
            rw [Option.elim_none, Option.getD_none, TransactionAggregate.total]
            ring
        | some existing =>
            rw [Option.elim_some, Option.getD_some]
            ring

theorem total_aggregates {aggregates : JsMap String TransactionAggregate}
    {rows : List TransactionRow}
    : ((rows.foldl addTransaction aggregates).values.map TransactionAggregate.total).sum
      = (aggregates.values.map TransactionAggregate.total).sum
        + sumUsd (rows.filter TransactionRow.hasCurrency) := by
  induction rows generalizing aggregates with
  | nil => simp [sumUsd]
  | cons tx rest ih =>
      rw [List.foldl_cons, ih, total_addTransaction, List.filter_cons]
      split
      · rw [sumUsd, sumUsd, List.map_cons, List.sum_cons, add_assoc]
      · rw [add_zero]

theorem total_read (db : Database)
    : ((aggregateTransactionsBySegment db).values.map TransactionAggregate.total).sum
      = sumUsd (db.readTransactions.filter TransactionRow.hasCurrency) := by
  have none_ : (((.empty : JsMap String TransactionAggregate).values).map
      TransactionAggregate.total).sum = 0 := rfl
  rw [aggregateTransactionsBySegment, total_aggregates, none_, zero_add]

theorem readTransactions_of_small {db : Database}
    (few : (db.transactions.filter TransactionRow.selected).length ≤ TRANSACTION_CAP)
    (named : ∀ tx ∈ db.transactions.filter TransactionRow.selected, tx.hasCurrency = true)
    : db.readTransactions.filter TransactionRow.hasCurrency
      = db.transactions.filter TransactionRow.selected := by
  rw [Database.readTransactions, List.take_of_length_le few, List.filter_eq_self.mpr named]

/-- In exact arithmetic, the total that is reconciled counts the rows that are read and have a
currency. With no more rows than are read, and a currency in each, it counts them all.
-/
theorem calculatedTotal_eq (db : Database) (tolerancePercentage : ℚ)
    : (getEnterpriseTreasury db tolerancePercentage).reconciliation.calculatedTotal
        = sumUsd (((db.transactions.filter TransactionRow.selected).take TRANSACTION_CAP).filter
          TransactionRow.hasCurrency)
      ∧ ((db.transactions.filter TransactionRow.selected).length ≤ TRANSACTION_CAP →
        (∀ tx ∈ db.transactions.filter TransactionRow.selected, tx.hasCurrency = true) →
        (getEnterpriseTreasury db tolerancePercentage).reconciliation.calculatedTotal
          = sumUsd (db.transactions.filter TransactionRow.selected)) := by
  refine ⟨total_read db, fun few named => ?_⟩
  exact (total_read db).trans (congrArg sumUsd (readTransactions_of_small few named))

def mintRow (localCurrency : Option String) : TransactionRow where
  type := "mint"
  status := "completed"
  localCurrency := localCurrency
  usdcAmount := some 1

def tableOf (rows : List TransactionRow) : Database where
  transactions := rows
  reserves := []
  oracleRates := []
  now := 0

/-- A mint without a currency is not counted, and neither is one behind the rows that are read. -/
theorem uncounted_mints
    : ((getEnterpriseTreasury (tableOf [mintRow none])).reconciliation.calculatedTotal = 0
        ∧ sumUsd ((tableOf [mintRow none]).transactions.filter TransactionRow.selected) = 1)
      ∧ (getEnterpriseTreasury (tableOf (List.replicate 50001 (mintRow (some "NGN"))))
          ).reconciliation.calculatedTotal = 50000
      ∧ sumUsd ((tableOf (List.replicate 50001 (mintRow (some "NGN")))).transactions.filter
          TransactionRow.selected) = 50001 := by
  have read : (mintRow (some "NGN")).selected = true := by decide
  have named : (mintRow (some "NGN")).hasCurrency = true := by decide
  have dollars : ∀ n : Nat, sumUsd (List.replicate n (mintRow (some "NGN"))) = n := by
    intro n
    rw [sumUsd, List.map_replicate, List.sum_replicate, nsmul_eq_mul]
    exact mul_one _
  have counted : ∀ n : Nat, (getEnterpriseTreasury
      (tableOf (List.replicate n (mintRow (some "NGN"))))).reconciliation.calculatedTotal
        = (min TRANSACTION_CAP n : Nat) := by
    intro n
    refine (total_read _).trans ?_
    rw [Database.readTransactions, tableOf, List.filter_replicate_of_pos read, List.take_replicate,
      List.filter_replicate_of_pos named, dollars]
  have all : ∀ n : Nat,
      sumUsd ((tableOf (List.replicate n (mintRow (some "NGN")))).transactions.filter
        TransactionRow.selected) = n := by
    intro n
    rw [tableOf, List.filter_replicate_of_pos read, dollars]
  refine ⟨by decide +kernel, (counted 50001).trans ?_, (all 50001).trans ?_⟩
  · norm_num [TRANSACTION_CAP]
  · norm_num

end AcbuBackend.Treasury

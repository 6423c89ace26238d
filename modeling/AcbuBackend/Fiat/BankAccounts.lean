import AcbuBackend.Rates.OracleRates
import AcbuBackend.Reserves.ReserveTracker
import Mathlib.Algebra.Order.Field.Basic

/-! The demo bank accounts of a user, and the dollar value they are shown with.
Amounts are exact rationals; that they are shown as text is left out.
-/

namespace AcbuBackend.Fiat

open Effects Rates

def BASKET_CURRENCIES : List String :=
  ["NGN", "ZAR", "KES", "EGP", "GHS", "RWF", "XOF", "MAD", "TZS", "UGX"]

structure User where
  id : String
  username : Option String
  phoneE164 : Option String

/-- The columns of a transaction that are read here, with the `source` of its rate snapshot. -/
structure TransactionRow where
  userId : String
  type : String
  status : String
  localCurrency : Option String
  localAmount : Option ℚ
  rateSnapshotSource : Option String

structure Database where
  users : List User
  transactions : List TransactionRow
  oracleRates : OracleRateTable

def Database.faucetRows (db : Database) (userId : String) : List TransactionRow :=
  (db.transactions.filter (fun row =>
    row.userId = userId && row.type = "mint" && row.status = "completed"
      && row.localCurrency.any BASKET_CURRENCIES.contains && row.localAmount.isSome
      && row.rateSnapshotSource = some "admin_drip_demo_fiat")).take 1000

/-- `distinct: ["currency"]`: the first row of each currency that is not seen yet. -/
def distinctCurrency (seen : List String) : List OracleRate → List OracleRate
  | [] => []
  | row :: rest =>
      if row.currency ∈ seen then distinctCurrency seen rest
      else row :: distinctCurrency (row.currency :: seen) rest

/-- The newest rate of each basket currency. -/
def Database.latestRates (db : Database) : List OracleRate :=
  distinctCurrency [] (db.oracleRates.rows.filter (fun row => row.currency ∈ BASKET_CURRENCIES))

structure FiatAccountView where
  id : String
  currency : String
  balance : ℚ
  usd_equivalent : Option ℚ
  bank_name : String
  account_number : String
deriving DecidableEq

/-- The name the account numbers start with. Empty names count as absent. -/
def accountSuffix (user : Option User) : String :=
  ((user.bind (·.username)).filter (· ≠ "")).getD
    (((user.bind (·.phoneE164)).filter (· ≠ "")).getD
      ((user.map (fun user => String.ofList (user.id.toList.take 8))).filter
        (· ≠ "") |>.getD "user"))

def addFaucetRow (balances : String → Option ℚ) (row : TransactionRow) : String → Option ℚ :=
  let c := row.localCurrency.getD ""
  match row.localAmount with
  | none => balances
  | some localAmount =>
      match balances c with
      | none => balances
      | some balance => Function.update balances c (some (balance + localAmount))

def addFaucetRows (rows : List TransactionRow) : String → Option ℚ :=
  rows.foldl addFaucetRow (fun c => if c ∈ BASKET_CURRENCIES then some 0 else none)

def addRate (usdRates : String → Option ℚ) (row : OracleRate) : String → Option ℚ :=
  Function.update usdRates row.currency (some row.rateUsd)

def usdRatesOf (rows : List OracleRate) : String → Option ℚ :=
  rows.foldl addRate (fun _ => none)

def getBankAccounts (db : Database) (userId : String) : List FiatAccountView :=
  let suffix := accountSuffix (db.users.find? (fun user => user.id = userId))
  let balances := addFaucetRows (db.faucetRows userId)
  let usdRates := usdRatesOf db.latestRates
  BASKET_CURRENCIES.map (fun currency =>
    let balance := (balances currency).getD 0
    let rateUsd := (usdRates currency).getD 0
    { id := s!"{currency}-{userId}"
      currency
      balance
      usd_equivalent := if 0 < rateUsd then some (balance / rateUsd) else none
      bank_name := "Soroban (demo basket)"
      account_number := s!"{suffix}-{currency}" })

-- What the accounts show

variable {db : Database} {userId currency : String} {view : FiatAccountView}

def Database.faucetTotal (db : Database) (userId currency : String) : ℚ :=
  (((db.faucetRows userId).filter (fun row => row.localCurrency = some currency)).map
    (fun row => row.localAmount.getD 0)).sum

theorem addFaucetRow_eq {balances : String → Option ℚ} {row : TransactionRow} {balance : ℚ}
    (there : row.localCurrency.isSome = true) (paid : row.localAmount.isSome = true)
    (counted : balances currency = some balance)
    : addFaucetRow balances row currency
      = some (balance + if row.localCurrency = some currency then row.localAmount.getD 0 else
        0) := by
  obtain ⟨c, named⟩ := Option.isSome_iff_exists.mp there
  obtain ⟨amount, paid⟩ := Option.isSome_iff_exists.mp paid
  unfold addFaucetRow
  rw [named, paid]
  by_cases same : c = currency
  · subst same
    simp [counted]
  · simp only [Option.getD_some, Option.some.injEq, if_neg same, add_zero]
    cases balances c with
    | none => exact counted
    | some _ => exact (Function.update_of_ne (Ne.symm same) _ _).trans counted

theorem addFaucetRows_eq (member : currency ∈ BASKET_CURRENCIES)
    : addFaucetRows (db.faucetRows userId) currency = some (db.faucetTotal userId currency) := by
  have complete : ∀ row ∈ db.faucetRows userId,
      row.localCurrency.isSome = true ∧ row.localAmount.isSome = true := by
    intro row there
    have known := (List.mem_filter.mp (List.mem_of_mem_take there)).2
    simp only [Bool.and_eq_true, Option.any_eq_true] at known
    obtain ⟨⟨⟨-, c, named, -⟩, paid⟩, -⟩ := known
    exact ⟨by simp [named], paid⟩
  have summed : ∀ (rows : List TransactionRow) (balances : String → Option ℚ) (balance : ℚ),
      (∀ row ∈ rows, row.localCurrency.isSome = true ∧ row.localAmount.isSome = true) →
      balances currency = some balance →
      rows.foldl addFaucetRow balances currency
        = some (balance + ((rows.filter (fun row => row.localCurrency = some currency)).map
          (fun row => row.localAmount.getD 0)).sum) := by
    intro rows
    induction rows with
    | nil => simp
    | cons row rows ih =>
        intro balances balance complete counted
        have first := complete row List.mem_cons_self
        rw [List.foldl_cons, ih _ _ (fun row there => complete row (List.mem_cons_of_mem _ there))
          (addFaucetRow_eq first.1 first.2 counted)]
        by_cases same : row.localCurrency = some currency
        · simp [same, add_assoc]
        · simp [same]
  rw [addFaucetRows, summed _ _ 0 complete (by simp [member]), zero_add]
  rfl

theorem usdRatesOf_distinct {rows : List OracleRate} {seen : List String}
    {usdRates : String → Option ℚ}
    : (distinctCurrency seen rows).foldl addRate usdRates currency
      = if currency ∈ seen then usdRates currency
        else ((rows.find? (fun row => row.currency = currency)).map (·.rateUsd)).or
          (usdRates currency) := by
  induction rows generalizing seen usdRates with
  | nil => simp [distinctCurrency]
  | cons row rows ih =>
      unfold distinctCurrency
      by_cases known : row.currency ∈ seen
      · rw [if_pos known, ih]
        by_cases same : row.currency = currency
        · simp [same ▸ known]
        · simp [same]
      · rw [if_neg known, List.foldl_cons, ih]
        by_cases same : row.currency = currency
        · subst same
          simp [known, addRate]
        · simp [same, Ne.symm same, addRate]

theorem usdRatesOf_latestRates (member : currency ∈ BASKET_CURRENCIES)
    : usdRatesOf db.latestRates currency = (db.oracleRates.latest currency).map (·.rateUsd) := by
  have kept : (db.oracleRates.rows.filter (fun row => row.currency ∈ BASKET_CURRENCIES)).find?
      (fun row => row.currency = currency) = db.oracleRates.latest currency := by
    rw [List.find?_filter, OracleRateTable.latest]
    congr 1
    funext row
    by_cases same : row.currency = currency
    · simp [same, member]
    · simp [same]
  rw [usdRatesOf, Database.latestRates, usdRatesOf_distinct, kept]
  simp

theorem view_eq (shown : view ∈ getBankAccounts db userId)
    : view.balance = db.faucetTotal userId view.currency
      ∧ view.usd_equivalent
        = (((db.oracleRates.latest view.currency).map (·.rateUsd)).filter (0 < ·)).map
            (view.balance / ·) := by
  obtain ⟨currency, member, rfl⟩ := List.mem_map.mp shown
  dsimp only
  rw [addFaucetRows_eq member, usdRatesOf_latestRates member]
  refine ⟨rfl, ?_⟩
  cases (db.oracleRates.latest currency).map (·.rateUsd) with
  | none => simp
  | some rateUsd => by_cases positive : 0 < rateUsd <;> simp [Option.filter, positive]

-- The value the reserve tracker gives the same balance

/-- The provider holds `balance`, and the rates are those stored. Nothing else is asked. -/
def valuationReply (db : Database) (balance : ℚ)
    : (op : Reserves.ReserveOp) → Reserves.reserveInterface.Reply op
  | .getProviderBalance _ => .ok balance
  | .findLatestRate currency => .ok ((db.oracleRates.latest currency).map (·.rateUsd))
  | _ => .error (.error "")

def trackedValue (db : Database) (currency : String) (balance : ℚ) : Option ℚ :=
  ((Reserves.balanceAndValue currency none).answered (valuationReply db balance)).toOption.map
    Prod.snd

theorem trackedValue_eq {row : OracleRate} {balance : ℚ}
    (stored : db.oracleRates.latest currency = some row)
    : trackedValue db currency balance = some (balance * row.rateUsd) := by
  have held : (Reserves.withRetry (Reserves.ask (.getProviderBalance currency))).answered
      (valuationReply db balance) = .ok balance :=
    Prog.answered_catchWith rfl
  have rated : (Reserves.withRetry (Reserves.getCurrencyRate currency)).answered
      (valuationReply db balance) = .ok row.rateUsd := by
    refine Prog.answered_catchWith ?_
    rw [Reserves.getCurrencyRate, Prog.answered_bind, Prog.answered_await]
    simp [valuationReply, stored, Except.bind, Prog.orThrow]
  rw [trackedValue, Reserves.balanceAndValue, Prog.answered_bind, held, Except.bind,
    Prog.answered_bind, rated]
  rfl

/-- The dollar value an account is shown with is the tracker's exactly when there is no balance, or
a unit of the currency is worth one dollar.
-/
theorem usd_equivalent_agrees_iff {row : OracleRate} (shown : view ∈ getBankAccounts db userId)
    (stored : db.oracleRates.latest view.currency = some row) (positive : 0 < row.rateUsd)
    : view.usd_equivalent = trackedValue db view.currency view.balance
      ↔ db.faucetTotal userId view.currency = 0 ∨ row.rateUsd = 1 := by
  obtain ⟨balance, valued⟩ := view_eq shown
  rw [valued, trackedValue_eq stored, stored, ← balance]
  simp only [Option.map_some, Option.filter, positive, decide_true, if_true, Option.some.injEq]
  constructor
  · intro same
    by_contra apart
    obtain ⟨nonzero, dear⟩ := not_or.mp apart
    rw [div_eq_iff positive.ne', mul_assoc, eq_comm, mul_eq_left₀ nonzero] at same
    exact dear ((mul_self_eq_one_iff.mp same).resolve_right (by linarith))
  · rintro (zero | one)
    · simp [zero]
    · simp [one]

def nairaRate (rateUsd : ℚ) : OracleRate where
  currency := "NGN"
  rateUsd := rateUsd
  centralBankRate := none
  fintechRate := none
  forexRate := none
  medianRate := rateUsd
  worldBankRate := none
  deviationFromPreviousRate := none
  reviewRequired := false
  timestamp := 0

/-- A user who was given 1000 naira. -/
def dripped (rateUsd : ℚ) : Database where
  users := []
  transactions :=
    [{ userId := "user"
       type := "mint"
       status := "completed"
       localCurrency := some "NGN"
       localAmount := some 1000
       rateSnapshotSource := some "admin_drip_demo_fiat" }]
  oracleRates := { rows := [nairaRate rateUsd], newestFirst := by simp }

def nairaAccount (usd_equivalent : ℚ) : FiatAccountView where
  id := "NGN-user"
  currency := "NGN"
  balance := 1000
  usd_equivalent := some usd_equivalent
  bank_name := "Soroban (demo basket)"
  account_number := "user-NGN"

theorem usd_equivalent_agrees_iff_dollar
    : (nairaAccount 1000).usd_equivalent
        = trackedValue (dripped 1) (nairaAccount 1000).currency (nairaAccount 1000).balance
      ↔ (dripped 1).faucetTotal "user" (nairaAccount 1000).currency = 0
        ∨ (nairaRate 1).rateUsd = 1 :=
  usd_equivalent_agrees_iff (by decide +kernel) rfl (by norm_num [nairaRate])

/-- 1000 naira at 0.0007 dollars each are shown as more than a million dollars. -/
theorem usd_equivalent_disagrees
    : nairaAccount (1000 / (7 / 10000)) ∈ getBankAccounts (dripped (7 / 10000)) "user"
      ∧ (dripped (7 / 10000)).oracleRates.latest "NGN" = some (nairaRate (7 / 10000))
      ∧ trackedValue (dripped (7 / 10000)) "NGN" 1000 = some (7 / 10)
      ∧ (nairaAccount (1000 / (7 / 10000))).usd_equivalent
        ≠ trackedValue (dripped (7 / 10000)) "NGN" 1000 := by
  have tracked : trackedValue (dripped (7 / 10000)) "NGN" 1000 = some (7 / 10) := by
    rw [trackedValue_eq rfl]
    norm_num [nairaRate]
  refine ⟨by decide +kernel, rfl, tracked, ?_⟩
  rw [tracked]
  norm_num [nairaAccount]

end AcbuBackend.Fiat

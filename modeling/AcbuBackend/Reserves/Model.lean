import AcbuBackend.Effects.Evaluation
import AcbuBackend.Effects.Outcome
import AcbuBackend.Runtime.Errors
import Mathlib.Algebra.BigOperators.Group.List.Basic
import Mathlib.Algebra.Order.Field.Rat

/-! The stored reserves, the basket they are kept in, and the calls of the reserve tracker.
Amounts in atomic units are integers, and decimals are exact rationals.
-/

namespace AcbuBackend.Reserves

open Effects AcbuBackend.Runtime

structure BasketEntry where
  currency : String
  weight : ℚ

/-- A row of `reserves`. -/
structure Reserve where
  currency : String
  segment : String
  targetWeight : ℚ
  actualWeight : ℚ
  reserveAmount : ℚ
  reserveValueUsd : ℚ

/-- The parameters of `updateReserve`. -/
structure UpdateReserve where
  updater : String
  currency : String
  amount : ℤ
  valueUsd : ℤ

inductive Health
  | healthy
  | warning
  | critical
deriving DecidableEq

/-- The `reserve_alert` of the notification queue. -/
structure ReserveAlert where
  health : Health
  totalAcbuSupply : ℚ
  totalReserveValueUsd : ℚ
  overcollateralizationRatio : ℚ

/-- The calls of the reserve tracker and of the two functions that read its ratio. The first
three of the contracts are those of `readOnChainCustody`.
-/
inductive ReserveOp
  | getCurrentBasket
  | getRate (currency : String)
  | getSTokenAddress (currency : String)
  | balanceOf (sToken owner : String)
  | getProviderBalance (currency : String)
  | findLatestRate (currency : String)
  | findLatestReserve (currency segment : String)
  | createReserve (data : Reserve)
  | getKeypair
  | updateReserve (params : UpdateReserve)
  | sumMinted
  | sumBurned
  | acbuAssets (code issuer : String)
  | sendNotification (alert : ReserveAlert)
  | getCircuitBreakerMinReserveRatio

def ReserveOp.isCreate : ReserveOp → Bool
  | .createReserve _ => true
  | _ => false

abbrev ReserveOp.Ret : ReserveOp → Type
  | .getCurrentBasket => List BasketEntry
  | .getRate _ | .balanceOf .. => ℤ
  | .getSTokenAddress _ | .updateReserve _ => String
  | .getProviderBalance _ | .getCircuitBreakerMinReserveRatio => ℚ
  | .findLatestRate _ | .sumMinted | .sumBurned => Option ℚ
  | .findLatestReserve .. => Option Reserve
  | .createReserve _ | .sendNotification _ => Unit
  | .getKeypair => Option String
  | .acbuAssets .. => List ℚ

abbrev reserveInterface : Interface where
  Op := ReserveOp
  Ret := ReserveOp.Ret
  Err := JsError

/-- Issues a call of the reserve tracker. -/
abbrev ask (op : ReserveOp) : Prog reserveInterface op.Ret :=
  Prog.await (I := reserveInterface) op

/-- The current basket, whose currencies the unique key of `basket_config` keeps distinct, and
the rows of `reserves`, newest first.
-/
structure World where
  basket : List BasketEntry
  reserves : List Reserve
  distinct : (basket.map (·.currency)).Nodup

namespace World

variable (w : World)

/-- `getCurrencies`. -/
def currencies : List String := w.basket.map (·.currency)

/-- `findFirst({ where: { currency, segment }, orderBy: { timestamp: "desc" } })`. -/
def latest (currency segment : String) : Option Reserve :=
  w.reserves.find? (fun row => row.currency = currency ∧ row.segment = segment)

def create (data : Reserve) : World :=
  { w with reserves := data :: w.reserves }

/-- The newest value of a currency in a segment. A currency without a row counts as nothing. -/
def latestValue (segment currency : String) : ℚ :=
  ((w.latest currency segment).map (·.reserveValueUsd)).getD 0

end World

/-- What the environment answers a call with. -/
structure Choice where
  outcome : Outcome JsError := .done
  atomic : ℤ := 0
  address : String := ""
  decimal : ℚ := 0
  sum : Option ℚ := none
  publicKey : Option String := none
  amounts : List ℚ := []

/-- What a call that takes place answers, and the world it leaves. -/
def effect (x : Choice) (w : World) : (op : ReserveOp) → Except JsError op.Ret × World
  | .getCurrentBasket => (.ok w.basket, w)
  | .getRate _ | .balanceOf .. => (.ok x.atomic, w)
  | .getSTokenAddress _ | .updateReserve _ => (.ok x.address, w)
  | .getProviderBalance _ | .getCircuitBreakerMinReserveRatio => (.ok x.decimal, w)
  | .findLatestRate _ | .sumMinted | .sumBurned => (.ok x.sum, w)
  | .findLatestReserve currency segment => (.ok (w.latest currency segment), w)
  | .createReserve data => (.ok (), w.create data)
  | .getKeypair => (.ok x.publicKey, w)
  | .acbuAssets .. => (.ok x.amounts, w)
  | .sendNotification _ => (.ok (), w)

def reserveEnvironment : Environment reserveInterface World Choice where
  outcome := Choice.outcome
  effect := effect
  admissible _ _ _ := true

def reserveSemantics : Semantics reserveInterface World Choice :=
  reserveEnvironment.semantics

section

variable {w w' : World} {i : Nat} {x : Choice} {op : ReserveOp}

theorem act_same {reply : reserveInterface.Reply op}
    (answered : reserveSemantics.act i op x w = some (reply, w'))
    (reads : op.isCreate = false)
    : w' = w := by
  obtain ⟨-, answer⟩ := Environment.act_eq_some answered
  rcases Outcome.answer_world answer with rfl | left
  · rfl
  · rw [left]
    cases op with
    | createReserve data => cases reads
    | _ => rfl

theorem act_ok {value : op.Ret} (answered : reserveSemantics.act i op x w = some (.ok value, w'))
    : effect x w op = (.ok value, w') :=
  (Outcome.answer_ok (Environment.act_eq_some answered).2).2

end

@[simp] theorem currencies_create {w : World} {data : Reserve}
    : (w.create data).currencies = w.currencies :=
  rfl

theorem latest_create {w : World} {data : Reserve} {currency segment : String}
    : (w.create data).latest currency segment
      = if data.currency = currency ∧ data.segment = segment then some data
        else w.latest currency segment := by
  unfold World.latest World.create
  rw [List.find?_cons]
  by_cases same : data.currency = currency ∧ data.segment = segment
  · simp [same]
  · simp [same]

theorem latestValue_create {w : World} {data : Reserve} {currency segment : String}
    : (w.create data).latestValue segment currency
      = if data.currency = currency ∧ data.segment = segment then data.reserveValueUsd
        else w.latestValue segment currency := by
  unfold World.latestValue
  rw [latest_create]
  split <;> rfl

end AcbuBackend.Reserves

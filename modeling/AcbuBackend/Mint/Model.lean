import AcbuBackend.Effects.Outcome
import AcbuBackend.Rates.CurrencyConverter
import Mathlib.Data.List.AList

/-! The transactions table, the chain, and the calls of the mint handlers.
The answers of the other services (limits, pause flag, wallets, rates, the signing key) are
chosen by the environment anew at every call.
-/

namespace AcbuBackend.Mint

open Effects AcbuBackend.Runtime Rates

abbrev TxId := String

/-- `TRANSACTION_STATUSES`. -/
inductive TransactionStatus
  | pending
  | processing
  | completed
  | failed
  | refunded
deriving DecidableEq

/-- A row of `transactions`. Its id is the key of the table. -/
structure Transaction where
  userId : Option String := none
  organizationId : Option String := none
  idempotencyKey : Option String := none
  status : TransactionStatus
  usdcAmount : Option ℚ := none
  fee : Option ℚ := none
  localCurrency : Option String := none
  localAmount : Option ℚ := none
  acbuAmount : Option ℚ := none
  blockchainTxHash : Option String := none
deriving DecidableEq

/-- The `data` of an update. A field that is `none` is not written. -/
structure TransactionUpdate where
  status : TransactionStatus
  acbuAmount : Option ℚ := none
  blockchainTxHash : Option String := none
deriving DecidableEq

def Transaction.apply (row : Transaction) (data : TransactionUpdate) : Transaction :=
  { row with
    status := data.status
    acbuAmount := data.acbuAmount.or row.acbuAmount
    blockchainTxHash := data.blockchainTxHash.or row.blockchainTxHash }

/-- A contract function with its arguments. -/
inductive ContractCall
  | mintFromUsdc (user : String) (usdcAmount : ℤ) (recipient : String)
  | mintFromBasket (user recipient : String) (acbuAmount : ℤ)
  | redeemSingle (user recipient : String) (acbuAmount : ℤ) (currency idempotencyKey : String)
deriving DecidableEq

def ContractCall.isMint : ContractCall → Bool
  | .redeemSingle .. => false
  | _ => true

def ContractCall.isMintFromBasket : ContractCall → Bool
  | .mintFromBasket .. => true
  | _ => false

/-- What `invokeContract` returns. -/
structure ContractResult where
  transactionHash : String
  result : ℤ

/-- The calls of the mint handlers. `invokeContract` names the row it is made for, which is
not sent to the chain.
-/
inductive MintOp
  | now
  | getLatestAcbuRate
  | isMintingPaused
  | checkDepositLimits (audience : String) (amountUsd : ℚ) (userId : String)
      (organizationId : Option String)
  | findUserWallet (userId : String)
  | getKeypair
  | mintingAddress
  | findTransaction (id : TxId)
  | findByIdempotencyKey (idempotencyKey : String)
  | createTransaction (data : Transaction)
  | updateTransaction (id : TxId) (data : TransactionUpdate)
  | logAudit (entityId : TxId) (action : String)
  | invokeContract (sourceAccount : String) (call : ContractCall) (txId : TxId)
deriving DecidableEq

/-- The value each call answers with: `now` in Unix seconds, the rest as in the source. -/
abbrev MintOp.Ret : MintOp → Type
  | .now => ℚ
  | .getLatestAcbuRate => Option AcbuRate
  | .isMintingPaused => Bool
  | .checkDepositLimits .. => Unit
  | .findUserWallet _ => Option String
  | .getKeypair => Option String
  | .mintingAddress => String
  | .findTransaction _ => Option Transaction
  | .findByIdempotencyKey _ => Option (TxId × Transaction)
  | .createTransaction _ => TxId
  | .updateTransaction .. => Unit
  | .logAudit .. => Unit
  | .invokeContract .. => ContractResult

abbrev mintInterface : Interface where
  Op := MintOp
  Ret := MintOp.Ret
  Err := JsError

/-- Issues a call of the mint handlers. -/
abbrev ask (op : MintOp) : Prog mintInterface op.Ret :=
  Prog.await (I := mintInterface) op

/-- The table, the contract calls applied on chain and the statuses written, each with its
row. The lists are newest first.
-/
structure World where
  transactions : AList (fun _ : TxId => Transaction)
  applied : List (ContractCall × TxId)
  statusWrites : List (TxId × TransactionStatus)

/-- A table before any of the modelled requests. -/
def World.start (transactions : AList (fun _ : TxId => Transaction)) : World :=
  { transactions, applied := [], statusWrites := [] }

/-- What the environment answers a call with. -/
structure Choice where
  outcome : Outcome JsError := .done
  now : ℚ := 0
  latestRate : Option AcbuRate := none
  paused : Bool := false
  wallet : Option String := none
  publicKey : Option String := none
  mintingAddress : String := ""
  freshId : TxId := ""
  contractResult : ContractResult := { transactionHash := "", result := 0 }

def World.put (w : World) (id : TxId) (row : Transaction) : World :=
  { w with
    transactions := w.transactions.insert id row
    statusWrites := (id, row.status) :: w.statusWrites }

def World.invoke (w : World) (call : ContractCall) (id : TxId) : World :=
  { w with applied := (call, id) :: w.applied }

/-- `prisma.transaction.create` under a fresh id; the idempotency key is unique. -/
def World.create (w : World) (id : TxId) (data : Transaction) : Except JsError TxId × World :=
  if data.idempotencyKey.isSome
      ∧ (w.transactions.entries.any (fun e => e.2.idempotencyKey = data.idempotencyKey))
  then (.error .uniqueConstraint, w)
  else (.ok id, w.put id data)

/-- `prisma.transaction.update` by id. -/
def World.update (w : World) (id : TxId) (data : TransactionUpdate) : Except JsError Unit × World :=
  match w.transactions.lookup id with
  | none => (.error (.error "Record to update not found."), w)
  | some row => (.ok (), w.put id (row.apply data))

/-- What a call that takes place answers, and the world it leaves. -/
def effect (x : Choice) (w : World) : (op : MintOp) → Except JsError op.Ret × World
  | .now => (.ok x.now, w)
  | .getLatestAcbuRate => (.ok x.latestRate, w)
  | .isMintingPaused => (.ok x.paused, w)
  | .checkDepositLimits .. => (.ok (), w)
  | .findUserWallet _ => (.ok x.wallet, w)
  | .getKeypair => (.ok x.publicKey, w)
  | .mintingAddress => (.ok x.mintingAddress, w)
  | .findTransaction id => (.ok (w.transactions.lookup id), w)
  | .findByIdempotencyKey key =>
      (.ok ((w.transactions.entries.find? (fun e => e.2.idempotencyKey = some key)).map
        (fun e => (e.1, e.2))), w)
  | .createTransaction data => w.create x.freshId data
  | .updateTransaction id data => w.update id data
  | .logAudit .. => (.ok (), w)
  | .invokeContract _ call txId =>
      (.ok x.contractResult, w.invoke call txId)

/-- The environment's part of a call: reading the clock, the configuration or the signing
key does not fail, a rate that cannot be read is none, and a new id is not in use.
-/
def admissible (op : MintOp) (x : Choice) (w : World) : Bool :=
  match op with
  | .now | .getLatestAcbuRate | .getKeypair | .mintingAddress => x.outcome = .done
  | .createTransaction _ => x.freshId ∉ w.transactions
  | _ => true

def mintEnvironment : Environment mintInterface World Choice where
  outcome := Choice.outcome
  effect := effect
  admissible := admissible

def mintSemantics : Semantics mintInterface World Choice :=
  mintEnvironment.semantics

def World.statusOf (w : World) (id : TxId) : Option TransactionStatus :=
  (w.transactions.lookup id).map (·.status)

/-- How many mints were applied on chain for a row. -/
def World.mintsFor (w : World) (id : TxId) : Nat :=
  w.applied.countP (fun entry => entry.1.isMint ∧ entry.2 = id)

section

variable {w : World} {id other : TxId} {row : Transaction} {call : ContractCall}

@[simp] theorem mem_put : other ∈ (w.put id row).transactions
  ↔ other = id ∨ other ∈ w.transactions :=
  AList.mem_insert _

@[simp] theorem statusOf_put
    : (w.put id row).statusOf other = if other = id then some row.status else w.statusOf other := by
  unfold World.statusOf World.put
  by_cases same : other = id
  · subst other
    simp
  · simp [same, AList.lookup_insert_ne same]

@[simp] theorem statusWrites_put : (w.put id row).statusWrites
  = (id, row.status) :: w.statusWrites :=
  rfl

@[simp] theorem mintsFor_put : (w.put id row).mintsFor other = w.mintsFor other := rfl

@[simp] theorem transactions_invoke : (w.invoke call id).transactions = w.transactions := rfl

@[simp] theorem statusOf_invoke : (w.invoke call id).statusOf other = w.statusOf other := rfl

@[simp] theorem statusWrites_invoke : (w.invoke call id).statusWrites = w.statusWrites := rfl

theorem mintsFor_invoke
    : (w.invoke call id).mintsFor other
      = w.mintsFor other + if call.isMint = true ∧ id = other then 1 else 0 := by
  simp [World.mintsFor, World.invoke, List.countP_cons]

@[simp] theorem status_apply {data : TransactionUpdate}
  : (row.apply data).status = data.status := rfl

end

end AcbuBackend.Mint

import AcbuBackend.Burn.BurnController

/-! The bill payments, the partner that pays them, and the calls of the bills service.
Payments and burns share the limit checks, so their calls are one interface. What has been
withdrawn is summed over the table; times and the answers of the partner are chosen by the
environment.
-/

namespace AcbuBackend.Bills

open Effects AcbuBackend.Runtime Burn
open Mint (TxId TransactionStatus)

/-- Milliseconds since the epoch. -/
abbrev Instant := Int

-- The partner

structure BillsCatalogProduct where
  id : String
  name : String
  currency : String
  minAmount : ℚ
  maxAmount : ℚ
  fixedAmount : Option ℚ := none
deriving DecidableEq

structure BillsCatalogBiller where
  id : String
  name : String
  products : List BillsCatalogProduct

inductive BillsWebhookStatus
  | completed
  | failed
  | refunded
deriving DecidableEq

structure BillsWebhookEvent where
  provider : String
  transactionId : TxId
  providerReference : String
  status : BillsWebhookStatus
  amount : ℚ
  currency : String
  reason : Option String := none

structure PartnerBillPaymentRequest where
  transactionId : TxId
  biller : BillsCatalogBiller
  product : BillsCatalogProduct
  customerReference : String
  amount : ℚ

inductive DispatchStatus
  | processing
  | completed
deriving DecidableEq

def DispatchStatus.toStatus : DispatchStatus → TransactionStatus
  | .processing => .processing
  | .completed => .completed

structure PartnerBillPaymentResponse where
  provider : String
  providerReference : String
  dispatchStatus : DispatchStatus
  reconciliationEvent : Option BillsWebhookEvent := none

/-- The partner has taken the payment on: it does not answer with its failure. -/
def PartnerBillPaymentResponse.accepted (response : PartnerBillPaymentResponse) : Bool :=
  response.reconciliationEvent.all (fun event => event.status ≠ .failed)

structure PartnerBillRefundRequest where
  transactionId : TxId
  providerReference : String
  amount : ℚ
  currency : String
  reason : Option String

structure PartnerBillRefundResponse where
  provider : String
  providerReference : String
  reconciliationEvent : BillsWebhookEvent

-- The table

/-- The entries of the `rateSnapshot` JSON that tell the writes of a row apart, and those that
are read.
-/
structure RateSnapshot where
  provider : Option String := none
  organizationId : Option String := none
  provider_reference : Option String := none
  dispatch_status : Option DispatchStatus := none
  webhook_status : Option BillsWebhookStatus := none
  failure_reason : Option String := none

/-- A row of `transactions`, of any type. -/
structure Transaction where
  userId : Option String := none
  organizationId : Option String := none
  type : String
  status : TransactionStatus
  acbuAmountBurned : Option ℚ := none
  localCurrency : Option String := none
  localAmount : Option ℚ := none
  recipientAddress : Option String := none
  rateSnapshot : RateSnapshot := {}

/-- The `data` of an update. An address that is `none` is not written. -/
structure TransactionUpdate where
  status : TransactionStatus
  recipientAddress : Option String := none
  rateSnapshot : RateSnapshot

def Transaction.apply (row : Transaction) (data : TransactionUpdate) : Transaction :=
  { row with
    status := data.status
    recipientAddress := data.recipientAddress.or row.recipientAddress
    rateSnapshot := data.rateSnapshot }

-- Calls

/-- The calls of the bills service, and those of the burn handler. -/
inductive BillsOp
  | burn (op : BurnOp)
  | getCatalog
  | payBill (request : PartnerBillPaymentRequest)
  | refundBill (request : PartnerBillRefundRequest)
  | createTransaction (data : Transaction)
  | findTransaction (id : TxId)
  | updateTransaction (id : TxId) (data : TransactionUpdate)
  | createWebhook (eventType : String) (event : BillsWebhookEvent)
  | logAudit (entityId : TxId) (action : String)
  | enqueueWebhook (eventType : String) (transactionId : TxId)

abbrev BillsOp.Ret : BillsOp → Type
  | .burn op => op.Ret
  | .getCatalog => List BillsCatalogBiller
  | .payBill _ => PartnerBillPaymentResponse
  | .refundBill _ => PartnerBillRefundResponse
  | .createTransaction _ => TxId
  | .findTransaction _ => Option Transaction
  | .updateTransaction .. | .createWebhook .. | .logAudit .. | .enqueueWebhook .. => Unit

abbrev billsInterface : Interface where
  Op := BillsOp
  Ret := BillsOp.Ret
  Err := JsError

abbrev issue (op : BillsOp) : Prog billsInterface op.Ret :=
  Prog.await (I := billsInterface) op

def burnCalls : Inclusion burnInterface billsInterface where
  op := .burn
  value := fun _ value => value
  error := id
  throws := id

-- The world

/-- What a deployment fixes: the zone of its days and months, and the organisations of its
users.
-/
structure Setting where
  startOf : Window → Instant → Instant
  organizationOf : String → Option String

/-- An update that was made, with the status it has found. -/
structure RowUpdate where
  id : TxId
  before : TransactionStatus
  data : TransactionUpdate

/-- The tables, the payments the partner has taken on, the refunds it has made, and the
updates of the rows. The lists are newest first. The creation time of a row is kept beside it.
-/
structure World where
  burn : Burn.World
  transactions : AList (fun _ : TxId => Transaction)
  createdAt : TxId → Instant
  burnedAt : BurnId → Instant
  accepted : List TxId := []
  refunds : List TxId := []
  updates : List RowUpdate := []

/-- What the environment answers a call with. `readAt` is the time a limit check has read the
clock at, before its first sum.
-/
structure Choice extends toBurnChoice : Burn.Choice where
  time : Instant := 0
  readAt : Instant := 0
  catalog : List BillsCatalogBiller := []
  payment : PartnerBillPaymentResponse :=
    { provider := "", providerReference := "", dispatchStatus := .processing }
  refund : PartnerBillRefundResponse :=
    { provider := "", providerReference := "",
      reconciliationEvent :=
        { provider := "", transactionId := "", providerReference := "", status := .refunded
          amount := 0, currency := "" } }

/-- Whether `buildActorWhere` selects a row. -/
def Setting.selects (setting : Setting) (actor : ActorWhere) (row : Transaction) : Bool :=
  match actor with
  | .user userId => row.userId = some userId
  | .organization organizationId =>
      row.organizationId = some organizationId
        || row.userId.bind setting.organizationOf = some organizationId
  | .noUser => row.userId = none

def counted : TransactionStatus → Bool
  | .pending | .processing | .completed => true
  | .failed | .refunded => false

/-- The rows a limit check sums up. -/
def Setting.limitRow (setting : Setting) (createdAt since : Instant) (currency : Option String)
    (actor : ActorWhere) (row : Transaction)
    : Bool :=
  (row.type = "burn" || row.type = "bill_payment")
    && currency.all (fun currency => row.localCurrency = some currency)
    && counted row.status && since ≤ createdAt && setting.selects actor row

/-- The aggregate of `checkWithdrawalLimits`. -/
def World.sumAcbuAmountBurned (setting : Setting) (w : World) (since : Instant)
    (currency : Option String) (actor : ActorWhere)
    : ℚ :=
  ((w.transactions.entries.filter
      (fun e => setting.limitRow (w.createdAt e.1) since currency actor e.2)).map
    (fun e => e.2.acbuAmountBurned.getD 0)).sum

/-- `prisma.transaction.create` under a fresh id. -/
def World.create (w : World) (id : TxId) (time : Instant) (data : Transaction) : World :=
  { w with
    transactions := w.transactions.insert id data
    createdAt := Function.update w.createdAt id time }

/-- `prisma.transaction.update` by id. -/
def World.update (w : World) (id : TxId) (data : TransactionUpdate) : Except JsError Unit × World :=
  match w.transactions.lookup id with
  | none => (.error (.error "Record to update not found."), w)
  | some row =>
      (.ok (), { w with
        transactions := w.transactions.insert id (row.apply data)
        updates := { id, before := row.status, data } :: w.updates })

/-- A call of the burn handler. Sums are taken over the table. -/
def burnEffect (setting : Setting) (x : Choice) (w : World)
    : (op : BurnOp) → Except JsError op.Ret × World
  | .sumAcbuAmountBurned since currency actor =>
      (.ok (w.sumAcbuAmountBurned setting (setting.startOf since x.readAt) currency actor), w)
  | .createBurn data =>
      let (reply, burn) := w.burn.createBurn x.freshBurnId data
      (reply, { w with burn, burnedAt := Function.update w.burnedAt x.freshBurnId x.time })
  | op =>
      let (reply, burn) := Burn.effect x.toBurnChoice w.burn op
      (reply, { w with burn })

/-- What a call that takes place answers, and the world it leaves. -/
def effect (setting : Setting) (x : Choice) (w : World)
    : (op : BillsOp) → Except JsError op.Ret × World
  | .burn op => burnEffect setting x w op
  | .getCatalog => (.ok x.catalog, w)
  | .payBill request =>
      (.ok x.payment,
        if x.payment.accepted then { w with accepted := request.transactionId :: w.accepted }
        else w)
  | .refundBill request =>
      (.ok x.refund, { w with refunds := request.transactionId :: w.refunds })
  | .createTransaction data => (.ok x.freshId, w.create x.freshId x.time data)
  | .findTransaction id => (.ok (w.transactions.lookup id), w)
  | .updateTransaction id data => w.update id data
  | .createWebhook .. | .logAudit .. | .enqueueWebhook .. => (.ok (), w)

/-- The environment's part of a call: a new id is not in use, and an event in the partner's
answer is about the transaction it was asked for.
-/
def admissible (op : BillsOp) (x : Choice) (w : World) : Bool :=
  match op with
  | .burn op => Burn.admissible op x.toBurnChoice w.burn
  | .createTransaction _ => x.freshId ∉ w.transactions
  | .payBill request =>
      x.payment.reconciliationEvent.all (fun event => event.transactionId = request.transactionId)
  | .refundBill request => x.refund.reconciliationEvent.transactionId = request.transactionId
  | _ => true

def billsEnvironment (setting : Setting) : Environment billsInterface World Choice where
  outcome x := x.outcome
  effect := effect setting
  admissible := admissible

def billsSemantics (setting : Setting) : Semantics billsInterface World Choice :=
  (billsEnvironment setting).semantics

def World.statusOf (w : World) (id : TxId) : Option TransactionStatus :=
  (w.transactions.lookup id).map (·.status)

/-- How many refunds the partner has made for a transaction. -/
def World.refundsFor (w : World) (id : TxId) : Nat :=
  w.refunds.count id

end AcbuBackend.Bills

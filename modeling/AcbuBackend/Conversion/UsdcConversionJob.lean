import AcbuBackend.Conversion.BasketDistribution
import AcbuBackend.Effects.Concurrent
import AcbuBackend.Fintech.Router
import AcbuBackend.Mint.Model

/-! The conversion queue, the reserve history, and the consumer of the queue.
A queued message stays with the broker until it is acknowledged, and may be delivered any
number of times until then.
-/

namespace AcbuBackend.Conversion

open Effects Effects.Prog AcbuBackend.Runtime Fintech
open Mint (TxId TransactionStatus)

/-- The columns of `transactions` the job writes. -/
structure Transaction where
  status : TransactionStatus
  blockchainTxHash : Option String := none

/-- A row of `reserve_history`. -/
structure ReserveHistory where
  currency : String
  amountChange : ℚ
  reason : String
  transactionId : Option TxId := none
  newAmount : Option ℚ := none

/-- A message of the queue: the payload, with its `x-retries` header. -/
structure Message where
  usdcAmount : String
  recipient : String
  txHash : String
  transactionId : Option TxId
  retries : Nat := 0
deriving DecidableEq

/-- The calls of the consumer. A call of a provider names the transaction it is made for,
which is not sent to the provider.
-/
inductive ConversionOp
  | receive
  | claimTransaction (id : TxId)
  | releaseClaim (id : TxId)
  | getCurrentBasket
  | fintech (transactionId : Option TxId) (op : FintechOp)
  | createReserveHistory (data : ReserveHistory)
  | completeTransaction (id : TxId) (blockchainTxHash : String)
  | sendToQueue (message : Message)
  | ack (message : Message)
  | nack (message : Message)

abbrev ConversionOp.Ret : ConversionOp → Type
  | .receive => Message
  | .claimTransaction _ | .releaseClaim _ => Nat
  | .getCurrentBasket => List BasketEntry
  | .fintech _ op => op.Ret
  | .createReserveHistory _ | .completeTransaction .. => Unit
  | .sendToQueue _ | .ack _ | .nack _ => Unit

abbrev conversionInterface : Interface where
  Op := ConversionOp
  Ret := ConversionOp.Ret
  Err := JsError

/-- Issues a call of the consumer. -/
abbrev issue (op : ConversionOp) : Prog conversionInterface op.Ret :=
  Prog.await (I := conversionInterface) op

/-- The calls of a provider, made for a transaction or for none. -/
def fintechCalls (transactionId : Option TxId)
    : Inclusion fintechInterface conversionInterface where
  op := .fintech transactionId
  value := fun _ value => value
  error := id
  throws := id

/-- The tables, the queue, and the conversions applied, each with its transaction and its
currency. The lists are newest first; the history is the part written by the job.
-/
structure World where
  transactions : AList (fun _ : TxId => Transaction)
  history : List ReserveHistory
  queue : List Message
  converted : List (Option TxId × String)

/-- What the environment answers a call with. -/
structure Choice where
  outcome : Outcome JsError := .done
  message : Message := { usdcAmount := "", recipient := "", txHash := "", transactionId := none }
  basket : List BasketEntry := []
  balance : ℚ := 0
  conversion : ConvertCurrencyResult := { amount := 0, rate := 0 }
  disbursement : DisburseResult := { transactionId := "", status := "" }

/-- `updateMany` of a status: the number of rows it has changed. -/
def World.moveStatus (w : World) (id : TxId) (current next : TransactionStatus)
    : Except JsError Nat × World :=
  match w.transactions.lookup id with
  | none => (.ok 0, w)
  | some row =>
      if row.status = current then
        (.ok 1, { w with transactions := w.transactions.insert id { row with status := next } })
      else (.ok 0, w)

/-- `prisma.transaction.update` of a completed conversion. -/
def World.complete (w : World) (id : TxId) (blockchainTxHash : String)
    : Except JsError Unit × World :=
  match w.transactions.lookup id with
  | none => (.error (.error "Record to update not found."), w)
  | some row =>
      (.ok (), { w with
        transactions := w.transactions.insert id
          { row with status := .completed, blockchainTxHash := some blockchainTxHash } })

/-- A value of a `Decimal(20, 2)` column: rounded to cents, halves away from zero. -/
def toCents (x : ℚ) : ℚ :=
  if 0 ≤ x then ⌊x * 100 + 1 / 2⌋ / 100 else ⌈x * 100 - 1 / 2⌉ / 100

def World.createHistory (w : World) (data : ReserveHistory) : World :=
  { w with history := { data with amountChange := toCents data.amountChange } :: w.history }

/-- A call of a provider. -/
def fintechEffect (x : Choice) (w : World) (id : Option TxId)
    : (op : FintechOp) → Except JsError op.Ret × World
  | .getBalance .. => (.ok x.balance, w)
  | .convertCurrency _ _ _ toCurrency =>
      (.ok x.conversion, { w with converted := (id, toCurrency) :: w.converted })
  | .disburseFunds .. => (.ok x.disbursement, w)

/-- What a call that takes place answers, and the world it leaves. -/
def effect (x : Choice) (w : World) : (op : ConversionOp) → Except JsError op.Ret × World
  | .receive => (.ok x.message, w)
  | .claimTransaction id => w.moveStatus id .pending .processing
  | .releaseClaim id => w.moveStatus id .processing .pending
  | .getCurrentBasket => (.ok x.basket, w)
  | .fintech id op => fintechEffect x w id op
  | .createReserveHistory data => (.ok (), w.createHistory data)
  | .completeTransaction id txHash => w.complete id txHash
  | .sendToQueue message => (.ok (), { w with queue := message :: w.queue })
  | .ack message | .nack message => (.ok (), { w with queue := w.queue.erase message })

/-- Only a message the broker holds is delivered. -/
def admissible (op : ConversionOp) (x : Choice) (w : World) : Bool :=
  match op with
  | .receive => x.outcome = .done ∧ x.message ∈ w.queue
  | _ => true

def conversionEnvironment : Environment conversionInterface World Choice where
  outcome := Choice.outcome
  effect := effect
  admissible := admissible

def conversionSemantics : Semantics conversionInterface World Choice :=
  conversionEnvironment.semantics

/-- How many conversions into a currency were applied for a transaction. -/
def World.conversionsOf (w : World) (id : TxId) (currency : String) : Nat :=
  w.converted.count (some id, currency)

/-- How many rows of a conversion into a currency are linked to a transaction. -/
def World.rowsOf (w : World) (id : TxId) (currency : String) : Nat :=
  w.history.countP (fun row =>
    row.transactionId = some id ∧ row.currency = currency ∧ row.reason = "conversion")

-- The consumer

/-- What the job takes from the configuration and from the decimal library. -/
structure Deployment where
  router : FintechProviderRouter
  /-- `new Decimal(s)`; `none` where it throws. -/
  parseDecimal : String → Option JsNumber

/-- `getQueueMaxRetries` of the queue. -/
def MAX_RETRIES : Nat := 5

/-- The amount of a payload, unless the job skips it: an amount that cannot be parsed, is not
finite or is not positive.
-/
def positiveAmount (dep : Deployment) (usdcAmount : String) : Option ℚ :=
  match dep.parseDecimal usdcAmount with
  | some (.finite amount) => if 0 < amount then some amount else none
  | _ => none

/-- The purchase of one currency; `false` when it has thrown. -/
def purchase (dep : Deployment) (transactionId : Option TxId) (share : BasketShareAllocation)
    : Prog conversionInterface Bool :=
  catchWith
    (do
      let provider ←
        (dep.router.getProvider share.currency).within (fintechCalls transactionId)
      let _ ← issue (.fintech transactionId
        (.convertCurrency provider share.amount "USD" share.currency))
      return true)
    (fun _ => return false)

/-- The loop over the allocations: every purchase is entered in the reserve history. -/
def convertShares (dep : Deployment) (transactionId : Option TxId)
    : List BasketShareAllocation → Prog conversionInterface Unit
  | [] => return ()
  | share :: rest => do
      let purchased ← purchase dep transactionId share
      if purchased then
        issue (.createReserveHistory
          { currency := share.currency
            amountChange := share.amountDecimal
            reason := "conversion"
            newAmount := none })
        convertShares dep transactionId rest
      else convertShares dep transactionId rest

def completeTransaction (transactionId : Option TxId) (txHash : String)
    : Prog conversionInterface Unit :=
  match transactionId.filter (fun id => id ≠ "") with
  | some id => issue (.completeTransaction id txHash)
  | none => return ()

def processUsdcConversion (dep : Deployment) (payload : Message) : Prog conversionInterface Unit :=
  match positiveAmount dep payload.usdcAmount with
  | none => return ()
  | some usdcAmount => do
      let basket ← issue .getCurrentBasket
      if basket = [] then return ()
      else
        let allocations ← fromExcept (calculateBasketDistribution usdcAmount basket)
        convertShares dep payload.transactionId allocations
        completeTransaction payload.transactionId payload.txHash

/-- The `catch` of the callback: the claim is released, and the message sent again or given
up.
-/
def handleFailure (msg : Message) (claimedTransactionId : Option TxId)
    : Prog conversionInterface Unit := do
  match claimedTransactionId with
  | some id =>
      swallow (do
        let _ ← issue (.releaseClaim id)
        return ())
  | none => pure ()
  if MAX_RETRIES ≤ msg.retries then issue (.nack msg)
  else
    issue (.sendToQueue { msg with retries := msg.retries + 1 })
    issue (.ack msg)

def convertMessage (dep : Deployment) (msg : Message) (claimedTransactionId : Option TxId)
    : Prog conversionInterface Unit :=
  catchWith
    (do
      processUsdcConversion dep msg
      issue (.ack msg))
    (fun _ => handleFailure msg claimedTransactionId)

/-- The message of a transaction somebody else has claimed or completed. -/
def skipMessage (msg : Message) : Prog conversionInterface Unit :=
  catchWith (issue (.ack msg)) (fun _ => handleFailure msg none)

/-- `startUsdcConversionConsumer`: the delivery of one message. -/
def usdcConversionConsumer (dep : Deployment) : Prog conversionInterface Unit := do
  let msg ← issue .receive
  match msg.transactionId.filter (fun id => id ≠ "") with
  | none => convertMessage dep msg none
  | some id =>
      -- `none` when the claim has thrown, which is handled without a release
      let claimed ← catchWith
        (do
          let count ← issue (.claimTransaction id)
          return some (count = 1 : Bool))
        (fun _ => do
          handleFailure msg none
          return none)
      match claimed with
      | none => return ()
      | some true => convertMessage dep msg (some id)
      | some false => skipMessage msg

abbrev ConversionConfig := Config conversionInterface Unit World

/-- So many deliveries, all before their first call, on a table and a queue. -/
def initialConfig (dep : Deployment) (deliveries : Nat)
    (transactions : AList (fun _ : TxId => Transaction)) (queue : List Message)
    : ConversionConfig :=
  .initial { transactions, history := [], queue, converted := [] }
    (List.replicate deliveries (usdcConversionConsumer dep))

-- The calls of a conversion, apart from its claim and its delivery

section

open Effects.Protocol

/-- The calls `processUsdcConversion` makes: a history row it writes names no transaction. -/
def ConversionOp.processes : ConversionOp → Bool
  | .createReserveHistory data => data.transactionId.isNone
  | .getCurrentBasket | .fintech .. | .completeTransaction .. => true
  | _ => false

variable {dep : Deployment} {p : ConversionOp → Prop}

theorem only_purchase {transactionId : Option TxId} {share : BasketShareAllocation}
    (calls : ∀ op : FintechOp, p (.fintech transactionId op))
    : Only (I := conversionInterface) p (purchase dep transactionId share) := by
  have picked : Only (I := conversionInterface) p
      ((dep.router.getProvider share.currency).within (fintechCalls transactionId)) :=
    wp_mono
      (wp_getProvider (R := only (I := conversionInterface) p)
        (fun _ _ _ => only_next.mpr (calls _)) dep.router share.currency none)
      (fun _ _ _ => trivial) (fun _ _ _ => trivial)
  refine only_catchWith (only_bind picked fun provider => ?_) (fun _ => trivial)
  exact only_bind (only_await (calls _)) (fun _ => trivial)

theorem only_convertShares {transactionId : Option TxId} {shares : List BasketShareAllocation}
    (processes : ∀ op : ConversionOp, op.processes = true → p op)
    : Only (I := conversionInterface) p (convertShares dep transactionId shares) := by
  induction shares with
  | nil => trivial
  | cons share rest ih =>
      refine only_bind (only_purchase fun _ => processes _ rfl) fun purchased => ?_
      cases purchased with
      | false => exact ih
      | true => exact only_bind (only_await (processes _ rfl)) (fun _ => ih)

theorem only_processUsdcConversion {payload : Message}
    (processes : ∀ op : ConversionOp, op.processes = true → p op)
    : Only (I := conversionInterface) p (processUsdcConversion dep payload) := by
  unfold processUsdcConversion
  cases positiveAmount dep payload.usdcAmount with
  | none => trivial
  | some usdcAmount =>
      refine only_bind (only_await (processes _ rfl)) fun basket => ?_
      split
      · trivial
      · refine only_bind only_fromExcept fun allocations => ?_
        refine only_bind (only_convertShares processes) fun _ => ?_
        unfold completeTransaction
        split
        · exact only_await (processes _ rfl)
        · trivial

end

end AcbuBackend.Conversion

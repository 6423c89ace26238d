import AcbuBackend.Fintech.Router
import AcbuBackend.Mint.Model

/-! The withdrawal queue, the burn transactions, and the consumer of the queue.
A queued message stays with the broker until it is acknowledged, and may be delivered any
number of times until then.
-/

namespace AcbuBackend.Withdrawal

open Effects Effects.Prog AcbuBackend.Runtime Fintech
open Mint (TxId TransactionStatus)

-- The queue and the burns

/-- The fields read of `recipientAccount`, each by its `String` value. -/
structure RecipientAccount where
  account_number : Option String := none
  accountNumber : Option String := none
  bank_code : Option String := none
  bankCode : Option String := none
  account_name : Option String := none
  accountName : Option String := none

/-- A row of `transactions` as the consumer selects it. -/
structure Transaction where
  type : String
  status : TransactionStatus
  userId : Option String := none
  localCurrency : Option String := none
  localAmount : Option ℚ := none
  recipientAccount : Option RecipientAccount := none
  blockchainTxHash : Option String := none
  fintechProvider : Option String := none

/-- The `data` of an update. A field that is `none` is not written. -/
structure TransactionUpdate where
  status : TransactionStatus
  blockchainTxHash : Option String := none
  fintechProvider : Option String := none

def Transaction.apply (row : Transaction) (data : TransactionUpdate) : Transaction :=
  { row with
    status := data.status
    blockchainTxHash := data.blockchainTxHash.or row.blockchainTxHash
    fintechProvider := data.fintechProvider.or row.fintechProvider }

/-- A message of the queue: the payload, with its `x-retries` header. -/
structure Message where
  transactionId : TxId
  txHash : Option String := none
  retries : Nat := 0
deriving DecidableEq

structure Notification where
  transactionId : TxId
  userId : Option String
  status : String
  currency : String
  amount : ℚ

/-- The calls of the consumer. A call of a provider names the transaction it is made for,
which is not sent to the provider.
-/
inductive WithdrawalOp
  | receive
  | findTransaction (id : TxId)
  | updateTransaction (id : TxId) (data : TransactionUpdate)
  | fintech (transactionId : TxId) (op : FintechOp)
  | notify (notification : Notification)
  | sendToQueue (message : Message)
  | ack (message : Message)
  | nack (message : Message)

abbrev WithdrawalOp.Ret : WithdrawalOp → Type
  | .receive => Message
  | .findTransaction _ => Option Transaction
  | .updateTransaction .. => Unit
  | .fintech _ op => op.Ret
  | .notify _ | .sendToQueue _ | .ack _ | .nack _ => Unit

abbrev withdrawalInterface : Interface where
  Op := WithdrawalOp
  Ret := WithdrawalOp.Ret
  Err := JsError

/-- Issues a call of the consumer. -/
abbrev issue (op : WithdrawalOp) : Prog withdrawalInterface op.Ret :=
  Prog.await (I := withdrawalInterface) op

/-- The calls of a provider, made for a transaction. -/
def fintechCalls (transactionId : TxId) : Inclusion fintechInterface withdrawalInterface where
  op := .fintech transactionId
  value := fun _ value => value
  error := id
  throws := id

/-- The table, the queue, and the transactions a disbursement was made for, newest first. -/
structure World where
  transactions : AList (fun _ : TxId => Transaction)
  queue : List Message
  disbursed : List TxId

/-- What the environment answers a call with. -/
structure Choice where
  outcome : Outcome JsError := .done
  message : Message := { transactionId := "" }
  balance : ℚ := 0
  converted : ConvertCurrencyResult := { amount := 0, rate := 0 }
  disbursement : DisburseResult := { transactionId := "", status := "" }

def World.put (w : World) (id : TxId) (row : Transaction) : World :=
  { w with transactions := w.transactions.insert id row }

/-- `prisma.transaction.update` by id. -/
def World.update (w : World) (id : TxId) (data : TransactionUpdate) : Except JsError Unit × World :=
  match w.transactions.lookup id with
  | none => (.error (.error "Record to update not found."), w)
  | some row => (.ok (), w.put id (row.apply data))

/-- A call of a provider. -/
def fintechEffect (x : Choice) (w : World) (id : TxId)
    : (op : FintechOp) → Except JsError op.Ret × World
  | .getBalance .. => (.ok x.balance, w)
  | .convertCurrency .. => (.ok x.converted, w)
  | .disburseFunds .. => (.ok x.disbursement, { w with disbursed := id :: w.disbursed })

/-- What a call that takes place answers, and the world it leaves. -/
def effect (x : Choice) (w : World) : (op : WithdrawalOp) → Except JsError op.Ret × World
  | .receive => (.ok x.message, w)
  | .findTransaction id => (.ok (w.transactions.lookup id), w)
  | .updateTransaction id data => w.update id data
  | .fintech id op => fintechEffect x w id op
  | .notify _ => (.ok (), w)
  | .sendToQueue message => (.ok (), { w with queue := message :: w.queue })
  | .ack message | .nack message => (.ok (), { w with queue := w.queue.erase message })

/-- Only a message the broker holds is delivered. -/
def admissible (op : WithdrawalOp) (x : Choice) (w : World) : Bool :=
  match op with
  | .receive => x.outcome = .done ∧ x.message ∈ w.queue
  | _ => true

def withdrawalEnvironment : Environment withdrawalInterface World Choice where
  outcome := Choice.outcome
  effect := effect
  admissible := admissible

def withdrawalSemantics : Semantics withdrawalInterface World Choice :=
  withdrawalEnvironment.semantics

/-- How many disbursements were made for a transaction. -/
def World.disbursementsFor (w : World) (id : TxId) : Nat :=
  w.disbursed.count id

theorem disbursementsFor_of_act {i : Nat} {x : Choice} {w w' : World} {op : WithdrawalOp}
    {reply : withdrawalInterface.Reply op}
    (h : withdrawalSemantics.act i op x w = some (reply, w')) (id : TxId)
    : w'.disbursementsFor id = w.disbursementsFor id
      ∨ w'.disbursementsFor id = w.disbursementsFor id + 1
        ∧ ∃ provider amount currency recipient,
            op = .fintech id (.disburseFunds provider amount currency recipient) := by
  obtain ⟨-, answered⟩ := Environment.act_eq_some h
  rcases Outcome.answer_world answered with rfl | left
  · exact .inl rfl
  · have left : w' = (effect x w op).2 := left
    rw [left]
    cases op with
    | fintech other call =>
        cases call with
        | disburseFunds provider amount currency recipient =>
            by_cases same : other = id
            · subst same
              refine .inr ⟨?_, provider, amount, currency, recipient, rfl⟩
              simp [effect, fintechEffect, World.disbursementsFor]
            · refine .inl ?_
              simp [effect, fintechEffect, World.disbursementsFor, same]
        | getBalance _ _ | convertCurrency _ _ _ _ => exact .inl rfl
    | updateTransaction other data =>
        refine .inl ?_
        simp only [effect, World.update]
        split <;> rfl
    | _ => exact .inl rfl

-- The consumer

/-- `getQueueMaxRetries` of the queue. -/
def MAX_RETRIES : Nat := 5

/-- What is paid for a transaction. -/
structure Payout where
  currency : String
  amount : ℚ
  recipient : DisburseRecipient

/-- A field of the recipient under one of its two names. -/
def fieldOf (snake camel : Option String) : String :=
  (snake.or camel).getD ""

def recipientOf (account : RecipientAccount) : DisburseRecipient where
  accountNumber := fieldOf account.account_number account.accountNumber
  bankCode := fieldOf account.bank_code account.bankCode
  accountName := fieldOf account.account_name account.accountName

/-- The payout of a row. `none` where the job misses the currency, a positive amount, the
recipient, or the recipient's account number or bank code.
-/
def payoutOf (tx : Transaction) : Option Payout := do
  let currency ← tx.localCurrency.filter (fun currency => currency ≠ "")
  let amount ← tx.localAmount.filter (fun amount => 0 < amount)
  let account ← tx.recipientAccount
  let recipient := recipientOf account
  if recipient.accountNumber = "" ∨ recipient.bankCode = "" then none
  else some { currency, amount, recipient }

/-- Whether the job goes on with a row it has read. -/
def Transaction.isOpen (tx : Transaction) : Bool :=
  tx.type = "burn" && (tx.status = .processing || tx.status = .pending)

section

variable (router : FintechProviderRouter)

/-- One attempt: a healthy provider is picked and asked to pay. -/
def disburse (id : TxId) (payout : Payout) (simulateOutageFor : Option FintechProviderId)
    : Prog withdrawalInterface FintechProviderId := do
  let provider ← (router.getProvider payout.currency simulateOutageFor).within (fintechCalls id)
  let _ ← issue (.fintech id
    (.disburseFunds provider payout.amount payout.currency payout.recipient))
  return provider

/-- The payment, and the failover to another provider when it throws. -/
def disburseWithFailover (id : TxId) (payout : Payout)
    : Prog withdrawalInterface FintechProviderId :=
  catchWith (disburse router id payout none)
    (fun _ => disburse router id payout
      (some (router.getPreferredProviderId payout.currency)))

/-- `publishWithdrawalNotification`: its errors are dropped. -/
def publishWithdrawalNotification (id : TxId) (tx : Transaction) (payout : Payout) (status : String)
    : Prog withdrawalInterface Unit :=
  swallow (issue (.notify
    { transactionId := id
      userId := tx.userId
      status
      currency := payout.currency
      amount := payout.amount }))

/-- The message is sent again with a higher retry count. -/
def resend (msg : Message) : Prog withdrawalInterface Unit := do
  issue (.sendToQueue { msg with retries := msg.retries + 1 })
  issue (.ack msg)

/-- The inner `try`: payment, completion and notification; `false` when its `catch` has
already settled the message.
-/
def payOut (msg : Message) (tx : Transaction) (payout : Payout) : Prog withdrawalInterface Bool :=
  catchWith
    (do
      let provider ← disburseWithFailover router msg.transactionId payout
      issue (.updateTransaction msg.transactionId
        { status := .completed
          blockchainTxHash := msg.txHash.filter (fun hash => hash ≠ "")
          fintechProvider := some (router.className provider) })
      publishWithdrawalNotification msg.transactionId tx payout "completed"
      return true)
    (fun _ =>
      if MAX_RETRIES ≤ msg.retries then do
        issue (.updateTransaction msg.transactionId { status := .failed })
        publishWithdrawalNotification msg.transactionId tx payout "failed"
        issue (.nack msg)
        return false
      else do
        resend msg
        return false)

/-- The work on a row that is still open. -/
def processOpen (msg : Message) (tx : Transaction) : Prog withdrawalInterface Unit :=
  match payoutOf tx with
  | none => do
      issue (.updateTransaction msg.transactionId { status := .failed })
      issue (.ack msg)
  | some payout => do
      let paid ← payOut router msg tx payout
      if paid then issue (.ack msg) else return ()

/-- The body of the consumer's callback. -/
def processWithdrawal (msg : Message) : Prog withdrawalInterface Unit :=
  if msg.transactionId = "" then issue (.ack msg)
  else do
    let found ← issue (.findTransaction msg.transactionId)
    match found with
    | none => issue (.ack msg)
    | some tx => if tx.isOpen then processOpen router msg tx else issue (.ack msg)

/-- `startWithdrawalProcessingConsumer`: the delivery of one message. -/
def withdrawalProcessingConsumer : Prog withdrawalInterface Unit := do
  let msg ← issue .receive
  catchWith (processWithdrawal router msg)
    (fun _ => if MAX_RETRIES ≤ msg.retries then issue (.nack msg) else resend msg)

abbrev WithdrawalConfig := Config withdrawalInterface Unit World

/-- So many deliveries, all before their first call, on a table and a queue. -/
def initialConfig (deliveries : Nat) (transactions : AList (fun _ : TxId => Transaction))
    (queue : List Message)
    : WithdrawalConfig :=
  .initial { transactions, queue, disbursed := [] }
    (List.replicate deliveries (withdrawalProcessingConsumer router))

end

end AcbuBackend.Withdrawal

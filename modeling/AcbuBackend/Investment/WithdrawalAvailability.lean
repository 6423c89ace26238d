import AcbuBackend.Salary.SalaryService

/-! The job that makes investment withdrawals available once their delay is over, and publishes a
notification for each. Logs, the delays between attempts and the encoding of messages are left out.
-/

namespace AcbuBackend.Investment

open Effects Effects.Prog AcbuBackend.Runtime
open Salary (retryWithBackoff)

inductive WithdrawalStatus
  | requested
  | processing
  | available
  | completed
  | failed
deriving DecidableEq

structure InvestmentWithdrawalRequest where
  id : String
  userId : Option String
  organizationId : Option String
  amountAcbu : ℚ
  status : WithdrawalStatus
  availableAt : Nat
  notifiedAt : Option Nat := none
deriving DecidableEq

def READY_WITHDRAWAL_STATUSES : List WithdrawalStatus :=
  [.requested, .processing]

def READY_WITHDRAWAL_BATCH_SIZE : Nat :=
  100

/-- The `investment_withdrawal_ready` message. -/
structure WithdrawalReady where
  userId : Option String
  organizationId : Option String
  amountAcbu : ℚ
  timestamp : Nat
deriving DecidableEq

/-- The calls of the job. The update is made of the id of a record, and a message does not hold the
id of its request.
-/
inductive WithdrawalOp
  | trustedNow
  | findReady (trustedNow limit : Nat)
  | markAvailable (r : InvestmentWithdrawalRequest) (trustedNow : Nat)
  | getRabbitMQChannel
  | assertQueue
  | sendToQueue (requestId : String) (message : WithdrawalReady)

abbrev WithdrawalOp.Ret : WithdrawalOp → Type
  | .trustedNow => Nat
  | .findReady .. => List InvestmentWithdrawalRequest
  | .markAvailable .. => Nat
  | _ => Unit

abbrev availabilityInterface : Interface where
  Op := WithdrawalOp
  Ret := WithdrawalOp.Ret
  Err := JsError

abbrev withdrawalCall (op : WithdrawalOp) : Prog availabilityInterface op.Ret :=
  Prog.await (I := availabilityInterface) op

-- The job

/-- `r.userId || r.organizationId`. -/
def InvestmentWithdrawalRequest.hasOwner (r : InvestmentWithdrawalRequest) : Bool :=
  r.userId.any (· ≠ "") || r.organizationId.any (· ≠ "")

def InvestmentWithdrawalRequest.ready (r : InvestmentWithdrawalRequest) (occurredAt : Nat)
    : WithdrawalReady where
  userId := r.userId
  organizationId := r.organizationId
  amountAcbu := r.amountAcbu
  timestamp := occurredAt

def publishInvestmentWithdrawalReady (r : InvestmentWithdrawalRequest) (occurredAt : Nat)
    : Prog availabilityInterface Unit := do
  withdrawalCall .getRabbitMQChannel
  withdrawalCall .assertQueue
  withdrawalCall (.sendToQueue r.id (r.ready occurredAt))

/-- The body of the loop. -/
def processRequest (trustedNow : Nat) (r : InvestmentWithdrawalRequest)
    : Prog availabilityInterface Unit := do
  let count ← retryWithBackoff (withdrawalCall (.markAvailable r trustedNow)) 3 (.error "")
  if count = 0 then pure ()
  else if r.hasOwner then
    retryWithBackoff (publishInvestmentWithdrawalReady r trustedNow) 3 (.error "")
  else pure ()

/-- The loop. A request that fails is logged. -/
def processRequests (trustedNow : Nat)
    : List InvestmentWithdrawalRequest → Prog availabilityInterface Unit
  | [] => pure ()
  | r :: rest => do
      swallow (processRequest trustedNow r)
      processRequests trustedNow rest

def processInvestmentWithdrawalAvailability : Prog availabilityInterface Unit := do
  let trustedNow ← withdrawalCall .trustedNow
  let records ← withdrawalCall (.findReady trustedNow READY_WITHDRAWAL_BATCH_SIZE)
  processRequests trustedNow records

-- The database and the queue

/-- The requests, the messages with the requests they are for, and when requests became available.
-/
structure WithdrawalWorld where
  clock : Nat
  requests : AList (fun _ : String => InvestmentWithdrawalRequest)
  published : List (String × WithdrawalReady) := []
  transitions : List (String × Nat) := []

/-- The `where` of the batch and of the update. -/
def InvestmentWithdrawalRequest.isReady (r : InvestmentWithdrawalRequest) (trustedNow : Nat)
    : Bool :=
  READY_WITHDRAWAL_STATUSES.contains r.status && r.availableAt ≤ trustedNow

def InvestmentWithdrawalRequest.madeAvailable (r : InvestmentWithdrawalRequest) (trustedNow : Nat)
    : InvestmentWithdrawalRequest :=
  { r with status := .available, notifiedAt := some trustedNow }

/-- `updateMany`, with the number of rows it changes. -/
def WithdrawalWorld.markAvailable (w : WithdrawalWorld) (id : String) (trustedNow : Nat)
    : Nat × WithdrawalWorld :=
  match w.requests.lookup id with
  | none => (0, w)
  | some row =>
      if row.isReady trustedNow then
        (1, { w with
          requests := w.requests.insert id (row.madeAvailable trustedNow)
          transitions := (id, w.clock) :: w.transitions })
      else (0, w)

def WithdrawalWorld.readyIds (w : WithdrawalWorld) (trustedNow : Nat) : List String :=
  (w.requests.entries.filter (fun e => e.2.isReady trustedNow)).map Sigma.fst

structure WithdrawalChoice where
  outcome : Outcome JsError := .done
  time : Nat := 0
  /-- The order the database finds rows in. -/
  order : List String := []

def withdrawalEffect (x : WithdrawalChoice) (w : WithdrawalWorld)
    : (op : WithdrawalOp) → Except JsError op.Ret × WithdrawalWorld
  | .trustedNow => (.ok x.time, { w with clock := x.time })
  | .findReady _ limit =>
      (.ok ((x.order.take limit).filterMap (fun id => w.requests.lookup id)),
        { w with clock := x.time })
  | .markAvailable r trustedNow =>
      let (count, w) := { w with clock := x.time : WithdrawalWorld }.markAvailable r.id trustedNow
      (.ok count, w)
  | .sendToQueue requestId message =>
      (.ok (), { w with clock := x.time, published := (requestId, message) :: w.published })
  | .getRabbitMQChannel | .assertQueue => (.ok (), { w with clock := x.time })

/-- Time does not go back. All that is ready is found, in some order. -/
def availabilityEnvironment : Environment availabilityInterface WithdrawalWorld WithdrawalChoice
    where
  outcome := WithdrawalChoice.outcome
  effect := withdrawalEffect
  admissible
    | .findReady trustedNow _, x, w => w.clock ≤ x.time && x.order.isPerm (w.readyIds trustedNow)
    | _, x, w => w.clock ≤ x.time

def availabilitySemantics : Semantics availabilityInterface WithdrawalWorld WithdrawalChoice :=
  availabilityEnvironment.semantics

abbrev AvailabilityConfig := Config availabilityInterface Unit WithdrawalWorld

def requestTable (requests : List InvestmentWithdrawalRequest)
    : AList (fun _ : String => InvestmentWithdrawalRequest) :=
  (requests.map (fun r => ⟨r.id, r⟩)).toAList

def availabilityRuns (runs clock : Nat) (requests : List InvestmentWithdrawalRequest)
    : AvailabilityConfig :=
  Config.initial { clock, requests := requestTable requests }
    (List.replicate runs processInvestmentWithdrawalAvailability)

end AcbuBackend.Investment

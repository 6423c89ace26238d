import AcbuBackend.Salary.Model
import AcbuBackend.Transfer.TransferService

/-! `processSalaryBatch`, and the retries it is run with in the background. -/

namespace AcbuBackend.Salary

open Effects Effects.Prog AcbuBackend.Runtime
open Mint (TxId TransactionStatus)
open Transfer (createTransfer CreateTransferResult)

structure Deployment where
  transfer : Transfer.Deployment
  /-- `Decimal.toString`. -/
  toText : ℚ → String

/-- The order in which unsettled transfers go on. -/
def itemScheduler : Scheduler salaryInterface where
  turn := .turn
  first
    | .ok first => first
    | .error _ => true

def BATCH_CONCURRENCY : Nat := 10

-- Items

def IsTransferCall (op : SalaryOp) : Prop :=
  ∃ item call, op = .transfer item call

/-- What stands for `createTransfer`: calls of a transfer, and then a result or an error. -/
structure ItemTransfer where
  run : (userId : String) → ItemId × SalaryItem → Prog salaryInterface CreateTransferResult
  transfers : ∀ userId entry, Protocol.Only IsTransferCall (run userId entry)

/-- The transfer of one item, which names neither a key nor a wallet version. -/
def serviceTransfer (dep : Deployment) : ItemTransfer where
  run userId entry :=
    (createTransfer dep.transfer
      { senderUserId := userId
        recipient := entry.2.recipientAddress
        amountAcbu := dep.toText entry.2.amount }).within (transferCalls entry.1)
  transfers _ entry := by
    refine Protocol.wp_mono (Protocol.wp_within_of_ignored fun op reply => ?_)
      (fun _ _ _ => trivial) fun _ _ _ => trivial
    exact Protocol.only_next.mpr ⟨entry.1, op, rfl⟩

def payItemBy (transfer : ItemTransfer) (userId : String) (entry : ItemId × SalaryItem)
    : Prog salaryInterface TransactionStatus := do
  let result ← transfer.run userId entry
  issue (.updateItem entry.1
    { status := result.status
      transactionId := some result.transactionId
      errorMessage := if result.status = .failed then some "Transfer payment failed" else none })
  return result.status

def failedItemWrites (chunk : List (ItemId × SalaryItem))
    (results : List (Except JsError TransactionStatus))
    : List (ItemId × SalaryItemUpdate) :=
  (chunk.zip results).filterMap (fun (entry, result) =>
    match result with
    | .ok _ => none
    | .error reason => some (entry.1, { status := .failed, errorMessage := some reason.message }))

def commitWrites (writes : List (ItemId × SalaryItemUpdate)) : Prog salaryInterface Unit :=
  if writes = [] then return () else issue (.transaction writes)

/-- The counters of the loop. -/
structure Tally where
  successCount : Nat
  failCount : Nat

def Tally.add (tally : Tally) (result : Except JsError TransactionStatus) : Tally :=
  match result with
  | .ok .completed => { tally with successCount := tally.successCount + 1 }
  | _ => { tally with failCount := tally.failCount + 1 }

/-- One round of the loop. -/
def processChunkBy (transfer : ItemTransfer) (userId : String) (chunk : List (ItemId × SalaryItem))
    (tally : Tally)
    : Prog salaryInterface Tally := do
  let results ← allSettled itemScheduler (chunk.map (payItemBy transfer userId))
  commitWrites (failedItemWrites chunk results)
  return results.foldl Tally.add tally

/-- The loop, over the chunks it slices off. -/
def processChunksBy (transfer : ItemTransfer) (userId : String)
    : List (List (ItemId × SalaryItem)) → Tally → Prog salaryInterface Tally
  | [], tally => return tally
  | chunk :: chunks, tally => do
      let tally ← processChunkBy transfer userId chunk tally
      processChunksBy transfer userId chunks tally

/-- The slices of `size` elements, at most `rounds` of them. -/
def slices {α : Type} (size : Nat) : Nat → List α → List (List α)
  | 0, _ => []
  | _, [] => []
  | rounds + 1, head :: tail =>
      (head :: tail).take size :: slices size rounds ((head :: tail).drop size)

theorem flatten_slices {α : Type} {size rounds : Nat} {elements : List α} (positive : 0 < size)
    (enough : elements.length ≤ rounds)
    : (slices size rounds elements).flatten = elements := by
  induction rounds generalizing elements with
  | zero => rw [List.length_eq_zero_iff.mp (Nat.le_zero.mp enough), slices, List.flatten_nil]
  | succ rounds ih =>
      cases elements with
      | nil => simp [slices]
      | cons head tail =>
          have rest : ((head :: tail).drop size).length ≤ rounds := by
            rw [List.length_drop]
            omega
          rw [slices, List.flatten_cons, ih rest, List.take_append_drop]

-- Batches

def BatchStatus.processable (status : BatchStatus) : Bool :=
  status = .pending || status = .failed

/-- The items a call is to pay. -/
def unpaidItems (items : List (ItemId × SalaryItem)) : List (ItemId × SalaryItem) :=
  items.filter (fun entry => entry.2.status ≠ .completed)

def finalStatus (tally : Tally) (itemCount : Nat) : BatchStatus :=
  if tally.failCount = 0 ∧ tally.successCount = itemCount then .completed
  else if 0 < tally.successCount then .partially_completed
  else .failed

/-- `processSalaryBatch`, with any transfer. -/
def processSalaryBatchBy (transfer : ItemTransfer) (batchId : BatchId)
    : Prog salaryInterface Unit := do
  let found ← issue (.findBatch batchId)
  match found with
  | none => return ()
  | some (batch, items) =>
      if batch.status.processable then do
        issue (.updateBatch batchId .processing)
        let pending := unpaidItems items
        let successCount := (items.filter (fun entry => entry.2.status = .completed)).length
        let tally ←
          processChunksBy transfer batch.userId (slices BATCH_CONCURRENCY pending.length pending)
            { successCount, failCount := 0 }
        issue (.updateBatch batchId (finalStatus tally items.length))
      else return ()

def processSalaryBatch (dep : Deployment) : BatchId → Prog salaryInterface Unit :=
  processSalaryBatchBy (serviceTransfer dep)

/-- `retryWithBackoff`: `lastError` is thrown when no attempt is left. -/
def retryWithBackoff {I : Interface} {α : Type} (operation : Prog I α)
    : (attempts : Nat) → (lastError : I.Err) → Prog I α
  | 0, lastError => fail lastError
  | attempts + 1, _ => operation.catchWith (fun error => retryWithBackoff operation attempts error)

/-- Every attempt starts where the one before it has thrown; `stage left` is the phase in which
`left` attempts are left.
-/
theorem wp_retry {I : Interface} {S α : Type} {P : Protocol I S} {operation : Prog I α}
    {Q : α → S → Prop} {stage : Nat → S} {attempts : Nat} {lastError : I.Err}
    (attempt : ∀ left, P.wp operation (stage (left + 1)) Q (fun _ phase => phase = stage left))
    : P.wp (retryWithBackoff operation attempts lastError) (stage attempts) Q
        (fun _ phase => phase = stage 0) := by
  induction attempts generalizing lastError with
  | zero => rfl
  | succ left ih =>
      refine Protocol.wp_catchWith.mpr
        (Protocol.wp_mono (attempt left) (fun _ _ known => known) ?_)
      rintro error _ rfl
      exact ih

/-- The processing that `createSalaryBatch` starts when it has answered. -/
def processInBackground (dep : Deployment) (batchId : BatchId) : Prog salaryInterface Unit :=
  swallow (retryWithBackoff (processSalaryBatch dep batchId) 3 (.error ""))

end AcbuBackend.Salary

import AcbuBackend.Transfer.Model

/-! Salary batches with their items, and the calls of the salary service. -/

namespace AcbuBackend.Salary

open Effects AcbuBackend.Runtime
open Mint (TxId TransactionStatus)
open Transfer (TransferOp)

abbrev BatchId := String

abbrev ItemId := String

inductive BatchStatus
  | pending
  | processing
  | completed
  | partially_completed
  | failed
deriving DecidableEq

/-- A row of `salary_batches`. -/
structure SalaryBatch where
  userId : String
  status : BatchStatus
deriving DecidableEq

/-- A row of `salary_items`. Its status is the one of its transfer. -/
structure SalaryItem where
  batchId : BatchId
  recipientAddress : String
  amount : ℚ
  status : TransactionStatus
  transactionId : Option TxId := none
  errorMessage : Option String := none
deriving DecidableEq

/-- The `data` of an item's update. A transaction id that is `none` is not written. -/
structure SalaryItemUpdate where
  status : TransactionStatus
  transactionId : Option TxId := none
  errorMessage : Option String
deriving DecidableEq

def SalaryItem.apply (item : SalaryItem) (data : SalaryItemUpdate) : SalaryItem :=
  { item with
    status := data.status
    transactionId := data.transactionId.or item.transactionId
    errorMessage := data.errorMessage }

/-- The calls of the salary service. `turn` decides which of two unsettled transfers goes on;
`transaction` is `prisma.$transaction` of item updates.
-/
inductive SalaryOp
  | turn
  | findBatch (id : BatchId)
  | updateBatch (id : BatchId) (status : BatchStatus)
  | updateItem (id : ItemId) (data : SalaryItemUpdate)
  | transaction (writes : List (ItemId × SalaryItemUpdate))
  | transfer (item : ItemId) (op : TransferOp)
deriving DecidableEq

abbrev SalaryOp.Ret : SalaryOp → Type
  | .turn => Bool
  | .findBatch _ => Option (SalaryBatch × List (ItemId × SalaryItem))
  | .updateBatch .. | .updateItem .. | .transaction _ => Unit
  | .transfer _ op => op.Ret

abbrev salaryInterface : Interface where
  Op := SalaryOp
  Ret := SalaryOp.Ret
  Err := JsError

abbrev issue (op : SalaryOp) : Prog salaryInterface op.Ret :=
  Prog.await (I := salaryInterface) op

def transferCalls (item : ItemId) : Inclusion Transfer.transferInterface salaryInterface where
  op := .transfer item
  value _ value := value
  error e := e
  throws e := e

/-- The tables, and each transfer that was created with the item it was created for. -/
structure World where
  batches : AList (fun _ : BatchId => SalaryBatch)
  items : AList (fun _ : ItemId => SalaryItem)
  transfers : Transfer.World
  created : List (ItemId × TxId) := []

/-- What the environment answers a call with. -/
structure Choice where
  transfer : Transfer.Choice := {}
  first : Bool := true

def World.itemsOf (w : World) (id : BatchId) : List (ItemId × SalaryItem) :=
  (w.items.entries.filter (fun e => e.2.batchId = id)).map (fun e => (e.1, e.2))

/-- `prisma.salaryBatch.findUnique` with its items. -/
def World.findBatch (w : World) (id : BatchId)
    : Option (SalaryBatch × List (ItemId × SalaryItem)) :=
  (w.batches.lookup id).map (fun batch => (batch, w.itemsOf id))

/-- `prisma.salaryBatch.update` by id. -/
def World.updateBatch (w : World) (id : BatchId) (status : BatchStatus)
    : Except JsError Unit × World :=
  match w.batches.lookup id with
  | none => (.error (.error "Record to update not found."), w)
  | some batch => (.ok (), { w with batches := w.batches.insert id { batch with status } })

/-- `prisma.salaryItem.update` by id. -/
def World.updateItem (w : World) (id : ItemId) (data : SalaryItemUpdate)
    : Except JsError Unit × World :=
  match w.items.lookup id with
  | none => (.error (.error "Record to update not found."), w)
  | some item => (.ok (), { w with items := w.items.insert id (item.apply data) })

/-- The updates in order, from the world `start` that an error restores. -/
def World.updateItems (start : World) : World → List (ItemId × SalaryItemUpdate)
    → Except JsError Unit × World
  | w, [] => (.ok (), w)
  | w, write :: writes =>
      match w.updateItem write.1 write.2 with
      | (.error error, _) => (.error error, start)
      | (.ok (), w') => start.updateItems w' writes

def createdBy (item : ItemId) : (op : TransferOp) → Except JsError op.Ret → List (ItemId × TxId)
  | .createTransaction _, .ok id => [(item, id)]
  | _, _ => []

def World.transfer (w : World) (x : Transfer.Choice) (item : ItemId) (op : TransferOp)
    : Except JsError op.Ret × World :=
  let (answer, transfers) := Transfer.effect x w.transfers op
  (answer, { w with transfers, created := createdBy item op answer ++ w.created })

/-- What a call that takes place answers, and the world it leaves. -/
def effect (x : Choice) (w : World) : (op : SalaryOp) → Except JsError op.Ret × World
  | .turn => (.ok x.first, w)
  | .findBatch id => (.ok (w.findBatch id), w)
  | .updateBatch id status => w.updateBatch id status
  | .updateItem id data => w.updateItem id data
  | .transaction writes => w.updateItems w writes
  | .transfer item op => w.transfer x.transfer item op

/-- The environment's part of a call: a new id is not in use, and the scheduler does not fail.
-/
def admissible (op : SalaryOp) (x : Choice) (w : World) : Bool :=
  match op with
  | .turn => x.transfer.outcome = .done
  | .transfer _ op => Transfer.admissible op x.transfer w.transfers
  | _ => true

def salaryEnvironment : Environment salaryInterface World Choice where
  outcome x := x.transfer.outcome
  effect := effect
  admissible := admissible

abbrev salarySemantics : Semantics salaryInterface World Choice :=
  salaryEnvironment.semantics

end AcbuBackend.Salary

import AcbuBackend.Bulk.BulkCsv
import AcbuBackend.Salary.SalaryService

/-! The bulk transfers of an organisation.
The rows of a chunk are processed between the start and the commit of a transaction, but their
queries are made outside it. So no query takes part in the transaction.
-/

namespace AcbuBackend.Bulk

open Effects Effects.Prog AcbuBackend.Runtime
open Mint (TxId TransactionStatus)
open Salary (slices)
open Transfer (TransferRow User)

abbrev JobId := String

inductive RowStatus
  | success
  | failure
  | skipped
deriving DecidableEq

structure BulkTransferRowResult where
  rowIndex : Nat
  idempotencyKey : String
  status : RowStatus
  transactionId : Option TxId := none
  errorMessage : Option String := none
deriving DecidableEq

inductive JobStatus
  | pending
  | processing
  | completed
  | failed
deriving DecidableEq

/-- A row of `BulkTransferJob`. -/
structure BulkTransferJob where
  organizationId : String
  status : JobStatus
  totalRows : Nat
  processedRows : Nat := 0
  successCount : Nat := 0
  failureCount : Nat := 0
  failureReport : Option (List BulkTransferRowResult) := none
  createdAt : ℤ
  completedAt : Option ℤ := none

/-- The `data` of a job's update; a field that is `none` is not written. -/
structure JobUpdate where
  status : Option JobStatus := none
  processedRows : Option Nat := none
  successCount : Nat
  failureCount : Nat
  failureReport : Option (List BulkTransferRowResult) := none
  completedAt : Option ℤ := none

def BulkTransferJob.apply (job : BulkTransferJob) (data : JobUpdate) : BulkTransferJob :=
  { job with
    status := data.status.getD job.status
    processedRows := data.processedRows.getD job.processedRows
    successCount := data.successCount
    failureCount := data.failureCount
    failureReport := data.failureReport.or job.failureReport
    completedAt := data.completedAt.or job.completedAt }

/-- The `data` a job is created with; its counts start at zero. -/
structure NewJob where
  organizationId : String
  totalRows : Nat
  status : JobStatus

inductive BulkOp
  | now
  | createJob (data : NewJob)
  | updateJob (id : JobId) (data : JobUpdate)
  | findJob (id : JobId) (organizationId : String)
  | beginTransaction
  | commit
  | rollback
  | findTransaction (idempotencyKey : String)
  | findUser (id : String)
  | createTransaction (organizationId : String) (data : TransferRow)

abbrev BulkOp.Ret : BulkOp → Type
  | .now => ℤ
  | .createJob _ => JobId × ℤ
  | .updateJob .. | .beginTransaction | .commit | .rollback => Unit
  | .findJob .. => Option BulkTransferJob
  | .findTransaction _ => Option (TxId × TransactionStatus)
  | .findUser _ => Option User
  | .createTransaction .. => TxId

abbrev bulkInterface : Interface where
  Op := BulkOp
  Ret := BulkOp.Ret
  Err := JsError

/-- Makes a call. -/
abbrev perform (op : BulkOp) : Prog bulkInterface op.Ret :=
  Prog.await (I := bulkInterface) op

-- Configuration and requests

/-- A number of rows to a chunk, which the configuration takes to be positive. -/
structure ChunkSize where
  size : Nat
  positive : 0 < size

structure Deployment where
  /-- The hexadecimal SHA-256 digest. -/
  sha256Hex : String → String
  chunkSize : ChunkSize
  maxFileSizeBytes : Nat
  maxRows : Nat

structure ProcessBulkTransferParams where
  organizationId : String
  senderUserId : Option String
  fileContent : String

/-- Options that are not passed are those of the configuration. -/
structure ProcessBulkTransferOptions where
  chunkSize : Option ChunkSize := none
  maxFileSizeBytes : Option Nat := none
  maxRows : Option Nat := none

structure BulkTransferJobResult where
  jobId : JobId
  totalRows : Nat
  successCount : Nat
  failureCount : Nat
  skippedCount : Nat
  status : JobStatus
  createdAt : ℤ
  completedAt : Option ℤ
  failureReport : List BulkTransferRowResult
deriving DecidableEq

-- processRow

def completedRow (senderUserId : String) (row : BulkTransferRowInput) (idempotencyKey : String)
    : TransferRow where
  userId := senderUserId
  status := .completed
  recipientAddress := row.recipient
  acbuAmount := row.amount_acbu
  idempotencyKey := some idempotencyKey

def skippedRow (rowIndex : Nat) (idempotencyKey : String) (existing : TxId × TransactionStatus)
    : BulkTransferRowResult where
  rowIndex := rowIndex
  idempotencyKey := idempotencyKey
  status := .skipped
  transactionId := some existing.1
  errorMessage :=
    some (if existing.2 = .failed then "Duplicate transfer already failed previously"
      else "Duplicate transfer already processed previously")

def failedRow (rowIndex : Nat) (idempotencyKey errorMessage : String) : BulkTransferRowResult where
  rowIndex := rowIndex
  idempotencyKey := idempotencyKey
  status := .failure
  errorMessage := some errorMessage

/-- The outcome of a row whose key was taken by another transfer meanwhile. -/
def racedRow (rowIndex : Nat) (idempotencyKey : String) (existing : TxId × TransactionStatus)
    : BulkTransferRowResult where
  rowIndex := rowIndex
  idempotencyKey := idempotencyKey
  status := .skipped
  transactionId := some existing.1
  errorMessage := some "Duplicate transfer already processed previously"

/-- The body of the `try`. -/
def payRow (organizationId senderUserId : String) (row : BulkTransferRowInput) (rowIndex : Nat)
    (idempotencyKey : String)
    : Prog bulkInterface BulkTransferRowResult := do
  let sender ← perform (.findUser senderUserId)
  match sender with
  | none => return failedRow rowIndex idempotencyKey "Sender user not found"
  | some _ => do
      let transactionId ← perform
        (.createTransaction organizationId (completedRow senderUserId row idempotencyKey))
      return { rowIndex, idempotencyKey, status := .success, transactionId := some transactionId }

/-- Another transfer that has taken the key of a row meanwhile. -/
def findAfterRace (idempotencyKey : String) (error : JsError)
    : Prog bulkInterface (Option (TxId × TransactionStatus)) :=
  match error with
  | .uniqueConstraint => perform (.findTransaction idempotencyKey)
  | _ => return none

/-- The body of the `catch`. -/
def recoverRow (rowIndex : Nat) (idempotencyKey : String) (error : JsError)
    : Prog bulkInterface BulkTransferRowResult := do
  let existingAfterRace ← findAfterRace idempotencyKey error
  match existingAfterRace with
  | some existing => return racedRow rowIndex idempotencyKey existing
  | none => return failedRow rowIndex idempotencyKey error.message

def processRow (dep : Deployment) (organizationId : String) (senderUserId : Option String)
    (row : BulkTransferRowInput) (rowIndex : Nat)
    : Prog bulkInterface BulkTransferRowResult := do
  let senderUserId ← orThrow (senderUserId.filter (fun id => id ≠ ""))
    (plainAppError "User-scoped API key required" 401)
  let idempotencyKey := rowKey dep.sha256Hex organizationId row
  let existing ← perform (.findTransaction idempotencyKey)
  match existing with
  | some existing => return skippedRow rowIndex idempotencyKey existing
  | none =>
      catchWith (payRow organizationId senderUserId row rowIndex idempotencyKey)
        (recoverRow rowIndex idempotencyKey)

-- processBulkTransfer

/-- The outcome of a row that fails the validation. -/
def invalidRow (dep : Deployment) (organizationId : String) (rawRow : CsvRow) (rowIndex : Nat)
    (issues : List String)
    : BulkTransferRowResult :=
  failedRow rowIndex (rawRowKey dep.sha256Hex organizationId rawRow) ("; ".intercalate issues)

/-- A row of the file, validated first. -/
@[irreducible] def processRawRow (dep : Deployment) (params : ProcessBulkTransferParams)
  (rawRow : CsvRow)
    (rowIndex : Nat)
    : Prog bulkInterface BulkTransferRowResult :=
  match safeParseRow rawRow with
  | .error issues => return invalidRow dep params.organizationId rawRow rowIndex issues
  | .ok row => processRow dep params.organizationId params.senderUserId row rowIndex

/-- The rows of a chunk, the first of them at index `start`. -/
def processRows (dep : Deployment) (params : ProcessBulkTransferParams)
    : List CsvRow → (start : Nat) → Prog bulkInterface (List BulkTransferRowResult)
  | [], _ => return []
  | rawRow :: rest, start => do
      let result ← processRawRow dep params rawRow start
      let results ← processRows dep params rest (start + 1)
      return result :: results

/-- `prisma.$transaction` of a callback. -/
def inTransaction {α : Type} (callback : Prog bulkInterface α) : Prog bulkInterface α := do
  perform .beginTransaction
  let value ← catchWith callback (fun error => do
    swallow (perform .rollback)
    fail error)
  perform .commit
  return value

/-- How many rows have an outcome of this kind. -/
def countStatus (status : RowStatus) (results : List BulkTransferRowResult) : Nat :=
  results.countP (fun result => result.status = status)

/-- The loop over the chunks, with `start`, `processedRows` and `allResults`. -/
def processChunks (dep : Deployment) (params : ProcessBulkTransferParams) (jobId : JobId)
    (chunkSize : Nat)
    : List (List CsvRow) → (start processedRows : Nat) → List BulkTransferRowResult →
      Prog bulkInterface (List BulkTransferRowResult)
  | [], _, _, allResults => return allResults
  | chunk :: chunks, start, processedRows, allResults => do
      let chunkResults ← inTransaction (processRows dep params chunk start)
      let allResults := allResults ++ chunkResults
      perform (.updateJob jobId
        { processedRows := some (processedRows + chunk.length)
          successCount := countStatus .success allResults
          failureCount := countStatus .failure allResults })
      processChunks dep params jobId chunkSize chunks (start + chunkSize)
        (processedRows + chunk.length) allResults

/-- The answer to a job with these outcomes. -/
def jobResult (jobId : JobId) (createdAt completedAt : ℤ) (totalRows : Nat)
    (allResults : List BulkTransferRowResult)
    : BulkTransferJobResult where
  jobId := jobId
  totalRows := totalRows
  successCount := countStatus .success allResults
  failureCount := countStatus .failure allResults
  skippedCount := countStatus .skipped allResults
  status := .completed
  createdAt := createdAt
  completedAt := some completedAt
  failureReport := allResults.filter (fun result => result.status = .failure)

def finishJob (jobId : JobId) (createdAt : ℤ) (totalRows : Nat)
    (allResults : List BulkTransferRowResult)
    : Prog bulkInterface BulkTransferJobResult := do
  let stored ← perform .now
  perform (.updateJob jobId
    { status := some .completed
      completedAt := some stored
      successCount := countStatus .success allResults
      failureCount := countStatus .failure allResults
      failureReport := some (allResults.filter (fun result => result.status ≠ .success)) })
  let completedAt ← perform .now
  return jobResult jobId createdAt completedAt totalRows allResults

def processJob (dep : Deployment) (params : ProcessBulkTransferParams) (chunkSize : ChunkSize)
    (rows : List CsvRow)
    : Prog bulkInterface BulkTransferJobResult := do
  let (jobId, createdAt) ← perform (.createJob
    { organizationId := params.organizationId
      totalRows := rows.length
      status := if rows.length = 0 then .completed else .processing })
  let allResults ← processChunks dep params jobId chunkSize.size
    (slices chunkSize.size rows.length rows) 0 0 []
  finishJob jobId createdAt rows.length allResults

def processBulkTransfer (dep : Deployment) (params : ProcessBulkTransferParams)
    (options : ProcessBulkTransferOptions := {})
    : Prog bulkInterface BulkTransferJobResult := do
  let maxRows := options.maxRows.getD dep.maxRows
  ensure (params.fileContent.utf8ByteSize ≤ options.maxFileSizeBytes.getD dep.maxFileSizeBytes)
    (plainAppError "Uploaded file exceeds size limit" 413)
  let rows ← fromExcept (parseCsvBuffer params.fileContent)
  ensure (rows.length ≤ maxRows)
    (plainAppError s!"CSV exceeds maximum of {maxRows} rows (received {rows.length})" 413)
  processJob dep params (options.chunkSize.getD dep.chunkSize) rows

/-- What a job looks like to its organisation. -/
def jobView (jobId : JobId) (job : BulkTransferJob) : BulkTransferJobResult where
  jobId := jobId
  totalRows := job.totalRows
  successCount := job.successCount
  failureCount := job.failureCount
  skippedCount := countStatus .skipped (job.failureReport.getD [])
  status := job.status
  createdAt := job.createdAt
  completedAt := job.completedAt
  failureReport := job.failureReport.getD []

def getBulkTransferJob (jobId : JobId) (organizationId : String)
    : Prog bulkInterface (Option BulkTransferJobResult) := do
  let job ← perform (.findJob jobId organizationId)
  return job.map (jobView jobId)

-- The tables

/-- The tables, and the organisation of each row that a bulk transfer has written. -/
structure World where
  transfers : Transfer.World
  organizationOf : AList (fun _ : TxId => String) := ∅
  jobs : AList (fun _ : JobId => BulkTransferJob) := ∅

/-- What the environment answers a call with. -/
structure Choice where
  outcome : Outcome JsError := .done
  time : ℤ := 0
  user : Option User := none
  freshId : TxId := ""
  freshJob : JobId := ""

/-- `prisma.transaction.findUnique` by key, whoever has used it. -/
def findByKey (transfers : Transfer.World) (idempotencyKey : String)
    : Option (TxId × TransactionStatus) :=
  (transfers.transfers.entries.find? (fun e => e.2.idempotencyKey = some idempotencyKey)).map
    (fun e => (e.1, e.2.status))

def NewJob.row (data : NewJob) (createdAt : ℤ) : BulkTransferJob where
  organizationId := data.organizationId
  status := data.status
  totalRows := data.totalRows
  createdAt := createdAt

/-- `prisma.bulkTransferJob.create`. -/
def World.createJob (w : World) (x : Choice) (data : NewJob) : World :=
  { w with jobs := w.jobs.insert x.freshJob (data.row x.time) }

/-- `prisma.bulkTransferJob.update` by id. -/
def World.updateJob (w : World) (id : JobId) (data : JobUpdate) : Except JsError Unit × World :=
  match w.jobs.lookup id with
  | none => (.error (.error "Record to update not found."), w)
  | some job => (.ok (), { w with jobs := w.jobs.insert id (job.apply data) })

/-- `prisma.bulkTransferJob.findFirst` by id and organisation. -/
def World.findJob (w : World) (id : JobId) (organizationId : String) : Option BulkTransferJob :=
  (w.jobs.lookup id).filter (fun job => job.organizationId = organizationId)

/-- `prisma.transaction.create`. -/
def World.createTransaction (w : World) (id : TxId) (organizationId : String) (data : TransferRow)
    : Except JsError TxId × World :=
  match w.transfers.create id data with
  | (.error error, _) => (.error error, w)
  | (.ok id, transfers) =>
      (.ok id, { w with transfers, organizationOf := w.organizationOf.insert id organizationId })

def effect (x : Choice) (w : World) : (op : BulkOp) → Except JsError op.Ret × World
  | .now => (.ok x.time, w)
  | .createJob data => (.ok (x.freshJob, x.time), w.createJob x data)
  | .updateJob id data => w.updateJob id data
  | .findJob id organizationId => (.ok (w.findJob id organizationId), w)
  | .beginTransaction | .commit | .rollback => (.ok (), w)
  | .findTransaction key => (.ok (findByKey w.transfers key), w)
  | .findUser _ => (.ok x.user, w)
  | .createTransaction organizationId data => w.createTransaction x.freshId organizationId data

/-- A new id is not in use, and a look at the clock does not fail. -/
def admissible (op : BulkOp) (x : Choice) (w : World) : Bool :=
  match op with
  | .now => x.outcome = .done
  | .createJob _ => x.freshJob ∉ w.jobs
  | .createTransaction .. => x.freshId ∉ w.transfers.transfers
  | _ => true

def bulkEnvironment : Environment bulkInterface World Choice where
  outcome := Choice.outcome
  effect := effect
  admissible := admissible

def bulkSemantics : Semantics bulkInterface World Choice :=
  bulkEnvironment.semantics

end AcbuBackend.Bulk

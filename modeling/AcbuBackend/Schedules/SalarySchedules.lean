import AcbuBackend.Jobs.JobLock
import AcbuBackend.Salary.BatchCreation
import AcbuBackend.Salary.SalaryService

/-! Salary schedules: the job that pages through the due ones, and the trigger of one. -/

namespace AcbuBackend.Schedules

open Effects Effects.Prog AcbuBackend.Runtime
open Jobs (LockOp LockWorld LockChoice lockInterface lockEffect lockAdmissible
  acquireJobLock
  releaseJobLock)
open Salary (CreationOp BatchWorld BatchId DecimalText creationInterface creationEffect
  creationAdmissible createSalaryBatch retryWithBackoff)

abbrev ScheduleId := String

inductive ScheduleStatus
  | active
  | other (status : String)
deriving DecidableEq

/-- An entry of `amountConfig`. A numeric amount is given by `String(item.amount)`, from which `new
Decimal` makes the same decimal.
-/
structure AmountConfigItem where
  amount : String
  recipient_id : Option String
  recipient_address : String
deriving DecidableEq

/-- A row of `SalarySchedule`. -/
structure SalarySchedule where
  organizationId : Option String
  userId : String
  cron : String
  amountConfig : List AmountConfigItem
  currency : String := "ACBU"
  status : ScheduleStatus := .active
  lastRunAt : Option ℤ := none
  nextRunAt : Option ℤ := none
deriving DecidableEq

/-- The `data` of an update; a time that is `none` is not written. -/
structure ScheduleUpdate where
  lastRunAt : Option ℤ := none
  nextRunAt : ℤ

def SalarySchedule.apply (schedule : SalarySchedule) (data : ScheduleUpdate) : SalarySchedule :=
  { schedule with
    lastRunAt := data.lastRunAt.or schedule.lastRunAt
    nextRunAt := some data.nextRunAt }

/-- Where the next page goes on. -/
structure Cursor where
  nextRunAt : Option ℤ := none
  id : Option ScheduleId := none

inductive SortKey
  | nextRunAtAsc
  | idAsc

/-- The arguments of `salarySchedule.findMany`, under the keys the job gives them. -/
structure DueQuery where
  now : ℤ
  cursor : Cursor
  ordesBy : List SortKey
  take : Nat

inductive ScheduleOp
  | now
  | lock (op : LockOp)
  | findMany (query : DueQuery)
  | findUnique (id : ScheduleId)
  | update (id : ScheduleId) (data : ScheduleUpdate)
  | creation (op : CreationOp)

abbrev ScheduleOp.Ret : ScheduleOp → Type
  | .now => ℤ
  | .lock op => op.Ret
  | .findMany _ => List (ScheduleId × SalarySchedule)
  | .findUnique _ => Option SalarySchedule
  | .update .. => Unit
  | .creation op => op.Ret

abbrev scheduleInterface : Interface where
  Op := ScheduleOp
  Ret := ScheduleOp.Ret
  Err := JsError

/-- Makes a call. -/
abbrev perform (op : ScheduleOp) : Prog scheduleInterface op.Ret :=
  Prog.await (I := scheduleInterface) op

def lockCalls : Inclusion lockInterface scheduleInterface where
  op := .lock
  value _ value := value
  error e := e
  throws e := e

def creationCalls : Inclusion creationInterface scheduleInterface where
  op := .creation
  value _ value := value
  error e := e
  throws e := e

structure Deployment where
  decimal : DecimalText
  /-- `getNextDailyMidnight`, in the business time zone. -/
  getNextDailyMidnight : ℤ → ℤ

-- triggerSchedule

def nextRun (dep : Deployment) (cron : String) (instant : ℤ) : ℤ :=
  if cron = "0 0 * * *" then dep.getNextDailyMidnight instant else instant + 60000

def batchParams (dep : Deployment) (schedule : SalarySchedule) (amounts : List ℚ)
    : Salary.CreateSalaryBatchParams where
  organizationId := schedule.organizationId.filter (fun id => id ≠ "")
  userId := schedule.userId
  totalAmount := some (dep.decimal.toText amounts.sum)
  currency := schedule.currency
  idempotencyKey := none
  items := schedule.amountConfig.map (fun item =>
    { recipientId := item.recipient_id
      recipientAddress := item.recipient_address
      amount := item.amount })

/-- The trigger of a schedule that was found active. -/
def runSchedule (dep : Deployment) (scheduleId : ScheduleId) (schedule : SalarySchedule)
    : Prog scheduleInterface Unit := do
  let amounts ← fromExcept (schedule.amountConfig.mapM (fun item => dep.decimal.parse item.amount))
  let _ ← (createSalaryBatch dep.decimal (batchParams dep schedule amounts)).within creationCalls
  let instant ← perform .now
  let lastRunAt ← perform .now
  perform (.update scheduleId
    { lastRunAt := some lastRunAt, nextRunAt := nextRun dep schedule.cron instant })

def triggerSchedule (dep : Deployment) (scheduleId : ScheduleId) : Prog scheduleInterface Unit := do
  let found ← perform (.findUnique scheduleId)
  match found.filter (fun schedule => schedule.status = .active) with
  | none => return ()
  | some schedule => runSchedule dep scheduleId schedule

/-- `retryWithBackoff(() => triggerSchedule(schedule.id), { attempts: 3, ... })`. -/
def triggerWithRetries (dep : Deployment) (scheduleId : ScheduleId) : Prog scheduleInterface Unit :=
  retryWithBackoff (triggerSchedule dep scheduleId) 3 (.error "")

-- salaryScheduleJob

def JOB_NAME : String := "salary-schedule"

def LOCK_TTL_S : Nat := 55

def PAGE_SIZE : Nat := 50

def MAX_PAGES : Nat := 100

/-- `computeNextRun(schedule.cron, new Date())`. No such function is defined or imported, and the
name is looked up before the arguments are evaluated.
-/
def computeNextRun (_cron : String) : Prog scheduleInterface ℤ :=
  fail (.error "computeNextRun is not defined")

/-- Whether the schedule was advanced; an error is logged. -/
def advanceSchedule (id : ScheduleId) (schedule : SalarySchedule) : Prog scheduleInterface Bool :=
  catchWith
    (do
      let nextRunAt ← computeNextRun schedule.cron
      perform (.update id { nextRunAt })
      return true)
    (fun _ => return false)

/-- The body of the inner loop. A schedule that was not advanced is not triggered. -/
def processSchedule (dep : Deployment) (id : ScheduleId) (schedule : SalarySchedule)
    : Prog scheduleInterface Unit := do
  let advanced ← advanceSchedule id schedule
  if advanced then swallow (triggerWithRetries dep id) else return ()

/-- The inner loop, and the cursor after it. -/
def processPage (dep : Deployment)
    : List (ScheduleId × SalarySchedule) → Cursor → Prog scheduleInterface Cursor
  | [], cursor => return cursor
  | (id, schedule) :: rest, cursor => do
      processSchedule dep id schedule
      processPage dep rest { nextRunAt := schedule.nextRunAt.or cursor.nextRunAt, id := some id }

/-- The outer loop, with the number of pages that are left. -/
def processPages (dep : Deployment) (now : ℤ) : Nat → Cursor → Prog scheduleInterface Unit
  | 0, _ => return ()
  | pages + 1, cursor => do
      let dueSchedules ← perform
        (.findMany { now, cursor, ordesBy := [.nextRunAtAsc, .idAsc], take := PAGE_SIZE })
      let cursor ← processPage dep dueSchedules cursor
      if dueSchedules.length < PAGE_SIZE then return () else processPages dep now pages cursor

/-- `_processSalarySchedules`. -/
def processDueSchedules (dep : Deployment) : Prog scheduleInterface Unit := do
  let now ← perform .now
  processPages dep now MAX_PAGES {}

/-- `try ... finally` with a cleanup that does not throw. -/
def finallyDo (body cleanup : Prog scheduleInterface Unit) : Prog scheduleInterface Unit := do
  let result ← catchWith
    (do
      body
      return .ok ())
    (fun error => return .error error)
  cleanup
  fromExcept result

def processSalarySchedules (dep : Deployment) : Prog scheduleInterface Unit := do
  let acquired ← (acquireJobLock JOB_NAME LOCK_TTL_S).within lockCalls
  if acquired then
    finallyDo (processDueSchedules dep) ((releaseJobLock JOB_NAME).within lockCalls)
  else return ()

-- The tables

abbrev ScheduleTable := AList (fun _ : ScheduleId => SalarySchedule)

structure World where
  schedules : ScheduleTable
  batches : BatchWorld
  lock : LockWorld

/-- What the environment answers a call with. `refusesUnknown` is a client that validates the keys
of a query, and `rows` the page of one that does not.
-/
structure Choice where
  outcome : Outcome JsError := .done
  time : ℤ := 0
  freshId : BatchId := ""
  lock : LockChoice := { time := 0 }
  refusesUnknown : Bool := false
  rows : List ScheduleId := []

/-- `status: "active", nextRunAt: { lte: now }`. -/
def SalarySchedule.due (schedule : SalarySchedule) (now : ℤ) : Bool :=
  schedule.status = .active && schedule.nextRunAt.any (fun instant => instant ≤ now)

/-- The condition of the cursor, once both of its columns are known. -/
def Cursor.admits (cursor : Cursor) (id : ScheduleId) (schedule : SalarySchedule) : Bool :=
  match cursor.nextRunAt, cursor.id with
  | some nextRunAt, some cursorId =>
      schedule.nextRunAt.any (fun instant => nextRunAt < instant)
        || schedule.nextRunAt = some nextRunAt && cursorId < id
  | _, _ => true

def World.matching (w : World) (query : DueQuery) : List ScheduleId :=
  (w.schedules.entries.filter (fun e => e.2.due query.now && query.cursor.admits e.1 e.2)).map (·.1)

/-- Without an order the database answers with any rows that match, as many as are asked for. -/
def World.answers (w : World) (query : DueQuery) (rows : List ScheduleId) : Bool :=
  decide rows.Nodup && rows.all (fun id => id ∈ w.matching query)
    && rows.length = min query.take (w.matching query).length

def World.readRows (w : World) (rows : List ScheduleId) : List (ScheduleId × SalarySchedule) :=
  rows.filterMap (fun id => (w.schedules.lookup id).map (fun schedule => (id, schedule)))

/-- `salarySchedule.update` by id. -/
def World.updateSchedule (w : World) (id : ScheduleId) (data : ScheduleUpdate)
    : Except JsError Unit × World :=
  match w.schedules.lookup id with
  | none => (.error (.error "Record to update not found."), w)
  | some schedule => (.ok (), { w with schedules := w.schedules.insert id (schedule.apply data) })

def unknownArgument : JsError :=
  .error "Unknown argument `ordesBy`. Did you mean `orderBy`?"

def effect (x : Choice) (w : World) : (op : ScheduleOp) → Except JsError op.Ret × World
  | .now => (.ok x.time, w)
  | .lock op =>
      let (answer, lock) := lockEffect (w.lock.at x.lock) op
      (answer, { w with lock })
  | .findMany _ => (if x.refusesUnknown then .error unknownArgument else .ok (w.readRows x.rows), w)
  | .findUnique id => (.ok (w.schedules.lookup id), w)
  | .update id data => w.updateSchedule id data
  | .creation op =>
      let (answer, batches) := creationEffect { freshId := x.freshId } w.batches op
      (answer, { w with batches })

def admissible (op : ScheduleOp) (x : Choice) (w : World) : Bool :=
  match op with
  | .now => x.outcome = .done
  | .lock op => lockAdmissible op { x.lock with outcome := x.outcome } w.lock
  | .findMany query => w.answers query x.rows
  | .findUnique _ | .update .. => true
  | .creation op => creationAdmissible op { outcome := x.outcome, freshId := x.freshId } w.batches

def scheduleEnvironment : Environment scheduleInterface World Choice where
  outcome := Choice.outcome
  effect := effect
  admissible := admissible

def scheduleSemantics : Semantics scheduleInterface World Choice :=
  scheduleEnvironment.semantics

-- A sample

/-- A schedule that is due from time zero on. -/
def sampleSchedule : SalarySchedule where
  organizationId := none
  userId := "user"
  cron := "0 0 * * *"
  amountConfig := [{ amount := "5", recipient_id := none, recipient_address := "recipient" }]
  nextRunAt := some 0

def sampleWorld : World where
  schedules := AList.singleton "schedule" sampleSchedule
  batches := { batches := ∅ }
  lock := { clock := 0, locks := fun _ => none }

/-- Decimals of one digit. -/
def sampleDeployment : Deployment where
  decimal :=
    { parse := fun text => if text = "5" then .ok 5 else .error (.error "[DecimalError] Invalid argument")
      toText := fun number => if number = 5 then "5" else "" }
  getNextDailyMidnight := fun instant => instant + 86400000

end AcbuBackend.Schedules

import AcbuBackend.Effects.Outcome
import AcbuBackend.Runtime.Errors
import Mathlib.Data.List.AList
import Mathlib.Data.Rat.Init

/-! Weight-drift audits, and how an admin approves or rejects one.
A decision reads the audit first, and writes it in a transaction of its own. The write takes effect
with the commit of the transaction.
-/

namespace AcbuBackend.WeightDrift

open Effects Effects.Prog AcbuBackend.Runtime

abbrev AuditId := String

inductive AuditStatus
  | pending
  | approved
  | rejected
deriving DecidableEq

def AuditStatus.text : AuditStatus → String
  | .pending => "pending"
  | .approved => "approved"
  | .rejected => "rejected"

/-- A row of `WeightDriftCurrency`. -/
structure WeightDriftCurrencyRow where
  currency : String
  policyWeight : ℚ
  actualWeight : ℚ
  driftPercent : ℚ
  exceedsThreshold : Bool
  recommendation : Option String
deriving DecidableEq

/-- A row of `WeightDriftAudit`. -/
structure WeightDriftAuditRow where
  auditPeriodStart : ℤ
  auditPeriodEnd : ℤ
  totalCurrencies : Nat
  currenciesExceedingThreshold : Nat
  maxDriftPercent : ℚ
  status : AuditStatus := .pending
  approvedBy : Option String := none
  approvalNotes : Option String := none
  approvedAt : Option ℤ := none
deriving DecidableEq

/-- An audit with the rows of its currencies. -/
structure WeightDriftAudit where
  row : WeightDriftAuditRow
  currencies : List WeightDriftCurrencyRow
deriving DecidableEq

structure WeightDriftEntry where
  currency : String
  policyWeight : ℚ
  actualWeight : ℚ
  driftPercent : ℚ
  exceedsThreshold : Bool
  recommendation : String

structure WeightDriftReport where
  auditId : AuditId
  auditPeriodStart : ℤ
  auditPeriodEnd : ℤ
  totalCurrencies : Nat
  currenciesExceedingThreshold : Nat
  maxDriftPercent : ℚ
  entries : List WeightDriftEntry
  status : AuditStatus

/-- The fields a decision writes; `none` is `undefined`, which leaves the column as it is. -/
structure AuditUpdate where
  status : AuditStatus
  approvedBy : Option String := none
  approvalNotes : Option String := none
  approvedAt : Option ℤ := none
deriving DecidableEq

structure AuditEntry where
  eventType : String
  entityType : String := "WeightDriftAudit"
  entityId : AuditId
  action : String
  performedBy : String
  newStatus : AuditStatus
  newNotes : Option String

inductive AuditOp
  | findUniqueOrThrow (auditId : AuditId)
  | now
  | update (auditId : AuditId) (data : AuditUpdate)
  | logAudit (entry : AuditEntry)
  | commit (auditId : AuditId) (data : AuditUpdate)

abbrev AuditOp.Ret : AuditOp → Type
  | .findUniqueOrThrow _ => WeightDriftAudit
  | .now => ℤ
  | .update .. => WeightDriftAuditRow
  | .logAudit _ | .commit .. => Unit

abbrev auditInterface : Interface where
  Op := AuditOp
  Ret := AuditOp.Ret
  Err := JsError

/-- Makes a call. -/
abbrev perform (op : AuditOp) : Prog auditInterface op.Ret :=
  Prog.await (I := auditInterface) op

-- The service

def formatEntry (c : WeightDriftCurrencyRow) : WeightDriftEntry where
  currency := c.currency
  policyWeight := c.policyWeight
  actualWeight := c.actualWeight
  driftPercent := c.driftPercent
  exceedsThreshold := c.exceedsThreshold
  recommendation := c.recommendation.getD ""

def formatAuditReport (auditId : AuditId) (audit : WeightDriftAuditRow)
    (currencies : List WeightDriftCurrencyRow)
    : WeightDriftReport where
  auditId := auditId
  auditPeriodStart := audit.auditPeriodStart
  auditPeriodEnd := audit.auditPeriodEnd
  totalCurrencies := audit.totalCurrencies
  currenciesExceedingThreshold := audit.currenciesExceedingThreshold
  maxDriftPercent := audit.maxDriftPercent
  entries := currencies.map formatEntry
  status := audit.status

def writeDecision (auditId : AuditId) (data : AuditUpdate) (entry : AuditEntry)
    : Prog auditInterface WeightDriftAuditRow := do
  let updated ← perform (.update auditId data)
  perform (.logAudit entry)
  perform (.commit auditId data)
  return updated

def approval (approvedBy : String) (approvalNotes : Option String) (approvedAt : ℤ)
    : AuditUpdate where
  status := .approved
  approvedBy := some approvedBy
  approvalNotes := approvalNotes
  approvedAt := some approvedAt

def rejection (reason : String) : AuditUpdate where
  status := .rejected
  approvalNotes := some reason

def approveAudit (auditId : AuditId) (approvedBy : String) (approvalNotes : Option String)
    : Prog auditInterface WeightDriftReport := do
  let audit ← perform (.findUniqueOrThrow auditId)
  ensure (audit.row.status = .pending)
    (.error s!"Cannot approve audit with status: {audit.row.status.text}")
  let approvedAt ← perform .now
  let updatedAudit ← writeDecision auditId (approval approvedBy approvalNotes approvedAt)
    { eventType := "WEIGHT_DRIFT_AUDIT_APPROVED"
      entityId := auditId
      action := "approve"
      performedBy := approvedBy
      newStatus := .approved
      newNotes := approvalNotes }
  return formatAuditReport auditId updatedAudit audit.currencies

def rejectAudit (auditId : AuditId) (rejectedBy reason : String)
    : Prog auditInterface WeightDriftReport := do
  let audit ← perform (.findUniqueOrThrow auditId)
  ensure (audit.row.status = .pending)
    (.error s!"Cannot reject audit with status: {audit.row.status.text}")
  let updatedAudit ← writeDecision auditId (rejection reason)
    { eventType := "WEIGHT_DRIFT_AUDIT_REJECTED"
      entityId := auditId
      action := "reject"
      performedBy := rejectedBy
      newStatus := .rejected
      newNotes := some reason }
  return formatAuditReport auditId updatedAudit audit.currencies

-- The tables

def AuditUpdate.apply (data : AuditUpdate) (row : WeightDriftAuditRow) : WeightDriftAuditRow :=
  { row with
    status := data.status
    approvedBy := data.approvedBy.or row.approvedBy
    approvalNotes := data.approvalNotes.or row.approvalNotes
    approvedAt := data.approvedAt.or row.approvedAt }

def WeightDriftAudit.updated (audit : WeightDriftAudit) (data : AuditUpdate) : WeightDriftAudit :=
  { audit with row := data.apply audit.row }

abbrev Audits := AList (fun _ : AuditId => WeightDriftAudit)

structure World where
  audits : Audits
  auditTrail : List AuditEntry := []

/-- What becomes of a call, and the time. -/
structure Choice where
  outcome : Outcome JsError := .done
  time : ℤ := 0

def auditNotFound : JsError :=
  .error "No WeightDriftAudit found"

def World.commit (w : World) (auditId : AuditId) (data : AuditUpdate) : World :=
  match w.audits.lookup auditId with
  | some audit => { w with audits := w.audits.insert auditId (audit.updated data) }
  | none => w

def auditEffect (x : Choice) (w : World) : (op : AuditOp) → Except JsError op.Ret × World
  | .findUniqueOrThrow auditId => ((w.audits.lookup auditId).elim (.error auditNotFound) .ok, w)
  | .now => (.ok x.time, w)
  | .update auditId data =>
      ((w.audits.lookup auditId).elim (.error auditNotFound)
        (fun audit => .ok (data.apply audit.row)), w)
  | .logAudit entry => (.ok (), { w with auditTrail := w.auditTrail ++ [entry] })
  | .commit auditId data => (.ok (), w.commit auditId data)

/-- Every call but a look at the clock can fail. -/
def admissible : AuditOp → Choice → World → Bool
  | .now, x, _ => x.outcome = .done
  | _, _, _ => true

def auditEnvironment : Environment auditInterface World Choice where
  outcome := Choice.outcome
  effect := auditEffect
  admissible := admissible

def auditSemantics : Semantics auditInterface World Choice :=
  auditEnvironment.semantics

-- Runs

/-- A call of an admin. -/
inductive Decision
  | approve (auditId : AuditId) (approvedBy : String) (approvalNotes : Option String)
  | reject (auditId : AuditId) (rejectedBy reason : String)

def Decision.auditId : Decision → AuditId
  | .approve auditId .. | .reject auditId .. => auditId

def Decision.prog : Decision → Prog auditInterface WeightDriftReport
  | .approve auditId approvedBy approvalNotes => approveAudit auditId approvedBy approvalNotes
  | .reject auditId rejectedBy reason => rejectAudit auditId rejectedBy reason

abbrev AuditConfig := Config auditInterface WeightDriftReport World

def initialConfig (decisions : List Decision) (audits : Audits) : AuditConfig :=
  .initial { audits } (decisions.map Decision.prog)

end AcbuBackend.WeightDrift

import AcbuBackend.Effects.Outcome
import AcbuBackend.Messages.QueueSchemas

/-! The audit log: its publisher with the outbox and the file it falls back to, and the consumer
that writes its rows. Log texts, delays and the body of the alert are left out; the time is an
argument.
-/

namespace AcbuBackend.Audit

open Effects Effects.Prog AcbuBackend.Runtime Zod
open Messages (Formats encode parseIncomingMessage)

-- Entries

inductive KeyType
  | USER_KEY
  | ADMIN_KEY
  | BREAK_GLASS_KEY
deriving DecidableEq

def KeyType.text : KeyType → String
  | .USER_KEY => "USER_KEY"
  | .ADMIN_KEY => "ADMIN_KEY"
  | .BREAK_GLASS_KEY => "BREAK_GLASS_KEY"

structure AuditEntry where
  eventType : String
  entityType : Option String := none
  entityId : Option String := none
  action : String
  oldValue : Option JsValue := none
  newValue : Option JsValue := none
  performedBy : Option String := none
  actorType : Option String := none
  keyType : Option KeyType := none
  organizationId : Option String := none
  reason : Option String := none

/-- `!text`. -/
def isMissing (text : Option String) : Bool :=
  text.all (· = "")

def getMissingAdminAttributionFields (entry : AuditEntry) : List String :=
  if entry.keyType = some .ADMIN_KEY ∨ entry.keyType = some .BREAK_GLASS_KEY then
    (if isMissing entry.performedBy then ["performedBy"] else [])
      ++ (if isMissing entry.actorType then ["actorType"] else [])
      ++ (if isMissing entry.organizationId then ["organizationId"] else [])
      ++ (if isMissing entry.reason then ["reason"] else [])
  else []

/-- The field of the payload that names what is missing. -/
def attributionError (entry : AuditEntry) : Option String :=
  match getMissingAdminAttributionFields entry with
  | [] => none
  | missing => some ("Missing required fields: " ++ String.intercalate ", " missing)

/-- `{ ...entry, timestamp, attributionError }`. A field that is `undefined` is not written. -/
def auditPayload (entry : AuditEntry) (timestamp : String) : Members :=
  mergeObject
    [("eventType", some (.string entry.eventType)), ("entityType", entry.entityType.map .string),
      ("entityId", entry.entityId.map .string), ("action", some (.string entry.action)),
      ("oldValue", entry.oldValue), ("newValue", entry.newValue),
      ("performedBy", entry.performedBy.map .string), ("actorType", entry.actorType.map .string),
      ("keyType", entry.keyType.map (fun keyType => .string keyType.text)),
      ("organizationId", entry.organizationId.map .string), ("reason", entry.reason.map .string),
      ("timestamp", some (.string timestamp)),
      ("attributionError", (attributionError entry).map .string)]

/-- The `data` of a new row of `auditTrail`. -/
structure AuditRow where
  eventType : String
  entityType : Option String
  entityId : Option String
  action : String
  oldValue : Option JsValue
  newValue : Option JsValue
  performedBy : Option String
  actorType : Option String
  keyType : Option String
  organizationId : Option String
  reason : Option String
  timestamp : Option String

def textField (payload : JsValue) (key : String) : Option String :=
  match payload.field? key with
  | some (.string text) => some text
  | _ => none

/-- `value ?? undefined`. -/
def valueField (payload : JsValue) (key : String) : Option JsValue :=
  match payload.field? key with
  | some .null => none
  | value => value

def rowOf (validatedEntry : JsValue) : AuditRow where
  eventType := (textField validatedEntry "eventType").getD ""
  entityType := textField validatedEntry "entityType"
  entityId := textField validatedEntry "entityId"
  action := (textField validatedEntry "action").getD ""
  oldValue := valueField validatedEntry "oldValue"
  newValue := valueField validatedEntry "newValue"
  performedBy := textField validatedEntry "performedBy"
  actorType := textField validatedEntry "actorType"
  keyType := textField validatedEntry "keyType"
  organizationId := textField validatedEntry "organizationId"
  reason := textField validatedEntry "reason"
  timestamp := (textField validatedEntry "timestamp").filter (· ≠ "")

-- Calls

inductive AuditOp
  | getRabbitMQChannel
  | sendToQueue (content : List Char)
  | sleep (ms : Nat)
  | insertOutbox (payload : Members) (failureReason : String)
  | appendFile (payload : Members) (failureReason : String)
  | sendEmail (recipient subject : String)
  | receive
  | createAuditTrail (data : AuditRow)
  | ack (content : List Char)
  | nack (content : List Char)
  | assertDlq
  | sendToDlq (content : List Char)

/-- `sendToQueue` answers whether its buffer has room left. -/
abbrev AuditOp.Ret : AuditOp → Type
  | .sendToQueue _ => Bool
  | .receive => List Char
  | _ => Unit

abbrev auditInterface : Interface where
  Op := AuditOp
  Ret := AuditOp.Ret
  Err := JsError

abbrev issue (op : AuditOp) : Prog auditInterface op.Ret :=
  Prog.await (I := auditInterface) op

structure Deployment where
  alertEmail : String
  formats : Formats
  numberText : ℚ → List Char

-- The publisher

def RETRY_DELAY_MS : Nat := 200

/-- One attempt. -/
def publish (content : List Char) : Prog auditInterface Unit := do
  issue .getRabbitMQChannel
  let sent ← issue (.sendToQueue content)
  ensure sent (.error "RabbitMQ sendToQueue returned false")

/-- The attempts from one on, with the number of those that are left after it. -/
def publishFrom (content : List Char) (attempt : Nat) : Nat → Prog auditInterface Unit
  | 0 => publish content
  | left + 1 =>
      catchWith (publish content) (fun _ => do
        issue (.sleep (RETRY_DELAY_MS * attempt))
        publishFrom content (attempt + 1) left)

/-- `publishWithRetry`, of at most `MAX_RETRIES` attempts. -/
def publishWithRetry (content : List Char) : Prog auditInterface Unit :=
  publishFrom content 1 2

def saveToFallbackFile (payload : Members) (failureReason : String) : Prog auditInterface Unit :=
  swallow (issue (.appendFile payload failureReason))

def alertAdmin (dep : Deployment) (eventType : String) : Prog auditInterface Unit :=
  if dep.alertEmail = "" then pure ()
  else
    swallow (issue (.sendEmail dep.alertEmail ("CRITICAL: Audit Log System Failure - "
      ++ eventType)))

def saveToOutbox (dep : Deployment) (eventType : String) (payload : Members)
    (failureReason : String)
    : Prog auditInterface Unit :=
  catchWith (issue (.insertOutbox payload failureReason)) (fun _ => do
    saveToFallbackFile payload failureReason
    alertAdmin dep eventType)

/-- What is thrown where the outer `catch` names `payload`, which is not in its scope. -/
def payloadNotDefined : JsError :=
  .error "payload is not defined"

def logAudit (dep : Deployment) (timestamp : String) (entry : AuditEntry)
    : Prog auditInterface Unit :=
  let payload := auditPayload entry timestamp
  catchWith
    (catchWith (publishWithRetry (encode dep.numberText (.object payload)))
      (fun err => saveToOutbox dep entry.eventType payload err.message))
    (fun _ => fail payloadNotDefined)

-- The consumer

def MAX_RETRIES : Nat := 3

def INITIAL_BACKOFF_MS : Nat := 1000

/-- Whether a call has not thrown. -/
def succeeds (body : Prog auditInterface Unit) : Prog auditInterface Bool :=
  catchWith (do body; pure true) (fun _ => pure false)

/-- What an attempt comes to: the row and its acknowledgement, the row alone, or neither. -/
inductive Attempt
  | acknowledged
  | created
  | failed
deriving DecidableEq

def attemptCreate (content : List Char) (data : AuditRow) : Prog auditInterface Attempt := do
  let created ← succeeds (issue (.createAuditTrail data))
  if created then do
    let acknowledged ← succeeds (issue (.ack content))
    pure (if acknowledged then .acknowledged else .created)
  else pure .failed

/-- The `while` loop, with the number of retries that are left. A row whose acknowledgement has
thrown ends it as well.
-/
def createLoop (content : List Char) (data : AuditRow) : Nat → Prog auditInterface Unit
  | 0 => do
      let attempt ← attemptCreate content data
      if attempt = .acknowledged then pure () else issue (.nack content)
  | left + 1 => do
      let attempt ← attemptCreate content data
      if attempt = .acknowledged then pure ()
      else do
        issue (.sleep (INITIAL_BACKOFF_MS * 2 ^ (MAX_RETRIES - (left + 1))))
        if attempt = .created then pure () else createLoop content data left

def deadLetterMessage (content : List Char) : Prog auditInterface Unit := do
  issue .getRabbitMQChannel
  issue .assertDlq
  issue (.sendToDlq content)

def auditConsumer (dep : Deployment) : Prog auditInterface Unit := do
  let content ← issue .receive
  match parseIncomingMessage dep.formats .AUDIT_LOGS content with
  | .ok validatedEntry =>
      catchWith (createLoop content (rowOf validatedEntry) MAX_RETRIES)
        (fun _ => issue (.nack content))
  | .error (.validation _ _) => do
      deadLetterMessage content
      issue (.ack content)
  | .error .syntaxError => issue (.nack content)

-- The pipeline

/-- The messages that wait for their delivery, the dead letters, the rows, and what was saved of
entries that were not published.
-/
structure AuditWorld where
  queue : List (List Char) := []
  deadLetters : List (List Char) := []
  rows : List AuditRow := []
  outbox : List (Members × String) := []
  file : List (Members × String) := []

/-- What the environment answers a call with. -/
structure AuditChoice where
  outcome : Outcome JsError := .done
  sent : Bool := true
  content : List Char := []

/-- A message is kept also where `sendToQueue` answers `false`. -/
def auditEffect (x : AuditChoice) (w : AuditWorld)
    : (op : AuditOp) → Except JsError op.Ret × AuditWorld
  | .sendToQueue content => (.ok x.sent, { w with queue := content :: w.queue })
  | .insertOutbox payload reason => (.ok (), { w with outbox := (payload, reason) :: w.outbox })
  | .appendFile payload reason => (.ok (), { w with file := (payload, reason) :: w.file })
  | .receive => (.ok x.content, { w with queue := w.queue.erase x.content })
  | .createAuditTrail data => (.ok (), { w with rows := data :: w.rows })
  | .nack content | .sendToDlq content =>
      (.ok (), { w with deadLetters := content :: w.deadLetters })
  | .getRabbitMQChannel | .sleep _ | .sendEmail .. | .ack _ | .assertDlq => (.ok (), w)

/-- Every call but a timer may fail. A message is delivered once. -/
def auditEnvironment : Environment auditInterface AuditWorld AuditChoice where
  outcome := AuditChoice.outcome
  effect := auditEffect
  admissible
    | .receive, x, w => w.queue.contains x.content && x.outcome = .done
    | .sleep _, x, _ => x.outcome = .done
    | _, _, _ => true

def auditSemantics : Semantics auditInterface AuditWorld AuditChoice :=
  auditEnvironment.semantics

abbrev AuditConfig := Config auditInterface Unit AuditWorld

/-- An entry that is logged next to a number of deliveries, at their start. -/
def auditPipeline (dep : Deployment) (timestamp : String) (entry : AuditEntry) (deliveries : Nat)
    : AuditConfig :=
  Config.initial {} (logAudit dep timestamp entry :: List.replicate deliveries (auditConsumer dep))

end AcbuBackend.Audit

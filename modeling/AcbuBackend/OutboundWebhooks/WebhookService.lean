import AcbuBackend.Effects.Outcome
import AcbuBackend.Queue.Messages
import Mathlib.Data.List.AList

/-! Outbound webhooks: their delivery, the consumer of their queue, and the system of both with the
producer. Times of attempts and log texts are left out.
-/

namespace AcbuBackend.OutboundWebhooks

open Effects Effects.Prog AcbuBackend.Runtime
open Json (Value)
open Queue (QueueOp NewWebhook queueInterface)

-- Calls

/-- A row of `webhooks`. -/
structure WebhookRow where
  payload : Value
  signature : Option String
  status : String
  attempts : Nat := 0

/-- The `data` of an update. -/
structure WebhookUpdate where
  status : String
  attempts : Option Nat := none

/-- A request of axios. The body is sent as `JSON.stringify` of it. -/
structure WebhookRequest where
  url : String
  body : Value
  idempotencyKey : String
  /-- The header `x-acbu-signature`. -/
  signature : Option String

/-- A message with its header `x-retries`. -/
structure WebhookMessage where
  content : List Char
  retries : Nat := 0
deriving DecidableEq

/-- The calls of the producer and of the consumer. `delay` waits for a timer. -/
inductive WebhookOp
  | queue (op : QueueOp)
  | findWebhook (webhookId : String)
  | updateWebhook (webhookId : String) (data : WebhookUpdate)
  | post (request : WebhookRequest)
  | delay (ms : Nat)
  | receive
  | ack (msg : WebhookMessage)
  | assertDlq
  | sendToDlq (content : List Char)
  | sendToQueue (msg : WebhookMessage)

abbrev WebhookOp.Ret : WebhookOp → Type
  | .queue op => op.Ret
  | .findWebhook _ => Option WebhookRow
  | .receive => WebhookMessage
  | _ => Unit

abbrev webhookInterface : Interface where
  Op := WebhookOp
  Ret := WebhookOp.Ret
  Err := JsError

abbrev ask (op : WebhookOp) : Prog webhookInterface op.Ret :=
  Prog.await (I := webhookInterface) op

def queueCalls : Inclusion queueInterface webhookInterface where
  op := .queue
  value _ value := value
  error := id
  throws := id

/-- The producer's configuration, the formats of the messages, and `new URL(url).hostname`. -/
structure Deployment extends Queue.Deployment where
  formats : Messages.Formats
  hostname : String → Option String
  toLowerCase : String → String

-- Delivery

structure WebhookRetryPolicy where
  maxAttempts : Nat
  initialDelayMs : Nat
  maxDelayMs : Nat
  multiplier : Nat

def DEFAULT_RETRY_POLICY : WebhookRetryPolicy where
  maxAttempts := 5
  initialDelayMs := 1000
  maxDelayMs := 60000
  multiplier := 2

/-- The policy of the hosts that have "partner" or "api" in their name. -/
def PARTNER_RETRY_POLICY : WebhookRetryPolicy where
  maxAttempts := 8
  initialDelayMs := 2500
  maxDelayMs := 60000
  multiplier := 2

def hasInfix (part text : String) : Bool :=
  text.toList.tails.any (part.toList.isPrefixOf ·)

def getRetryPolicyForUrl (dep : Deployment) (url : String) : WebhookRetryPolicy :=
  match dep.hostname url with
  | none => DEFAULT_RETRY_POLICY
  | some hostname =>
      let hostname := dep.toLowerCase hostname
      if hasInfix "partner" hostname || hasInfix "api" hostname then PARTNER_RETRY_POLICY
      else DEFAULT_RETRY_POLICY

structure DeliveryResult where
  success : Bool
  terminal : Bool

/-- The signature that was stored, else one of the payload as it has been read. -/
def signatureOf (dep : Deployment) (row : WebhookRow) : Option String :=
  row.signature.or (Queue.signPayload dep.toDeployment row.payload)

/-- An empty signature is not sent. -/
def deliveryRequest (dep : Deployment) (webhookId : String) (row : WebhookRow)
    : WebhookRequest where
  url := dep.webhookUrl
  body := row.payload
  idempotencyKey := webhookId
  signature := (signatureOf dep row).filter (· ≠ "")

/-- Whether a call has not thrown. -/
def succeeds (body : Prog webhookInterface Unit) : Prog webhookInterface Bool :=
  catchWith (do body; pure true) (fun _ => pure false)

/-- The update that records a request that was sent. -/
def completeWebhook (webhookId : String) (attempts : Nat) (sent : Bool)
    : Prog webhookInterface Bool :=
  if sent then
    succeeds (ask (.updateWebhook webhookId { status := "completed", attempts := some attempts }))
  else pure false

/-- The attempts after a round that failed. One that was sent but not recorded counts twice. -/
def failedAttempts (attempts : Nat) (sent : Bool) : Nat :=
  if sent then attempts + 2 else attempts + 1

/-- The loop of `deliverWebhook`, for at most as many rounds as attempts are allowed. -/
def deliverLoop (dep : Deployment) (webhookId : String) (row : WebhookRow) (attempts : Nat)
    : Nat → Prog webhookInterface DeliveryResult
  | 0 => pure { success := false, terminal := true }
  | rounds + 1 =>
      let policy := getRetryPolicyForUrl dep dep.webhookUrl
      if attempts < policy.maxAttempts then do
        let sent ← succeeds (ask (.post (deliveryRequest dep webhookId row)))
        let recorded ← completeWebhook webhookId (attempts + 1) sent
        if recorded then pure { success := true, terminal := false }
        else do
          let attempts := failedAttempts attempts sent
          let terminalFailure := decide (policy.maxAttempts ≤ attempts)
          ask (.updateWebhook webhookId
            { status := if terminalFailure then "failed" else "pending"
              attempts := some attempts })
          if terminalFailure then pure { success := false, terminal := true }
          else do
            ask (.delay (min (policy.initialDelayMs * policy.multiplier ^ (attempts - 1))
              policy.maxDelayMs))
            deliverLoop dep webhookId row attempts rounds
      else pure { success := false, terminal := true }

/-- `deliverWebhook` of a row that was found. -/
def deliverRow (dep : Deployment) (webhookId : String) (row : WebhookRow)
    : Prog webhookInterface DeliveryResult :=
  if row.status = "completed" then pure { success := true, terminal := false }
  else if row.status = "failed" then pure { success := false, terminal := true }
  else if dep.webhookUrl = "" then do
    ask (.updateWebhook webhookId { status := "failed" })
    pure { success := false, terminal := true }
  else
    deliverLoop dep webhookId row row.attempts (getRetryPolicyForUrl dep dep.webhookUrl).maxAttempts

def deliverWebhook (dep : Deployment) (webhookId : String)
    : Prog webhookInterface DeliveryResult := do
  let webhook ← ask (.findWebhook webhookId)
  match webhook with
  | none => pure { success := false, terminal := true }
  | some row => deliverRow dep webhookId row

section

variable {dep : Deployment} {webhookId : String} {row : WebhookRow} {p : WebhookOp → Prop}

theorem succeeds_only {body : Prog webhookInterface Unit} (h : Protocol.Only p body)
    : Protocol.Only p (succeeds body) :=
  Protocol.only_catchWith (Protocol.only_bind h fun _ => trivial) fun _ => trivial

theorem deliverLoop_only {attempts rounds : Nat}
    (post : p (.post (deliveryRequest dep webhookId row)))
    (update : ∀ data, p (.updateWebhook webhookId data)) (delay : ∀ ms, p (.delay ms))
    : Protocol.Only p (deliverLoop dep webhookId row attempts rounds) := by
  induction rounds generalizing attempts with
  | zero => trivial
  | succ rounds ih =>
      unfold deliverLoop
      dsimp only
      split
      · refine Protocol.only_bind (succeeds_only (Protocol.only_await post)) fun sent => ?_
        refine Protocol.only_bind ?_ fun recorded => ?_
        · unfold completeWebhook
          split
          · exact succeeds_only (Protocol.only_await (update _))
          · trivial
        · split
          · trivial
          · refine Protocol.only_bind (Protocol.only_await (update _)) fun _ => ?_
            split
            · trivial
            · exact Protocol.only_bind (Protocol.only_await (delay _)) fun _ => ih
      · trivial

theorem deliverRow_only (post : p (.post (deliveryRequest dep webhookId row)))
    (update : ∀ data, p (.updateWebhook webhookId data)) (delay : ∀ ms, p (.delay ms))
    : Protocol.Only p (deliverRow dep webhookId row) := by
  unfold deliverRow
  split
  · trivial
  split
  · trivial
  split
  · exact Protocol.only_bind (Protocol.only_await (update _)) fun _ => trivial
  · exact deliverLoop_only post update delay

end

-- The consumer

def MAX_RETRIES : Nat := 5

def deadLetterMessage (content : List Char) : Prog webhookInterface Unit := do
  ask (.queue .getRabbitMQChannel)
  ask .assertDlq
  ask (.sendToDlq content)

/-- The `webhookId` of a valid payload. -/
def webhookIdOf (payload : Zod.JsValue) : String :=
  match payload.field? "webhookId" with
  | some (.string webhookId) => webhookId
  | _ => ""

/-- A message with a valid payload. The result says whether it is to be sent again. -/
def deliverMessage (dep : Deployment) (msg : WebhookMessage) (payload : Zod.JsValue)
    : Prog webhookInterface Bool := do
  let webhookId := webhookIdOf payload
  if webhookId = "" then do
    ask (.ack msg)
    pure false
  else do
    let result ← deliverWebhook dep webhookId
    if result.success then do
      ask (.ack msg)
      pure false
    else if result.terminal || decide (MAX_RETRIES ≤ msg.retries) then do
      ask (.sendToDlq msg.content)
      ask (.ack msg)
      pure false
    else do
      ask (.ack msg)
      pure true

/-- The end of the `catch`: the message is acknowledged, and given up or to be sent again. -/
def handleError (msg : WebhookMessage) : Prog webhookInterface Bool := do
  ask (.ack msg)
  if MAX_RETRIES ≤ msg.retries then do
    ask (.sendToDlq msg.content)
    pure false
  else pure true

/-- The callback up to its timer. -/
def handleMessage (dep : Deployment) (msg : WebhookMessage) : Prog webhookInterface Bool :=
  match Messages.parseIncomingMessage dep.formats .WEBHOOKS msg.content with
  | .ok payload => catchWith (deliverMessage dep msg payload) (fun _ => handleError msg)
  | .error (.validation _ _) => do
      deadLetterMessage msg.content
      ask (.ack msg)
      pure false
  | .error .syntaxError => handleError msg

/-- `startWebhookConsumer`: the delivery of one message, and the timer it may set. -/
def webhookConsumer (dep : Deployment) : Prog webhookInterface Unit := do
  let msg ← ask .receive
  let scheduled ← handleMessage dep msg
  if scheduled then do
    ask (.delay (min (2 ^ msg.retries * 1000) 60000))
    ask (.sendToQueue { msg with retries := msg.retries + 1 })
  else pure ()

end AcbuBackend.OutboundWebhooks

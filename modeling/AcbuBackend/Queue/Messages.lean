import AcbuBackend.Messages.QueueSchemas

/-! The producers of the queues for webhooks and one-time codes. -/

namespace AcbuBackend.Queue

open Effects Effects.Prog AcbuBackend.Runtime
open Json (Value)
open Messages (QueueSchemaName)

/-- The `data` of a new row of `webhooks`. -/
structure NewWebhook where
  eventType : String
  payload : Value
  signature : Option String
  status : String
  transactionId : Option String

inductive QueueOp
  | connectRabbitMQ
  | getRabbitMQChannel
  | assertQueue (queue : QueueSchemaName)
  | sendToQueue (queue : QueueSchemaName) (content : List Char)
  | createWebhook (data : NewWebhook)
  | now

/-- The time is answered as its ISO text. -/
abbrev QueueOp.Ret : QueueOp → Type
  | .createWebhook _ | .now => String
  | _ => Unit

abbrev queueInterface : Interface where
  Op := QueueOp
  Ret := QueueOp.Ret
  Err := JsError

abbrev call (op : QueueOp) : Prog queueInterface op.Ret :=
  Prog.await (I := queueInterface) op

structure Deployment where
  webhookUrl : String
  webhookSecret : String
  hmacSha256Hex : (secret payload : String) → String
  /-- The text of a number. -/
  numberText : ℚ → List Char

/-- The bytes of a value as JSON. -/
def Deployment.encode (dep : Deployment) (v : Value) : List Char :=
  Json.stringify dep.numberText v

def buildPayload (eventType timestamp : String) (data : List (String × Value)) : Value :=
  .object [("event", .string eventType), ("timestamp", .string timestamp), ("data", .object data)]

def signPayload (dep : Deployment) (payload : Value) : Option String :=
  if dep.webhookSecret = "" then none
  else some (dep.hmacSha256Hex dep.webhookSecret (String.ofList (dep.encode payload)))

def webhookMessage (webhookId : String) : Value :=
  .object [("webhookId", .string webhookId)]

def otpMessage (channel recipient code : String) : Value :=
  .object [("channel", .string channel), ("to", .string recipient), ("code", .string code)]

def enqueueWebhook (dep : Deployment) (eventType : String) (data : List (String × Value))
    (transactionId : Option String)
    : Prog queueInterface (Option String) :=
  if dep.webhookUrl = "" then return none
  else do
    let timestamp ← call .now
    let payload := buildPayload eventType timestamp data
    let webhookId ← call (.createWebhook
      { eventType, payload, signature := signPayload dep payload, status := "pending"
        transactionId })
    call .connectRabbitMQ
    call (.assertQueue .WEBHOOKS)
    call (.sendToQueue .WEBHOOKS (dep.encode (webhookMessage webhookId)))
    return some webhookId

def publishOtp (dep : Deployment) (channel recipient code : String) : Prog queueInterface Unit := do
  call .getRabbitMQChannel
  call (.assertQueue .OTP_SEND)
  call (.sendToQueue .OTP_SEND (dep.encode (otpMessage channel recipient code)))

/-- `publishOtpToQueue` of the recovery service. -/
def publishOtpToQueue (dep : Deployment) (channel recipient code : String)
    : Prog queueInterface Unit :=
  catchWith (publishOtp dep channel recipient code)
    (fun _ => fail (.error "OTP delivery unavailable"))

end AcbuBackend.Queue

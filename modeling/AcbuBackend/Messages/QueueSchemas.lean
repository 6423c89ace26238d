import AcbuBackend.Effects.Concurrent
import AcbuBackend.Runtime.Errors
import AcbuBackend.Zod.Settled

/-! The schemas of the queues, and the messages that are published and parsed by them. Headers are
left out.
-/

namespace AcbuBackend.Messages

open Effects Effects.Prog AcbuBackend.Runtime Zod

-- Checks

/-- The formats that the schemas ask of a string. -/
structure Formats where
  uuid : String → Bool
  datetime : String → Bool

/-- `STELLAR_TX_HASH_REGEX`. -/
def stellarTxHash (text : String) : Bool :=
  text.toList.length = 64 && text.toList.all (fun c => (radixDigit? 16 c).isSome)

/-- `^\d+(\.\d+)?$`. -/
def decimalText (text : String) : Bool :=
  let whole := text.toList.takeWhile isDigit
  whole ≠ [] &&
    match text.toList.dropWhile isDigit with
    | [] => true
    | '.' :: fraction => fraction ≠ [] && fraction.all isDigit
    | _ => false

/-- `min(length)` of a text. -/
def minLength (length : Nat) (text : String) : Bool :=
  length ≤ jsLength text

/-- `max(length)` of a text. -/
def maxLength (length : Nat) (text : String) : Bool :=
  jsLength text ≤ length

/-- `int()`. -/
def int : JsNumber → Bool
  | .finite value => value.den = 1
  | _ => false

def nonnegative (value : JsNumber) : Bool :=
  value.ge 0

def positive (value : JsNumber) : Bool :=
  value.gt 0

-- Schemas

/-- `z.string().optional()`. -/
def optionalText : Schema :=
  .optional (.string [])

/-- `z.string().optional().nullable()`. -/
def nullableText : Schema :=
  .nullable (.optional (.string []))

/-- `z.string().min(1)`. -/
def nonemptyText : Schema :=
  .string [minLength 1]

section

variable (formats : Formats)

/-- The schema of the events of a contract: `BaseEventSchema`, with its `type` and `data` replaced.
-/
def contractEventSchema (data : List (String × Schema)) : Schema :=
  .object
    [("contractId", .string []),
      ("type", .enum ["contract_credited", "contract_debited", "contract_effect"]),
      ("data", .object data true),
      ("ledger", .number true [int, nonnegative]),
      ("timestamp", .string [formats.datetime])]
    false

def EscrowEventSchema : Schema :=
  contractEventSchema formats
    [("amount", optionalText), ("account", optionalText), ("recipient", optionalText),
      ("to", optionalText), ("transaction_hash", optionalText), ("transaction_id", optionalText),
      ("tx_hash", optionalText)]

def LendingPoolEventSchema : Schema :=
  contractEventSchema formats
    [("amount", optionalText), ("account", optionalText), ("recipient", optionalText),
      ("to", optionalText), ("transaction_hash", optionalText)]

def SavingsVaultEventSchema : Schema :=
  contractEventSchema formats
    [("amount", optionalText), ("account", optionalText), ("recipient", optionalText),
      ("to", optionalText), ("transaction_hash", optionalText)]

def BurnEventSchema : Schema :=
  .object [("transactionId", optionalText), ("txHash", .string [stellarTxHash])] false

def MintEventSchema : Schema :=
  .object
    [("usdcAmount", .string [decimalText]), ("recipient", .string [minLength 56, maxLength 56]),
      ("txHash", .optional (.string [stellarTxHash])), ("transactionId", optionalText)]
    false

def AuditLogSchema : Schema :=
  .object
    [("eventType", nonemptyText), ("entityType", nullableText), ("entityId", nullableText),
      ("action", nonemptyText), ("oldValue", .nullable (.optional .unknown)),
      ("newValue", .nullable (.optional .unknown)), ("performedBy", nullableText),
      ("actorType", nullableText), ("keyType", nullableText), ("organizationId", nullableText),
      ("reason", nullableText), ("timestamp", .optional (.string [formats.datetime]))]
    false

def OtpSendSchema : Schema :=
  .object [("channel", .enum ["email", "sms"]), ("to", nonemptyText), ("code", nonemptyText)] false

def ReserveAlertSchema : Schema :=
  .object
    [("type", .literal "reserve_alert"), ("health", .string []),
      ("overcollateralizationRatio", .number true [nonnegative])]
    false

def WithdrawalStatusSchema : Schema :=
  .object
    [("type", .literal "withdrawal_status"), ("userId", .nullable (.string [])),
      ("status", .string []), ("currency", .string []), ("amount", .number true [nonnegative]),
      ("channel", .default (.array [.string "email"]) (.array (.string [])))]
    false

def InvestmentWithdrawalReadySchema : Schema :=
  .object
    [("type", .literal "investment_withdrawal_ready"),
      ("userId", .optional (.nullable (.string []))),
      ("organizationId", .optional (.nullable (.string []))),
      ("amountAcbu", .default (.number (.finite 0)) (.number true [nonnegative])),
      ("timestamp", .optional (.string [formats.datetime]))]
    false

def NotificationSchema : Schema :=
  .discriminatedUnion "type"
    [("reserve_alert", ReserveAlertSchema), ("withdrawal_status", WithdrawalStatusSchema),
      ("investment_withdrawal_ready", InvestmentWithdrawalReadySchema formats)]

def WebhookJobSchema : Schema :=
  .object [("webhookId", .string [formats.uuid])] false

def RebalancingInstructionSchema : Schema :=
  .object
    [("fromCurrency", nonemptyText), ("toCurrency", nonemptyText),
      ("amountUsd", .number false [nonnegative]), ("rateFromUsd", .number false [positive]),
      ("rateToUsd", .number false [positive]), ("amountFrom", .number false [nonnegative]),
      ("amountTo", .number false [nonnegative])]
    false

def RebalancingPayloadSchema : Schema :=
  .object
    [("eventId", nonemptyText),
      ("instructions", .default (.array []) (.array RebalancingInstructionSchema)),
      ("totalReserveValueUsd", .number false [nonnegative])]
    false

def XlmToAcbuPayloadSchema : Schema :=
  .object
    [("onRampSwapId", nonemptyText), ("userId", nonemptyText), ("stellarAddress", nonemptyText),
      ("xlmAmount", nonemptyText), ("usdcEquivalent", .optional nonemptyText)]
    false

def UsdcConvertAndMintPayloadSchema : Schema :=
  .object [("onRampSwapId", nonemptyText)] false

def StellarEventFailureSchema : Schema :=
  .object
    [("reason", .enum ["parse_failure", "handler_failure"]),
      ("capturedAt", .string [formats.datetime])]
    true

def MessageEnvelopeSchema : Schema :=
  .object
    [("version", .literalNumber 1), ("type", nonemptyText), ("messageId", .string [formats.uuid]),
      ("timestamp", .string [formats.datetime]), ("payload", .record)]
    false

end

inductive QueueSchemaName
  | ACBU_ESCROW_EVENTS
  | ACBU_LENDING_POOL_EVENTS
  | ACBU_SAVINGS_VAULT_EVENTS
  | AUDIT_LOGS
  | NOTIFICATIONS
  | OTP_SEND
  | REBALANCING
  | STELLAR_EVENT_FAILURES
  | USDC_CONVERSION
  | USDC_CONVERT_AND_MINT
  | WEBHOOKS
  | WITHDRAWAL_PROCESSING
  | XLM_TO_ACBU

def QueueSchemaName.text : QueueSchemaName → String
  | .ACBU_ESCROW_EVENTS => "acbu_escrow_events"
  | .ACBU_LENDING_POOL_EVENTS => "acbu_lending_pool_events"
  | .ACBU_SAVINGS_VAULT_EVENTS => "acbu_savings_vault_events"
  | .AUDIT_LOGS => "audit_logs"
  | .NOTIFICATIONS => "notifications"
  | .OTP_SEND => "otp_send"
  | .REBALANCING => "rebalancing"
  | .STELLAR_EVENT_FAILURES => "stellar_event_failures"
  | .USDC_CONVERSION => "usdc_conversion"
  | .USDC_CONVERT_AND_MINT => "usdc_convert_and_mint"
  | .WEBHOOKS => "webhooks"
  | .WITHDRAWAL_PROCESSING => "withdrawal_processing"
  | .XLM_TO_ACBU => "xlm_to_acbu"

def QUEUE_SCHEMAS (formats : Formats) : QueueSchemaName → Schema
  | .ACBU_ESCROW_EVENTS => EscrowEventSchema formats
  | .ACBU_LENDING_POOL_EVENTS => LendingPoolEventSchema formats
  | .ACBU_SAVINGS_VAULT_EVENTS => SavingsVaultEventSchema formats
  | .AUDIT_LOGS => AuditLogSchema formats
  | .NOTIFICATIONS => NotificationSchema formats
  | .OTP_SEND => OtpSendSchema
  | .REBALANCING => RebalancingPayloadSchema
  | .STELLAR_EVENT_FAILURES => StellarEventFailureSchema formats
  | .USDC_CONVERSION => MintEventSchema
  | .USDC_CONVERT_AND_MINT => UsdcConvertAndMintPayloadSchema
  | .WEBHOOKS => WebhookJobSchema formats
  | .WITHDRAWAL_PROCESSING => BurnEventSchema
  | .XLM_TO_ACBU => XlmToAcbuPayloadSchema

-- Messages

inductive MessageError
  /-- `MessageValidationError`. -/
  | validation (queue : QueueSchemaName) (validationErrors : Issues)
  | syntaxError

def validateMessage (formats : Formats) (queue : QueueSchemaName) (payload : JsValue)
    : Except MessageError JsValue :=
  ((QUEUE_SCHEMAS formats queue).parse payload).mapError (.validation queue)

def parseIncomingMessage (formats : Formats) (queue : QueueSchemaName) (content : List Char)
    : Except MessageError JsValue :=
  match Json.parse content with
  | none => .error .syntaxError
  | some raw =>
      match (MessageEnvelopeSchema formats).parse (ofJson raw) with
      | .error issues => .error (.validation queue issues)
      | .ok envelope => validateMessage formats queue ((envelope.field? "payload").getD .null)

/-- The calls of a producer. The time is answered as its ISO text. -/
inductive ProducerOp
  | getRabbitMQChannel
  | randomUUID
  | now
  | sendToQueue (queue : QueueSchemaName) (content : List Char)

abbrev ProducerOp.Ret : ProducerOp → Type
  | .randomUUID | .now => String
  | _ => Unit

abbrev producerInterface : Interface where
  Op := ProducerOp
  Ret := ProducerOp.Ret
  Err := JsError

abbrev produce (op : ProducerOp) : Prog producerInterface op.Ret :=
  Prog.await (I := producerInterface) op

/-- The message of a `MessageValidationError`. -/
def validationMessage (queue : QueueSchemaName) : String :=
  "Message validation failed for queue: " ++ queue.text

/-- A `ZodError`, whose text nothing reads. -/
def zodError : JsError :=
  .error "ZodError"

def envelopeOf (queue : QueueSchemaName) (messageId timestamp : String) (payload : JsValue)
    : JsValue :=
  .object [("version", .number (.finite 1)), ("type", .string queue.text),
    ("messageId", .string messageId), ("timestamp", .string timestamp), ("payload", payload)]

/-- The bytes of a value as JSON. -/
def encode (numberText : ℚ → List Char) (v : JsValue) : List Char :=
  Json.stringify numberText v.toJson

def publishValidatedMessage (numberText : ℚ → List Char) (formats : Formats)
    (queue : QueueSchemaName)
    (payload : JsValue)
    : Prog producerInterface Unit := do
  produce .getRabbitMQChannel
  let validated ← fromExcept
    ((validateMessage formats queue payload).mapError (fun _ => .error (validationMessage queue)))
  let messageId ← produce .randomUUID
  let timestamp ← produce .now
  let envelope := envelopeOf queue messageId timestamp validated
  let _ ← fromExcept (((MessageEnvelopeSchema formats).parse envelope).mapError (fun _ => zodError))
  produce (.sendToQueue queue (encode numberText envelope))

end AcbuBackend.Messages

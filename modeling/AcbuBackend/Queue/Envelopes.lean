import AcbuBackend.Json.RoundTrip
import AcbuBackend.Queue.Messages

/-! Messages with and without an envelope.
A consumer reads the payload out of an envelope. The producers of webhooks and one-time codes
publish their payload without one, so no consumer accepts it.
-/

namespace AcbuBackend.Queue

open Effects Effects.Prog AcbuBackend.Runtime
open Json (Value)
open Messages (Formats MessageEnvelopeSchema QueueSchemaName parseIncomingMessage)

-- What is claimed

/-- The producers of the two queues. -/
inductive Producer
  | enqueueWebhook (eventType : String) (data : List (String × Value))
    (transactionId : Option String)
  | publishOtp (channel recipient code : String)
  | publishOtpToQueue (channel recipient code : String)

def Producer.prog (dep : Deployment) : Producer → Prog queueInterface Unit
  | .enqueueWebhook eventType data transactionId => do
      let _ ← Queue.enqueueWebhook dep eventType data transactionId
      return ()
  | .publishOtp channel recipient code => Queue.publishOtp dep channel recipient code
  | .publishOtpToQueue channel recipient code => Queue.publishOtpToQueue dep channel recipient code

/-- A consumer accepts a message, and reads what was published. -/
def Agrees (formats : Formats) (queue : QueueSchemaName) (content : List Char) : Prop :=
  ∃ payload, Json.parse content = some payload
    ∧ parseIncomingMessage formats queue content = .ok (Zod.ofJson payload)

-- Messages without an envelope

/-- The fields that every message without an envelope lacks. -/
def envelopeIssues : Zod.Issues :=
  [[.key "version"], [.key "type"], [.key "messageId"], [.key "timestamp"], [.key "payload"]]

inductive BareMessage : QueueSchemaName → Value → Prop
  | webhook (webhookId : String) : BareMessage .WEBHOOKS (webhookMessage webhookId)
  | otp (channel recipient code : String) : BareMessage .OTP_SEND
    (otpMessage channel recipient code)

variable {dep : Deployment} {formats : Formats} {queue : QueueSchemaName}

theorem BareMessage.numbers {v : Value} (h : BareMessage queue v) : v.numbers = [] := by
  cases h <;> rfl

theorem BareMessage.refused {v : Value} (h : BareMessage queue v)
    : (MessageEnvelopeSchema formats).parse (Zod.ofJson v) = .error envelopeIssues := by
  cases h <;> rfl

theorem parse_bare {v : Value} (h : BareMessage queue v) : Json.parse (dep.encode v) = some v :=
  Json.parse_stringify v fun q member => by
    rw [h.numbers] at member
    cases member

theorem bareMessage_rejected {v : Value} (h : BareMessage queue v)
    : parseIncomingMessage formats queue (dep.encode v)
        = .error (.validation queue envelopeIssues) := by
  rw [parseIncomingMessage, parse_bare h]
  dsimp only
  rw [h.refused]

/-- The calls that publish bare messages only. -/
def PublishesBare (dep : Deployment) : QueueOp → Prop
  | .sendToQueue queue content => ∃ v, BareMessage queue v ∧ content = dep.encode v
  | _ => True

/-- Judges the calls of a program. -/
abbrev Publishes {α : Type} (dep : Deployment) (prog : Prog queueInterface α) : Prop :=
  (Protocol.only (PublishesBare dep)).wp prog () (fun _ _ => True) (fun _ _ => True)

theorem publishOtp_bare {channel recipient code : String}
    : Publishes dep (publishOtp dep channel recipient code) := by
  refine Protocol.only_bind (Protocol.only_await trivial) fun _ => Protocol.only_bind
    (Protocol.only_await trivial) fun _ => ?_
  exact Protocol.only_await ⟨_, .otp channel recipient code, rfl⟩

theorem enqueueWebhook_bare {eventType : String} {data : List (String × Value)}
    {transactionId : Option String}
    : Publishes dep (enqueueWebhook dep eventType data transactionId) := by
  unfold enqueueWebhook
  split
  · trivial
  · refine Protocol.only_bind (Protocol.only_await trivial) fun timestamp => ?_
    refine Protocol.only_bind (Protocol.only_await trivial) fun webhookId => ?_
    refine Protocol.only_bind (Protocol.only_await trivial) fun _ => Protocol.only_bind
      (Protocol.only_await trivial) fun _ => ?_
    exact Protocol.only_bind (Protocol.only_await ⟨_, .webhook webhookId, rfl⟩) fun _ => trivial

theorem producer_bare (producer : Producer) : Publishes dep (producer.prog dep) := by
  cases producer with
  | enqueueWebhook eventType data transactionId =>
      exact Protocol.only_bind enqueueWebhook_bare fun _ => trivial
  | publishOtp channel recipient code => exact publishOtp_bare
  | publishOtpToQueue channel recipient code =>
      exact Protocol.wp_catchWith.mpr (Protocol.wp_mono publishOtp_bare (fun _ _ _ => trivial)
        fun _ _ _ => trivial)

/-- No message of the producers is accepted: its envelope is missing. -/
theorem queue_messages_rejected (dep : Deployment) (formats : Formats) (producer : Producer)
    (queue : QueueSchemaName)
    (content : List Char) (published : (producer.prog dep).Issues (.sendToQueue queue content))
    : parseIncomingMessage formats queue content = .error (.validation queue envelopeIssues)
      ∧ ¬ Agrees formats queue content := by
  have : Nonempty queueInterface.Err := ⟨JsError.uniqueConstraint⟩
  obtain ⟨v, bare, rfl⟩ := Protocol.issues_of_only (Q := fun _ => True) (E := fun _ => True)
    (producer_bare producer) published
  have rejected := @bareMessage_rejected dep formats _ _ bare
  refine ⟨rejected, ?_⟩
  rintro ⟨payload, -, accepted⟩
  cases rejected.symm.trans accepted

-- Sample messages

def sampleDeployment : Deployment where
  webhookUrl := "https://example.com/hook"
  webhookSecret := ""
  hmacSha256Hex _ _ := ""
  numberText _ := ['1']

def sampleWebhookId : String :=
  "3f2504e0-4f89-41d3-9a0c-0305e82c3301"

def sampleFormats : Formats where
  uuid text := text = sampleWebhookId
  datetime text := text = "2026-01-01T00:00:00.000Z"

theorem queue_messages_rejected_webhook
    : parseIncomingMessage sampleFormats .WEBHOOKS
        (sampleDeployment.encode (webhookMessage sampleWebhookId))
        = .error (.validation .WEBHOOKS envelopeIssues)
      ∧ ¬ Agrees sampleFormats .WEBHOOKS (sampleDeployment.encode
        (webhookMessage sampleWebhookId)) :=
  queue_messages_rejected sampleDeployment sampleFormats
    (.enqueueWebhook "mint.completed" [] none) _ _
    (.inr ⟨.ok "2026-01-01T00:00:00.000Z", .inr ⟨.ok sampleWebhookId,
      .inr ⟨.ok (), .inr ⟨.ok (), .inl rfl⟩⟩⟩⟩)

/-- A code for an address, as its consumer receives it. -/
def otpText : List Char :=
  "\x7b\"channel\":\"email\",\"to\":\"a@b.io\",\"code\":\"123456\"\x7d".toList

/-- The consumer of one-time codes can read such a text, and rejects it. -/
theorem otp_message_rejected
    : (publishOtp sampleDeployment "email" "a@b.io" "123456").Issues
        (.sendToQueue .OTP_SEND otpText)
      ∧ Json.parse otpText = some (otpMessage "email" "a@b.io" "123456")
      ∧ parseIncomingMessage sampleFormats .OTP_SEND otpText
        = .error (.validation .OTP_SEND envelopeIssues)
      ∧ ¬ Agrees sampleFormats .OTP_SEND otpText := by
  have text : otpText = sampleDeployment.encode (otpMessage "email" "a@b.io" "123456") := by
    decide +kernel
  have bare : BareMessage .OTP_SEND (otpMessage "email" "a@b.io" "123456") := .otp _ _ _
  rw [text]
  have rejected := @bareMessage_rejected sampleDeployment sampleFormats _ _ bare
  refine ⟨.inr ⟨.ok (), .inr ⟨.ok (), .inl rfl⟩⟩, parse_bare bare, rejected, ?_⟩
  rintro ⟨payload, -, accepted⟩
  cases rejected.symm.trans accepted

end AcbuBackend.Queue

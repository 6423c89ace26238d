import AcbuBackend.Json.RoundTrip
import AcbuBackend.Messages.QueueSchemas
import AcbuBackend.Zod.Finite

/-! A validated message is parsed to the payload that its producer has validated, exactly where
every number that the schema keeps of the payload is finite. JSON writes any other number as `null`.
-/

namespace AcbuBackend.Messages

open Effects Effects.Prog AcbuBackend.Runtime Zod
open Json (Reads)

-- The schemas are well formed

section

variable {formats : Formats}

theorem wellFormed_optionalText : optionalText.WellFormed :=
  .optional .string

theorem wellFormed_nullableText : nullableText.WellFormed :=
  .nullable (.optional .string)

theorem wellFormed_contractEvent {data : List (String × Schema)} (keys : (data.map Prod.fst).Nodup)
    (proto : protoKey ∉ data.map Prod.fst) (texts : ∀ field ∈ data, field.2 = optionalText)
    : (contractEventSchema formats data).WellFormed := by
  refine .object (by simp) (by simp [protoKey]) ?_
  simp only [List.forall_mem_cons]
  refine ⟨.string, .string, .object keys proto fun field member => ?_, .number, .string,
    List.forall_mem_nil _⟩
  rw [texts field member]
  exact wellFormed_optionalText

theorem wellFormed_reserveAlert : ReserveAlertSchema.WellFormed := by
  refine .object (by simp) (by simp [protoKey]) ?_
  simp only [List.forall_mem_cons]
  exact ⟨.string, .string, .number, List.forall_mem_nil _⟩

theorem wellFormed_withdrawalStatus : WithdrawalStatusSchema.WellFormed := by
  refine .object (by simp) (by simp [protoKey]) ?_
  simp only [List.forall_mem_cons]
  exact ⟨.string, .nullable .string, .string, .string, .number, .default (.array .string),
    List.forall_mem_nil _⟩

theorem wellFormed_investmentWithdrawalReady
    : (InvestmentWithdrawalReadySchema formats).WellFormed := by
  refine .object (by simp) (by simp [protoKey]) ?_
  simp only [List.forall_mem_cons]
  exact ⟨.string, .optional (.nullable .string), .optional (.nullable .string), .default .number,
    .optional .string, List.forall_mem_nil _⟩

theorem wellFormed_notification : (NotificationSchema formats).WellFormed := by
  refine .discriminatedUnion ?_ ?_
  · simp only [List.forall_mem_cons]
    exact ⟨⟨_, _, rfl, List.mem_cons_self⟩, ⟨_, _, rfl, List.mem_cons_self⟩,
      ⟨_, _, rfl, List.mem_cons_self⟩, List.forall_mem_nil _⟩
  · simp only [List.forall_mem_cons]
    exact ⟨wellFormed_reserveAlert, wellFormed_withdrawalStatus,
      wellFormed_investmentWithdrawalReady, List.forall_mem_nil _⟩

theorem wellFormed_auditLog : (AuditLogSchema formats).WellFormed := by
  refine .object (by simp) (by simp [protoKey]) ?_
  simp only [List.forall_mem_cons]
  exact ⟨.string, wellFormed_nullableText, wellFormed_nullableText, .string,
    .nullable (.optional .unknown), .nullable (.optional .unknown), wellFormed_nullableText,
    wellFormed_nullableText, wellFormed_nullableText, wellFormed_nullableText,
      wellFormed_nullableText,
    .optional .string, List.forall_mem_nil _⟩

theorem wellFormed_rebalancingInstruction : RebalancingInstructionSchema.WellFormed := by
  refine .object (by simp) (by simp [protoKey]) ?_
  simp only [List.forall_mem_cons]
  exact ⟨.string, .string, .number, .number, .number, .number, .number, List.forall_mem_nil _⟩

theorem wellFormed_queueSchemas (queue : QueueSchemaName)
    : (QUEUE_SCHEMAS formats queue).WellFormed := by
  cases queue with
  | ACBU_ESCROW_EVENTS | ACBU_LENDING_POOL_EVENTS | ACBU_SAVINGS_VAULT_EVENTS =>
      exact wellFormed_contractEvent (by simp) (by simp [protoKey]) (by simp)
  | AUDIT_LOGS => exact wellFormed_auditLog
  | NOTIFICATIONS => exact wellFormed_notification
  | OTP_SEND =>
      refine .object (by simp) (by simp [protoKey]) ?_
      simp only [List.forall_mem_cons]
      exact ⟨.string, .string, .string, List.forall_mem_nil _⟩
  | REBALANCING =>
      refine .object (by simp) (by simp [protoKey]) ?_
      simp only [List.forall_mem_cons]
      exact ⟨.string, .default (.array wellFormed_rebalancingInstruction), .number,
        List.forall_mem_nil _⟩
  | STELLAR_EVENT_FAILURES =>
      refine .object (by simp) (by simp [protoKey]) ?_
      simp only [List.forall_mem_cons]
      exact ⟨.string, .string, List.forall_mem_nil _⟩
  | USDC_CONVERSION =>
      refine .object (by simp) (by simp [protoKey]) ?_
      simp only [List.forall_mem_cons]
      exact ⟨.string, .string, .optional .string, wellFormed_optionalText, List.forall_mem_nil _⟩
  | USDC_CONVERT_AND_MINT | WEBHOOKS =>
      refine .object (by simp) (by simp [protoKey]) ?_
      simp only [List.forall_mem_cons]
      exact ⟨.string, List.forall_mem_nil _⟩
  | WITHDRAWAL_PROCESSING =>
      refine .object (by simp) (by simp [protoKey]) ?_
      simp only [List.forall_mem_cons]
      exact ⟨wellFormed_optionalText, .string, List.forall_mem_nil _⟩
  | XLM_TO_ACBU =>
      refine .object (by simp) (by simp [protoKey]) ?_
      simp only [List.forall_mem_cons]
      exact ⟨.string, .string, .string, .string, .optional .string, List.forall_mem_nil _⟩

theorem wellFormed_envelope : (MessageEnvelopeSchema formats).WellFormed := by
  refine .object (by simp) (by simp [protoKey]) ?_
  simp only [List.forall_mem_cons]
  exact ⟨.number, .string, .string, .string, .record, List.forall_mem_nil _⟩

-- Envelopes

variable {queue : QueueSchemaName} {messageId timestamp : String} {payload validated : JsValue}

theorem envelope_carried
    : (envelopeOf queue messageId timestamp validated).carried
      = envelopeOf queue messageId timestamp validated.carried :=
  rfl

theorem formats_of_envelope {members : Members} {envelope : JsValue}
    (accepted : (MessageEnvelopeSchema formats).parse
      (envelopeOf queue messageId timestamp (.object members)) = .ok envelope)
    : formats.uuid messageId = true ∧ formats.datetime timestamp = true := by
  have shape := @wellFormed_envelope formats
  cases shape with
  | object keys proto _ =>
      obtain ⟨result, -, fields, -⟩ := object_parsed keys proto accepted
      have uuid := fields.fields ("messageId", .string [formats.uuid]) (by simp)
      have datetime := fields.fields ("timestamp", .string [formats.datetime]) (by simp)
      obtain ⟨_, uuid, -⟩ := map_eq_ok.mp uuid
      obtain ⟨_, datetime, -⟩ := map_eq_ok.mp datetime
      exact ⟨by simpa using (checked_eq_ok.mp uuid).1, by simpa using (checked_eq_ok.mp datetime).1⟩

theorem parseField_text {check : String → Bool} {text : String} (passes : check text = true)
    : (Schema.string [check]).parseField (some (.string text)) = .ok (some (.string text)) :=
  map_eq_ok.mpr ⟨_, checked_eq_ok.mpr ⟨by simp [passes], rfl⟩, rfl⟩

theorem parse_envelope {members : Members} (uuid : formats.uuid messageId = true)
    (datetime : formats.datetime timestamp = true) (proto : protoKey ∉ members.map Prod.fst)
    : (MessageEnvelopeSchema formats).parse (envelopeOf queue messageId timestamp (.object members))
      = .ok (envelopeOf queue messageId timestamp (.object members)) := by
  have nonempty : minLength 1 queue.text = true := by
    cases queue <;> rfl
  have payload : Schema.record.parseField (some (.object members)) = .ok (some (.object members)) :=
    congrArg (fun members => Except.ok (some (JsValue.object members))) (mergeObject_present proto)
  have version : (Schema.literalNumber 1).parseField (some (.number (.finite 1)))
      = .ok (some (.number (.finite 1))) := by
    change (checked [(· = .finite 1)] (JsNumber.finite 1) (JsValue.number (.finite 1))).map some = _
    exact map_eq_ok.mpr ⟨_, checked_eq_ok.mpr ⟨by simp, rfl⟩, rfl⟩
  rw [MessageEnvelopeSchema, envelopeOf, parse_object]
  refine map_eq_ok.mpr ⟨[("version", some (.number (.finite 1))),
    ("type", some (.string queue.text)), ("messageId", some (.string messageId)),
    ("timestamp", some (.string timestamp)), ("payload", some (.object members))],
      parseShape_eq_ok.mpr ?_, rfl⟩
  exact .cons ⟨rfl, version⟩ (.cons ⟨rfl, parseField_text nonempty⟩
    (.cons ⟨rfl, parseField_text uuid⟩
    (.cons ⟨rfl, parseField_text datetime⟩ (.cons ⟨rfl, payload⟩ .nil))))

theorem parse_published {numberText : ℚ → List Char} {envelope : JsValue}
    (reads : ∀ q ∈ 1 :: validated.toJson.numbers, Reads numberText q)
    (valid : (QUEUE_SCHEMAS formats queue).parse payload = .ok validated)
    (accepted : (MessageEnvelopeSchema formats).parse
      (envelopeOf queue messageId timestamp validated)
      = .ok envelope)
    : parseIncomingMessage formats queue (encode numberText
        (envelopeOf queue messageId timestamp validated))
      = validateMessage formats queue validated.carried := by
  have object : (QUEUE_SCHEMAS formats queue).isObject = true := by
    cases queue <;> rfl
  obtain ⟨members, rfl, proto⟩ := (wellFormed_queueSchemas queue).object_of_parse object valid
  obtain ⟨uuid, datetime⟩ := formats_of_envelope accepted
  have read : Json.parse (encode numberText (envelopeOf queue messageId timestamp
    (.object members)))
      = some (envelopeOf queue messageId timestamp (.object members)).toJson := by
    refine Json.parse_stringify _ fun q member => reads q ?_
    simpa [envelopeOf, JsValue.toJson, membersToJson, Json.Value.numbers,
      Json.memberNumbers] using member
  have carriedProto : protoKey ∉ (Members.carried members).map Prod.fst := by
    simpa [Members.carried] using proto
  rw [parseIncomingMessage, read]
  dsimp only
  rw [← JsValue.carried, envelope_carried, carried_object,
    parse_envelope uuid datetime carriedProto]
  rfl

theorem validateMessage_eq_ok
    : validateMessage formats queue payload = .ok validated
      ↔ (QUEUE_SCHEMAS formats queue).parse payload = .ok validated :=
  mapError_eq_ok

-- Round trips

/-- What a message holds: an accepted envelope around the validated payload. -/
def PublishesValidated (numberText : ℚ → List Char) (formats : Formats) (queue : QueueSchemaName)
    (payload : JsValue)
    : ProducerOp → Prop
  | .sendToQueue queue' content =>
      queue' = queue
      ∧ ∃ validated messageId timestamp envelope,
          validateMessage formats queue payload = .ok validated
          ∧ (MessageEnvelopeSchema formats).parse (envelopeOf queue messageId timestamp validated)
            = .ok envelope
          ∧ content = encode numberText (envelopeOf queue messageId timestamp validated)
  | _ => True

theorem publish_only {numberText : ℚ → List Char}
    : Protocol.Only (PublishesValidated numberText formats queue payload)
        (publishValidatedMessage numberText formats queue payload) := by
  unfold publishValidatedMessage
  refine Protocol.only_bind (Protocol.only_await trivial) fun _ => ?_
  refine Protocol.wp_bind.mpr (Protocol.wp_fromExcept.mpr
    ⟨fun validated valid => ?_, fun _ _ => trivial⟩)
  refine Protocol.only_bind (Protocol.only_await trivial) fun messageId => ?_
  refine Protocol.only_bind (Protocol.only_await trivial) fun timestamp => ?_
  refine Protocol.wp_bind.mpr (Protocol.wp_fromExcept.mpr
    ⟨fun envelope accepted => ?_, fun _ _ => trivial⟩)
  exact Protocol.only_await ⟨rfl, validated, messageId, timestamp, envelope,
    mapError_eq_ok.mp valid, mapError_eq_ok.mp accepted, rfl⟩

end

/-- The payload that was validated is parsed out of the published message exactly where every number
that the schema keeps of the payload is finite.
-/
theorem validated_round_trip_iff (numberText : ℚ → List Char) (formats : Formats)
    (queue queue' : QueueSchemaName) (payload : JsValue) (content : List Char)
    (reads : ∀ validated, validateMessage formats queue payload = .ok validated →
      ∀ q ∈ 1 :: validated.toJson.numbers, Reads numberText q)
    (published : (publishValidatedMessage numberText formats queue payload).Issues
      (.sendToQueue queue' content))
    : queue' = queue
      ∧ ∃ validated, validateMessage formats queue payload = .ok validated
          ∧ (parseIncomingMessage formats queue content = .ok validated
              ↔ (QUEUE_SCHEMAS formats queue).keepsFinite payload = true) := by
  have : Nonempty producerInterface.Err := ⟨JsError.uniqueConstraint⟩
  obtain ⟨same, validated, messageId, timestamp, envelope, valid, accepted, rfl⟩ :=
    Protocol.issues_of_only (Q := fun _ => True) (E := fun _ => True) publish_only published
  refine ⟨same, validated, valid, ?_⟩
  have parsed := validateMessage_eq_ok.mp valid
  rw [parse_published (reads validated valid) parsed accepted, validateMessage_eq_ok]
  exact (wellFormed_queueSchemas queue).carried_iff parsed

-- Sample messages

def anyFormats : Formats where
  uuid _ := true
  datetime _ := true

/-- Numbers as they are written where every one of them is one. -/
def onesText (_ : ℚ) : List Char :=
  ['1']

theorem reads_one : Reads onesText 1 := by
  constructor
  · exact ⟨'1', [], rfl, .inr rfl⟩
  · intro rest ends
    exact (Json.parseNumber_digit rfl ends).trans (by rfl)

def reserveAlert (ratio : JsValue) : JsValue :=
  .object [("type", .string "reserve_alert"), ("health", .string "low"),
    ("overcollateralizationRatio", ratio)]

theorem validate_reserveAlert {ratio : JsValue} {value : JsNumber} (number : ratio.toNumber = value)
    (valid : value ≠ .nan) (enough : nonnegative value = true)
    : validateMessage anyFormats .NOTIFICATIONS (reserveAlert ratio)
      = .ok (reserveAlert (.number value)) := by
  have coerced : numberOf true ratio = some value := by
    simp [numberOf, number, valid]
  have parsed : (Schema.number true [nonnegative]).parseField (some ratio)
      = .ok (some (.number value)) := by
    refine map_eq_ok.mpr ⟨.number value, ?_, rfl⟩
    simp only [Schema.parse, coerced]
    exact checked_eq_ok.mpr ⟨by simp [enough], rfl⟩
  refine validateMessage_eq_ok.mpr ?_
  change ReserveAlertSchema.parse (reserveAlert ratio) = _
  rw [ReserveAlertSchema, reserveAlert, parse_object]
  refine map_eq_ok.mpr ⟨[("type", some (.string "reserve_alert")), ("health", some (.string "low")),
    ("overcollateralizationRatio", some (.number value))], parseShape_eq_ok.mpr ?_, rfl⟩
  exact .cons ⟨rfl, parseField_text (by decide)⟩ (.cons ⟨rfl, rfl⟩ (.cons ⟨rfl, parsed⟩ .nil))

theorem publishes_reserveAlert {ratio : JsValue} {value : JsNumber}
    (valid : validateMessage anyFormats .NOTIFICATIONS (reserveAlert ratio)
      = .ok (reserveAlert (.number value)))
    : (publishValidatedMessage onesText anyFormats .NOTIFICATIONS (reserveAlert ratio)).Issues
        (.sendToQueue .NOTIFICATIONS
          (encode onesText (envelopeOf .NOTIFICATIONS "id" "now"
            (reserveAlert (.number value))))) := by
  unfold publishValidatedMessage
  rw [valid]
  exact .inr ⟨.ok (), .inr ⟨.ok "id", .inr ⟨.ok "now", .inl rfl⟩⟩⟩

/-- The alert of a ratio that is written as a text. -/
theorem validated_round_trip_text
    : ∃ queue content validated,
        validateMessage anyFormats .NOTIFICATIONS (reserveAlert (.string "1")) = .ok validated
        ∧ (publishValidatedMessage onesText anyFormats .NOTIFICATIONS
          (reserveAlert (.string "1"))).Issues
          (.sendToQueue queue content)
        ∧ parseIncomingMessage anyFormats .NOTIFICATIONS content = .ok validated := by
  have valid : validateMessage anyFormats .NOTIFICATIONS (reserveAlert (.string "1"))
      = .ok (reserveAlert (.number (.finite 1))) :=
    validate_reserveAlert (by decide +kernel) nofun (by decide +kernel)
  have published := publishes_reserveAlert valid
  have reads : ∀ validated,
      validateMessage anyFormats .NOTIFICATIONS (reserveAlert (.string "1")) = .ok validated →
      ∀ q ∈ 1 :: validated.toJson.numbers, Reads onesText q := by
    intro validated same q member
    obtain rfl := Except.ok.inj (same.symm.trans valid)
    obtain rfl : q = 1 := by simpa [reserveAlert, JsValue.toJson, membersToJson, Json.Value.numbers,
      Json.memberNumbers] using member
    exact reads_one
  obtain ⟨-, validated, same, round⟩ := validated_round_trip_iff onesText anyFormats .NOTIFICATIONS
    _ _ _
    reads published
  exact ⟨_, _, validated, same, published, round.mpr (by decide +kernel)⟩

/-- An infinite ratio is published, and parsed as zero. -/
theorem infinite_ratio_lost
    : ∃ content validated parsed,
        validateMessage anyFormats .NOTIFICATIONS (reserveAlert (.number (.infinity false)))
          = .ok validated
        ∧ (publishValidatedMessage onesText anyFormats .NOTIFICATIONS
            (reserveAlert (.number (.infinity false)))).Issues (.sendToQueue .NOTIFICATIONS content)
        ∧ parseIncomingMessage anyFormats .NOTIFICATIONS content = .ok parsed
        ∧ parsed.field? "overcollateralizationRatio" = some (.number (.finite 0))
        ∧ parsed ≠ validated := by
  have valid : validateMessage anyFormats .NOTIFICATIONS (reserveAlert (.number (.infinity false)))
      = .ok (reserveAlert (.number (.infinity false))) :=
    validate_reserveAlert rfl nofun rfl
  have nulled : validateMessage anyFormats .NOTIFICATIONS (reserveAlert .null)
      = .ok (reserveAlert (.number (.finite 0))) :=
    validate_reserveAlert rfl nofun (by decide +kernel)
  have accepted : (MessageEnvelopeSchema anyFormats).parse
      (envelopeOf .NOTIFICATIONS "id" "now" (reserveAlert (.number (.infinity false)))) = .ok _ :=
    parse_envelope rfl rfl (by decide)
  refine ⟨_, _, reserveAlert (.number (.finite 0)), valid, publishes_reserveAlert valid, ?_, rfl,
    nofun⟩
  refine (parse_published ?_ (validateMessage_eq_ok.mp valid) accepted).trans nulled
  intro q member
  obtain rfl : q = 1 := by simpa [reserveAlert, JsValue.toJson, membersToJson, Json.Value.numbers,
    Json.memberNumbers] using member
  exact reads_one

end AcbuBackend.Messages

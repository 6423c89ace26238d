import AcbuBackend.Json.RoundTrip
import AcbuBackend.OutboundWebhooks.WebhookService

/-! The signature of a webhook and the body it is delivered with.
The payload is signed as it was built, and sent as the column gives it back. The column keeps the
value but not the order of the keys.
-/

namespace AcbuBackend.OutboundWebhooks

open Effects Effects.Prog AcbuBackend.Runtime
open Json (Value Reads elementNumbers memberNumbers)
open Queue (NewWebhook queueInterface)

-- The column

mutual

/-- The same value, the members of the objects in it being in any order. -/
inductive SameValue : Value → Value → Prop
  | same (v : Value) : SameValue v v
  | array {elements elements' : List Value} (h : SameElements elements elements')
      : SameValue (.array elements) (.array elements')
  | object {members members' : List (String × Value)} (h : SameMembers members members')
      : SameValue (.object members) (.object members')

inductive SameElements : List Value → List Value → Prop
  | nil : SameElements [] []
  | cons {v v' : Value} {elements elements' : List Value} (first : SameValue v v')
      (rest : SameElements elements elements')
      : SameElements (v :: elements) (v' :: elements')

inductive SameMembers : List (String × Value) → List (String × Value) → Prop
  | nil : SameMembers [] []
  | cons {key : String} {v v' : Value} {members members' : List (String × Value)}
      (first : SameValue v v') (rest : SameMembers members members')
      : SameMembers ((key, v) :: members) ((key, v') :: members')
  | swap (first second : String × Value) (members : List (String × Value))
      : SameMembers (first :: second :: members) (second :: first :: members)
  | trans {members members' members'' : List (String × Value)} (h : SameMembers members members')
      (h' : SameMembers members' members'')
      : SameMembers members members''

end

mutual

/-- No number is made up, by induction on how the values are the same. -/
theorem SameValue.numbers_subset {v v' : Value}
    : SameValue v v' → ∀ q ∈ v'.numbers, q ∈ v.numbers
  | .same v => fun _ member => member
  | .array h => by
      rw [Value.numbers, Value.numbers]
      exact SameElements.numbers_subset h
  | .object h => by
      rw [Value.numbers, Value.numbers]
      exact SameMembers.numbers_subset h

theorem SameElements.numbers_subset {elements elements' : List Value}
    : SameElements elements elements' → ∀ q ∈ elementNumbers elements', q ∈ elementNumbers elements
  | .nil => fun _ member => member
  | .cons first rest => by
      intro q member
      rw [elementNumbers, List.mem_append] at member ⊢
      exact member.imp (SameValue.numbers_subset first q) (SameElements.numbers_subset rest q)

theorem SameMembers.numbers_subset {members members' : List (String × Value)}
    : SameMembers members members' → ∀ q ∈ memberNumbers members', q ∈ memberNumbers members
  | .nil => fun _ member => member
  | .cons first rest => by
      intro q member
      rw [memberNumbers, List.mem_append] at member ⊢
      exact member.imp (SameValue.numbers_subset first q) (SameMembers.numbers_subset rest q)
  | .swap first second members => by
      intro q member
      simp only [memberNumbers, List.mem_append] at member ⊢
      exact or_left_comm.mp member
  | .trans h h' => fun q member =>
      SameMembers.numbers_subset h q (SameMembers.numbers_subset h' q member)

end

/-- A row that was created, as it is read back. -/
structure StoredAs (new : NewWebhook) (row : WebhookRow) : Prop where
  payload : SameValue new.payload row.payload
  signature : row.signature = new.signature

-- The programs

variable {dep : Deployment} {webhookId : String} {row : WebhookRow} {new : NewWebhook}
  {request : WebhookRequest}

/-- The calls that send no request but one. -/
def SendsOnly (request : WebhookRequest) : WebhookOp → Prop
  | .post sent => sent = request
  | _ => True

theorem eq_deliveryRequest (sent : (deliverRow dep webhookId row).Issues (.post request))
    : request = deliveryRequest dep webhookId row := by
  have : Nonempty webhookInterface.Err := ⟨JsError.uniqueConstraint⟩
  have only : Protocol.Only (SendsOnly (deliveryRequest dep webhookId row))
    (deliverRow dep webhookId row) :=
    deliverRow_only rfl (fun _ => trivial) fun _ => trivial
  exact Protocol.issues_of_only only sent

theorem created_signature {eventType : String} {data : List (String × Value)}
    {transactionId : Option String}
    (created : (Queue.enqueueWebhook dep.toDeployment eventType data transactionId).Issues
      (.createWebhook new))
    : new.signature = Queue.signPayload dep.toDeployment new.payload := by
  have : Nonempty queueInterface.Err := ⟨JsError.uniqueConstraint⟩
  have only : Protocol.Only (I := queueInterface) (fun op => ∀ new, op = .createWebhook new →
      new.signature = Queue.signPayload dep.toDeployment new.payload)
      (Queue.enqueueWebhook dep.toDeployment eventType data transactionId) := by
    unfold Queue.enqueueWebhook
    split
    · trivial
    · refine Protocol.only_bind (Protocol.only_await fun _ same => by cases same)
        fun timestamp => ?_
      refine Protocol.only_bind (Protocol.only_await ?_) fun webhookId => ?_
      · rintro _ same
        cases same
        rfl
      · refine Protocol.only_bind (Protocol.only_await fun _ same => by cases same) fun _ => ?_
        refine Protocol.only_bind (Protocol.only_await fun _ same => by cases same) fun _ => ?_
        exact Protocol.only_bind (Protocol.only_await fun _ same => by cases same) fun _ => trivial
  exact Protocol.issues_of_only only created new rfl

-- Signatures

/-- The header is the HMAC of the body that is sent. -/
def SignsBody (dep : Deployment) (request : WebhookRequest) : Prop :=
  request.signature
    = some (dep.hmacSha256Hex dep.webhookSecret (String.ofList (dep.encode request.body)))

theorem encode_injective {v v' : Value} (reads : ∀ q ∈ v.numbers, Reads dep.numberText q)
    (reads' : ∀ q ∈ v'.numbers, Reads dep.numberText q) (same : dep.encode v = dep.encode v')
    : v = v' := by
  have read := Json.parse_stringify v reads
  have read' := Json.parse_stringify v' reads'
  unfold Queue.Deployment.encode at same
  rw [same, read'] at read
  exact (Option.some.inj read).symm

/-- A request for a row that a webhook was stored as is signed for its body exactly when the column
gives the payload back with its keys in their order.
-/
theorem signsBody_iff {eventType : String} {data : List (String × Value)}
    {transactionId : Option String}
    (created : (Queue.enqueueWebhook dep.toDeployment eventType data transactionId).Issues
      (.createWebhook new))
    (stored : StoredAs new row) (sent : (deliverRow dep webhookId row).Issues (.post request))
    (configured : dep.webhookSecret ≠ "") (reads : ∀ q ∈ new.payload.numbers,
      Reads dep.numberText q)
    (nonempty : ∀ text, dep.hmacSha256Hex dep.webhookSecret text ≠ "")
    (distinct : dep.encode row.payload ≠ dep.encode new.payload →
      dep.hmacSha256Hex dep.webhookSecret (String.ofList (dep.encode row.payload))
        ≠ dep.hmacSha256Hex dep.webhookSecret (String.ofList (dep.encode new.payload)))
    : SignsBody dep request ↔ row.payload = new.payload := by
  obtain rfl := eq_deliveryRequest sent
  have signed : (deliveryRequest dep webhookId row).signature
      = some (dep.hmacSha256Hex dep.webhookSecret (String.ofList (dep.encode new.payload))) := by
    rw [deliveryRequest, signatureOf, stored.signature, created_signature created,
      Queue.signPayload, if_neg configured]
    simp [nonempty]
  rw [SignsBody, signed, Option.some.injEq]
  constructor
  · intro same
    by_contra reordered
    refine distinct (fun written => reordered ?_) same.symm
    exact encode_injective (fun q member => reads q (stored.payload.numbers_subset q member)) reads
      written
  · intro kept
    rw [← kept]
    rfl

-- A reordered payload

/-- A keyed digest that keeps its text apart from others. -/
def signingDeployment : Deployment where
  webhookUrl := "https://example.com/hook"
  webhookSecret := "secret"
  hmacSha256Hex secret payload := secret ++ payload
  numberText _ := ['1']
  formats := { uuid := fun _ => true, datetime := fun _ => true }
  hostname _ := some "example.com"
  toLowerCase := id

def minted : NewWebhook where
  eventType := "mint.completed"
  payload := Queue.buildPayload "mint.completed" "2026-01-01T00:00:00.000Z" []
  signature := Queue.signPayload signingDeployment.toDeployment
    (Queue.buildPayload "mint.completed" "2026-01-01T00:00:00.000Z" [])
  status := "pending"
  transactionId := none

theorem minted_created
    : (Queue.enqueueWebhook signingDeployment.toDeployment "mint.completed" [] none).Issues
        (.createWebhook minted) :=
  .inr ⟨.ok "2026-01-01T00:00:00.000Z", .inl rfl⟩

def mintedRow (payload : Value) : WebhookRow where
  payload := payload
  signature := minted.signature
  status := "pending"

theorem minted_sent {payload : Value}
    : (deliverRow signingDeployment "webhook" (mintedRow payload)).Issues
        (.post (deliveryRequest signingDeployment "webhook" (mintedRow payload))) :=
  .inl rfl

theorem signsBody_iff_minted
    : SignsBody signingDeployment (deliveryRequest signingDeployment "webhook"
        (mintedRow minted.payload)) := by
  have nonempty : ∀ text,
      signingDeployment.hmacSha256Hex signingDeployment.webhookSecret text ≠ "" := by
    intro text empty
    have length := congrArg String.length empty
    simp [signingDeployment] at length
  refine (@signsBody_iff signingDeployment _ (mintedRow minted.payload) minted _ _ _ _
    minted_created ⟨.same _, rfl⟩ minted_sent (by decide) ?_ nonempty ?_).mpr rfl
  · intro q member
    cases member
  · intro apart
    exact absurd rfl apart

/-- The payload of the webhook with its shorter keys first. -/
def reordered : Value :=
  .object [("data", .object []), ("event", .string "mint.completed"),
    ("timestamp", .string "2026-01-01T00:00:00.000Z")]

/-- A webhook whose payload comes back with its keys in another order is delivered with a signature
of other bytes.
-/
theorem reordered_not_signed
    : (Queue.enqueueWebhook signingDeployment.toDeployment "mint.completed" [] none).Issues
        (.createWebhook minted)
      ∧ StoredAs minted (mintedRow reordered)
      ∧ (deliverRow signingDeployment "webhook" (mintedRow reordered)).Issues
          (.post (deliveryRequest signingDeployment "webhook" (mintedRow reordered)))
      ∧ ¬ SignsBody signingDeployment (deliveryRequest signingDeployment "webhook"
        (mintedRow reordered)) := by
  refine ⟨minted_created, ⟨?_, rfl⟩, minted_sent, ?_⟩
  · have first : SameMembers
        [("event", .string "mint.completed"), ("timestamp", .string "2026-01-01T00:00:00.000Z"),
          ("data", .object [])]
        [("event", .string "mint.completed"), ("data", .object []),
          ("timestamp", .string "2026-01-01T00:00:00.000Z")] :=
      .cons (.same _) (.swap _ _ _)
    exact .object (.trans first (.swap _ _ _))
  · unfold SignsBody
    decide +kernel

end AcbuBackend.OutboundWebhooks

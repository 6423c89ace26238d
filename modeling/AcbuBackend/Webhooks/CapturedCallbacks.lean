import AcbuBackend.Effects.Evaluation
import AcbuBackend.Mint.MintController
import Mathlib.Algebra.Order.Archimedean.Basic

/-! What an observer can do with the signed callbacks a partner has sent.
A signature is over the body alone, and the timestamp is a header of its own: a captured body
is accepted at any later time with a timestamp of that time.
-/

namespace AcbuBackend.Webhooks

open AcbuBackend.Runtime Effects
open Mint (bufferFromHex ConfirmRequest)

-- The signature check of the bills webhook

/-- What the check reads of a request. -/
structure BillsRequest where
  contentType : Option String
  timestampHeader : Option String
  signatureHeader : Option String
  rawBody : Option String

/-- The configuration of the check, and the standard functions it calls. -/
structure WebhookConfig where
  /-- `WEBHOOK_SIGNATURE_BYPASS` under an explicit test profile. -/
  bypassEnabled : Bool
  looksLikeProduction : Bool
  webhookSecret : Option String
  WEBHOOK_TIMESTAMP_TOLERANCE_S : ℚ := 300
  tolerance_pos : 1 ≤ WEBHOOK_TIMESTAMP_TOLERANCE_S
  /-- The bytes of the HMAC-SHA256 of a raw body under a secret. -/
  hmacSha256 : String → String → List Nat
  /-- `Date.parse`, in milliseconds. -/
  dateParse : String → JsNumber

/-- How a middleware leaves a request: it is passed on, or answered with a status. -/
inductive Verdict
  | next
  | status (statusCode : Nat)
deriving DecidableEq

/-- The moment a timestamp names, in seconds: a number, else a date. -/
def eventSeconds (config : WebhookConfig) (raw : String) : Option ℚ :=
  match jsNumber raw with
  | .finite ts => some ts
  | _ =>
      match config.dateParse raw with
      | .finite ms => some (ms / 1000)
      | _ => none

def isTimestampValid (config : WebhookConfig) (raw : Option String) (nowS : ℚ) : Bool :=
  match raw.filter (· ≠ "") with
  | none => false
  | some raw =>
      match eventSeconds config raw with
      | none => false
      | some eventS => |nowS - eventS| ≤ config.WEBHOOK_TIMESTAMP_TOLERANCE_S

def isContentTypeJson (contentType : Option String) : Bool :=
  match contentType with
  | none => false
  | some contentType => "application/json".toList.isPrefixOf contentType.toList

/-- `verifyBillsWebhookSignature` at the time `nowS`. -/
def verifyBillsWebhookSignature (config : WebhookConfig) (req : BillsRequest) (nowS : ℚ)
    : Except JsError Verdict :=
  if config.bypassEnabled then
    if config.looksLikeProduction then
      .error (appError "Webhook signature verification unavailable" 503 .CONFIG_ERROR)
    else .ok .next
  else if !isContentTypeJson req.contentType then .ok (.status 415)
  else
    match config.webhookSecret.filter (· ≠ "") with
    | none =>
        .error (appError "Webhook verification unavailable: secret not configured" 503
          .CONFIG_ERROR)
    | some secret =>
        match req.rawBody with
        | none => .error (appError "Raw body required for verification" 400 .RAW_BODY_REQUIRED)
        | some rawBody =>
            if !isTimestampValid config req.timestampHeader nowS then .ok (.status 401)
            else
              match req.signatureHeader.filter (· ≠ "") with
              | none => .error (appError "Missing x-bills-signature header" 401 .MISSING_SIGNATURE)
              | some received =>
                  if bufferFromHex received.toList = config.hmacSha256 secret rawBody then .ok .next
                  else .error (appError "Invalid signature" 401 .INVALID_SIGNATURE)

-- Captured requests

/-- A request of a partner as an observer sees it, with the server time it was sent at. -/
structure Sent where
  rawBody : String
  signatureHeader : String
  timestampHeader : String
  sentAt : ℚ

/-- The header carries the code of the body under the configured secret. -/
def Signs (code : Option (String → List Nat)) (signatureHeader : Option String) (rawBody : String)
    : Prop :=
  ∃ mac received, code = some mac ∧ signatureHeader = some received ∧ received ≠ ""
    ∧ bufferFromHex received.toList = mac rawBody

theorem signs_iff {code : Option (String → List Nat)} {signatureHeader : Option String}
    {rawBody : String}
    : Signs code signatureHeader rawBody
      ↔ ∃ mac received, code = some mac ∧ signatureHeader.filter (· ≠ "") = some received
        ∧ bufferFromHex received.toList = mac rawBody := by
  simp only [Signs, Option.filter_eq_some_iff, decide_eq_true_eq, and_assoc]

/-- Without the secret, an observer has the code of a body only from a signature that was sent. -/
def Buildable (code : Option (String → List Nat)) (sent : List Sent)
    (signatureHeader rawBody : Option String)
    : Prop :=
  ∀ body, rawBody = some body → Signs code signatureHeader body →
    ∃ s ∈ sent, Signs code (some s.signatureHeader) body

/-- What is accepted at a time was sent by the partner, no longer ago than the tolerance. -/
def Fresh (sent : List Sent) (tolerance : ℚ) (rawBody : Option String) (nowS : ℚ) : Prop :=
  ∃ s ∈ sent, rawBody = some s.rawBody ∧ nowS - s.sentAt ≤ tolerance

/-- Some request carried the code of some body. -/
def AnySigned (code : Option (String → List Nat)) (sent : List Sent) : Prop :=
  ∃ s ∈ sent, ∃ body, Signs code (some s.signatureHeader) body

theorem exists_later (sent : List Sent) (tolerance : ℚ)
    : ∃ k : Nat, ∀ s ∈ sent, tolerance < 10 ^ k - s.sentAt := by
  induction sent with
  | nil => exact ⟨0, fun s member => absurd member List.not_mem_nil⟩
  | cons first rest ih =>
      obtain ⟨k, later⟩ := ih
      obtain ⟨m, after⟩ := pow_unbounded_of_one_lt (tolerance + first.sentAt)
        (by norm_num : (1 : ℚ) < 10)
      refine ⟨max k m, fun s member => ?_⟩
      have grows : ∀ n ≤ max k m, (10 : ℚ) ^ n ≤ 10 ^ max k m :=
        fun n bound => pow_le_pow_right₀ (by norm_num) bound
      rcases List.mem_cons.mp member with rfl | member
      · linarith [grows m (le_max_right k m)]
      · linarith [later s member, grows k (le_max_left k m)]

/-- A check by signature and timestamp: it takes the code of the body, and with it every timestamp
of the moment.
-/
structure ChecksSeparately (code : Option (String → List Nat))
    (accepts : (timestampHeader signatureHeader rawBody : Option String) → ℚ → Prop)
    : Prop where
  signed : ∀ timestampHeader signatureHeader rawBody nowS,
    accepts timestampHeader signatureHeader rawBody nowS →
    ∃ body, rawBody = some body ∧ Signs code signatureHeader body
  current : ∀ k signatureHeader body, Signs code signatureHeader body →
    accepts (some (powerText k)) signatureHeader (some body) (10 ^ k)

theorem ChecksSeparately.fresh_iff {code : Option (String → List Nat)}
    {accepts : (timestampHeader signatureHeader rawBody : Option String) → ℚ → Prop}
    (checks : ChecksSeparately code accepts) (sent : List Sent) (tolerance : ℚ)
    : (∀ timestampHeader signatureHeader rawBody nowS, Buildable code sent signatureHeader rawBody →
        accepts timestampHeader signatureHeader rawBody nowS → Fresh sent tolerance rawBody nowS)
      ↔ ¬ AnySigned code sent := by
  constructor
  · rintro fresh ⟨s, member, body, signed⟩
    obtain ⟨k, later⟩ := exists_later sent tolerance
    have buildable : Buildable code sent (some s.signatureHeader) (some body) := by
      rintro _ ⟨⟩ -
      exact ⟨s, member, signed⟩
    obtain ⟨s', member', -, recent⟩ := fresh _ _ _ _ buildable (checks.current k _ body signed)
    exact absurd recent (not_le.mpr (later s' member'))
  · intro unsigned timestampHeader signatureHeader rawBody nowS buildable accepted
    obtain ⟨body, named, signed⟩ := checks.signed _ _ _ _ accepted
    obtain ⟨s, member, known⟩ := buildable body named signed
    exact absurd ⟨s, member, body, known⟩ unsigned

-- The mint confirmation

def clock (nowS : ℚ) : (op : Mint.MintOp) → Mint.mintInterface.Reply op
  | .now => .ok nowS
  | _ => .error (.error "")

/-- The confirmation passes the check at a time. -/
def confirmationAccepted (dep : Mint.Deployment) (req : ConfirmRequest) (nowS : ℚ) : Prop :=
  (Mint.verifyMintConfirmationSignature dep req).answered (clock nowS) = .ok true

def confirmationCode (dep : Mint.Deployment) : Option (String → List Nat) :=
  (dep.confirmationSecret.filter (· ≠ "")).map dep.hmacSha256

/-- Every confirmation that an observer can build and that is accepted was sent at most five minutes
ago.
-/
def ConfirmationsProtected (dep : Mint.Deployment) (sent : List Sent) : Prop :=
  ∀ (req : ConfirmRequest) nowS,
    Buildable (confirmationCode dep) sent req.signatureHeader req.rawBody →
    confirmationAccepted dep req nowS → Fresh sent 300 req.rawBody nowS

theorem confirmationTimestamp_ok_iff {dep : Mint.Deployment} {req : ConfirmRequest}
    {secret : String}
    {tsNum : ℚ}
    : Mint.confirmationTimestamp dep req = .ok (secret, tsNum)
      ↔ dep.confirmationSecret.filter (· ≠ "") = some secret
        ∧ ∃ rawTs, req.timestampHeader.filter (· ≠ "") = some rawTs
        ∧ jsNumber rawTs = .finite tsNum := by
  unfold Mint.confirmationTimestamp
  cases dep.confirmationSecret.filter (· ≠ "") with
  | none => simp
  | some configured =>
      cases req.timestampHeader.filter (· ≠ "") with
      | none => simp
      | some rawTs => cases number : jsNumber rawTs <;> simp [number]

theorem confirmationSignature_ok_iff {dep : Mint.Deployment} {req : ConfirmRequest}
    {secret : String}
    {tsNum nowS : ℚ}
    : Mint.confirmationSignature dep req secret tsNum nowS = .ok true
      ↔ |nowS - tsNum| ≤ 300 ∧ ∃ received body, req.signatureHeader.filter (· ≠ "") = some received
        ∧ req.rawBody = some body ∧ bufferFromHex received.toList = dep.hmacSha256 secret body := by
  unfold Mint.confirmationSignature
  by_cases late : 300 < |nowS - tsNum|
  · simp [late, not_le.mpr late]
  · cases req.signatureHeader.filter (· ≠ "") with
    | none => simp [late]
    | some received =>
        cases req.rawBody with
        | none => simp [late]
        | some body =>
            by_cases same : bufferFromHex received.toList = dep.hmacSha256 secret body
            · simp [late, same, not_lt.mp late]
            · simp [late, same]

theorem confirmationAccepted_iff {dep : Mint.Deployment} {req : ConfirmRequest} {nowS : ℚ}
    : confirmationAccepted dep req nowS
      ↔ (∃ rawTs tsNum, req.timestampHeader.filter (· ≠ "") = some rawTs
        ∧ jsNumber rawTs = .finite tsNum
          ∧ |nowS - tsNum| ≤ 300)
        ∧ ∃ body, req.rawBody = some body
        ∧ Signs (confirmationCode dep) req.signatureHeader body := by
  have answer : (Mint.verifyMintConfirmationSignature dep req).answered (clock nowS)
      = (Mint.confirmationTimestamp dep req).bind
          (fun p => Mint.confirmationSignature dep req p.1 p.2 nowS) := by
    unfold Mint.verifyMintConfirmationSignature
    rw [Prog.answered_bind, Prog.answered_fromExcept]
    refine congrArg _ (funext fun p => ?_)
    rw [Prog.answered_bind, Prog.answered_await]
    exact Prog.answered_fromExcept
  unfold confirmationAccepted
  rw [answer]
  constructor
  · intro accepted
    cases timestamp : Mint.confirmationTimestamp dep req with
    | error error =>
        rw [timestamp] at accepted
        cases accepted
    | ok p =>
        rw [timestamp] at accepted
        obtain ⟨configured, rawTs, header, number⟩ := confirmationTimestamp_ok_iff.mp timestamp
        obtain ⟨near, received, body, signature, raw, same⟩ :=
          confirmationSignature_ok_iff.mp accepted
        refine ⟨⟨rawTs, p.2, header, number, near⟩, body, raw,
          signs_iff.mpr ⟨dep.hmacSha256 p.1, received, ?_, signature, same⟩⟩
        rw [confirmationCode, configured, Option.map_some]
  · rintro ⟨⟨rawTs, tsNum, header, number, near⟩, body, raw, signed⟩
    obtain ⟨mac, received, code, signature, same⟩ := signs_iff.mp signed
    obtain ⟨secret, configured, rfl⟩ := Option.map_eq_some_iff.mp code
    rw [confirmationTimestamp_ok_iff.mpr ⟨configured, rawTs, header, number⟩]
    exact confirmationSignature_ok_iff.mpr ⟨near, received, body, signature, raw, same⟩

theorem powerText_ne (k : Nat) : powerText k ≠ "" := by
  intro same
  have := congrArg String.toList same
  simp [powerText] at this

def emptyBody : Mint.ConfirmBody where
  transaction_id := .absent
  partner_reference := .absent
  amount := .absent
  currency := .absent
  confirmed_at := .absent

theorem confirmation_checksSeparately (dep : Mint.Deployment) (body : Mint.ConfirmBody)
    : ChecksSeparately (confirmationCode dep)
        (fun timestampHeader signatureHeader rawBody nowS =>
          confirmationAccepted dep { timestampHeader, signatureHeader, rawBody, body } nowS) where
  signed _ _ _ _ accepted := (confirmationAccepted_iff.mp accepted).2
  current k _ rawBody signed := by
    refine confirmationAccepted_iff.mpr ⟨⟨powerText k, 10 ^ k, ?_, jsNumber_powerText k, ?_⟩,
      rawBody, rfl, signed⟩
    · simp [Option.filter, powerText_ne]
    · norm_num

-- The bills webhook

/-- The code of a bills webhook, where a secret is configured. -/
def billsCode (config : WebhookConfig) : Option (String → List Nat) :=
  (config.webhookSecret.filter (· ≠ "")).map config.hmacSha256

/-- Every bills webhook that an observer can build and that is accepted was sent within the
tolerance.
-/
def BillsProtected (config : WebhookConfig) (sent : List Sent) : Prop :=
  ∀ (req : BillsRequest) nowS, Buildable (billsCode config) sent req.signatureHeader req.rawBody →
    verifyBillsWebhookSignature config req nowS = .ok .next →
    Fresh sent config.WEBHOOK_TIMESTAMP_TOLERANCE_S req.rawBody nowS

/-- Without the bypass of the tests, a bills webhook is accepted for its content type, its timestamp
and the code of its body.
-/
theorem billsAccepted_iff {config : WebhookConfig} {req : BillsRequest} {nowS : ℚ}
    (checked : config.bypassEnabled = false)
    : verifyBillsWebhookSignature config req nowS = .ok .next
      ↔ isContentTypeJson req.contentType = true
        ∧ isTimestampValid config req.timestampHeader nowS = true
        ∧ ∃ body, req.rawBody = some body ∧ Signs (billsCode config) req.signatureHeader body := by
  unfold verifyBillsWebhookSignature billsCode
  simp only [checked, signs_iff]
  rw [if_neg Bool.false_ne_true]
  cases isContentTypeJson req.contentType with
  | false => simp
  | true =>
      cases config.webhookSecret.filter (· ≠ "") with
      | none => simp
      | some secret =>
          cases req.rawBody with
          | none => simp
          | some body =>
              cases isTimestampValid config req.timestampHeader nowS with
              | false => simp
              | true =>
                  cases req.signatureHeader.filter (· ≠ "") with
                  | none => simp
                  | some received =>
                      by_cases same : bufferFromHex received.toList = config.hmacSha256 secret body
                      · simp [same]
                      · simp [same]

theorem isTimestampValid_powerText (config : WebhookConfig) (k : Nat)
    : isTimestampValid config (some (powerText k)) (10 ^ k) = true := by
  have tolerated : 0 ≤ config.WEBHOOK_TIMESTAMP_TOLERANCE_S :=
    zero_le_one.trans config.tolerance_pos
  simp [isTimestampValid, Option.filter, powerText_ne, eventSeconds, jsNumber_powerText, tolerated]

theorem bills_checksSeparately {config : WebhookConfig} (checked : config.bypassEnabled = false)
    : ChecksSeparately (billsCode config)
        (fun timestampHeader signatureHeader rawBody nowS =>
          ∃ contentType, verifyBillsWebhookSignature config
            { contentType, timestampHeader, signatureHeader, rawBody } nowS = .ok .next) where
  signed := by
    rintro _ _ _ _ ⟨contentType, accepted⟩
    exact ((billsAccepted_iff checked).mp accepted).2.2
  current k _ rawBody signed := by
    have json : isContentTypeJson (some "application/json") = true := by decide +kernel
    exact ⟨some "application/json", (billsAccepted_iff checked).mpr
      ⟨json, isTimestampValid_powerText config k, rawBody, rfl, signed⟩⟩

-- Both endpoints

/-- Callbacks are only accepted within the tolerance of their sending when the partner has never
sent one with a signature that verifies for some body. Under the bypass of the tests, everything is
accepted.
-/
theorem callbacks_protected_iff (dep : Mint.Deployment) (config : WebhookConfig)
    (confirmations bills : List Sent)
    : (ConfirmationsProtected dep confirmations ↔ ¬ AnySigned (confirmationCode dep) confirmations)
      ∧ (BillsProtected config bills
        ↔ if config.bypassEnabled then config.looksLikeProduction = true
          else ¬ AnySigned (billsCode config) bills) := by
  constructor
  · rw [← (confirmation_checksSeparately dep emptyBody).fresh_iff confirmations 300]
    constructor
    · exact fun fresh _ _ _ nowS buildable accepted => fresh _ nowS buildable accepted
    · intro fresh req nowS buildable accepted
      have same : confirmationAccepted dep { req with body := emptyBody } nowS :=
        confirmationAccepted_iff.mpr (confirmationAccepted_iff.mp accepted)
      exact fresh _ _ _ nowS buildable same
  · cases bypass : config.bypassEnabled with
    | true =>
        rw [if_pos rfl]
        have verdict : ∀ req nowS, verifyBillsWebhookSignature config req nowS
            = if config.looksLikeProduction then
                .error (appError "Webhook signature verification unavailable" 503 .CONFIG_ERROR)
              else .ok .next := by
          intro req nowS
          rw [verifyBillsWebhookSignature, bypass, if_pos rfl]
        constructor
        · intro fresh
          by_contra staging
          obtain ⟨s, -, none, -⟩ := fresh
            { contentType := none, timestampHeader := none, signatureHeader := none
              rawBody := none } 0
            (fun _ named => nomatch named) (by rw [verdict, if_neg staging])
          cases none
        · intro production req nowS _ accepted
          rw [verdict, if_pos production] at accepted
          cases accepted
    | false =>
        rw [if_neg Bool.false_ne_true,
          ← (bills_checksSeparately bypass).fresh_iff bills config.WEBHOOK_TIMESTAMP_TOLERANCE_S]
        constructor
        · rintro fresh _ _ _ nowS buildable ⟨contentType, accepted⟩
          exact fresh _ nowS buildable accepted
        · exact fun fresh req nowS buildable accepted =>
            fresh _ _ _ nowS buildable ⟨req.contentType, accepted⟩

-- A captured callback

/-- The HMAC-SHA256 of the body `{}` under the secret `secret`. -/
def sampleCode : List Nat :=
  [119, 50, 89, 2, 202, 202, 129, 45, 194, 89, 115, 58, 172, 208, 70, 183,
    56, 23, 55, 44, 119, 123, 141, 149, 180, 2, 100, 116, 116, 81, 110, 19]

def signedDeployment : Mint.Deployment where
  confirmationSecret := some "secret"
  sha256Hex := id
  hmacSha256 := fun _ _ => sampleCode
  isValidStellarAddress := fun _ => true

def signedConfig : WebhookConfig where
  bypassEnabled := false
  looksLikeProduction := true
  webhookSecret := some "secret"
  tolerance_pos := by norm_num
  hmacSha256 := fun _ _ => sampleCode
  dateParse := fun _ => .nan

/-- A callback that was sent in the first seconds of the epoch. -/
def captured : Sent where
  rawBody := "{}"
  signatureHeader := "77325902caca812dc259733aacd046b73817372c777b8d95b402647474516e13"
  timestampHeader := "10"
  sentAt := 10

def replayedConfirmation : ConfirmRequest where
  timestampHeader := some "100000"
  signatureHeader := some captured.signatureHeader
  rawBody := some captured.rawBody
  body := emptyBody

def replayedBill : BillsRequest where
  contentType := some "application/json"
  timestampHeader := some "100000"
  signatureHeader := some captured.signatureHeader
  rawBody := some captured.rawBody

/-- A day later, the captured body and signature are accepted with a new timestamp. -/
theorem captured_accepted
    : confirmationAccepted signedDeployment replayedConfirmation 100000
      ∧ verifyBillsWebhookSignature signedConfig replayedBill 100000 = .ok .next
      ∧ ¬ ConfirmationsProtected signedDeployment [captured]
      ∧ ¬ BillsProtected signedConfig [captured] := by
  have confirmed : confirmationAccepted signedDeployment replayedConfirmation 100000 := by
    unfold confirmationAccepted
    decide +kernel
  have accepted : verifyBillsWebhookSignature signedConfig replayedBill 100000 = .ok .next := by
    decide +kernel
  have late : ∀ {tolerance : ℚ},
      tolerance = 300 → ¬ Fresh [captured] tolerance (some captured.rawBody) 100000 := by
    rintro _ rfl ⟨s, member, -, recent⟩
    obtain rfl := List.mem_singleton.mp member
    norm_num [captured] at recent
  have buildable : ∀ code, Buildable code [captured] (some captured.signatureHeader)
    (some captured.rawBody) :=
    fun code body _ signed => ⟨captured, List.mem_singleton_self captured, signed⟩
  exact ⟨confirmed, accepted,
    fun fresh => late rfl (fresh replayedConfirmation 100000 (buildable _) confirmed),
    fun fresh => late rfl (fresh replayedBill 100000 (buildable _) accepted)⟩

end AcbuBackend.Webhooks

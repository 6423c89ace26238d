import AcbuBackend.Audit.AuditService
import AcbuBackend.Messages.ValidatedRoundTrip

/-! What becomes of the entries of the audit log.
An entry is published without the envelope that its consumer asks for, so no row is ever written;
and an entry that is not published is saved, but its caller is not told.
-/

namespace AcbuBackend.Audit

open Effects Effects.Prog AcbuBackend.Runtime Zod
open Messages (Formats encode parseIncomingMessage MessageEnvelopeSchema wellFormed_envelope)
open Json (Reads)

-- What is claimed

def isPublication : Event auditInterface → Bool
  | ⟨.sendToQueue _, .ok true⟩ => true
  | _ => false

def isPublished (c : AuditConfig) : Bool :=
  (c.past 0).any isPublication

def isFailedCreation : Event auditInterface → Bool
  | ⟨.createAuditTrail _, .error _⟩ => true
  | _ => false

/-- All attempts of a delivery to create the row have failed. -/
def CreationKeptFailing (c : AuditConfig) : Prop :=
  ∃ i, (c.past i).countP isFailedCreation = MAX_RETRIES + 1

/-- A published entry is one row, or among the dead letters as its creation kept failing; another is
saved and its caller is told.
-/
structure Accounted (c : AuditConfig) : Prop where
  published : isPublished c = true →
    c.world.rows.length = 1 ∨ c.world.deadLetters ≠ [] ∧ CreationKeptFailing c
  saved : isPublished c = false →
    (c.world.outbox ≠ [] ∨ c.world.file ≠ []) ∧ ∃ error, c.error? 0 = some error

/-- The entry was handled, and all its messages are consumed. -/
def Complete (c : AuditConfig) : Prop :=
  c.live 0 = false ∧ c.world.queue = []
  ∧ ∀ i < c.threads.length, c.live i = true → c.past i = []

-- Messages

section

variable {dep : Deployment} {entry : AuditEntry} {timestamp : String}

/-- The consumer finds a message invalid. -/
def isInvalid (dep : Deployment) (content : List Char) : Bool :=
  match parseIncomingMessage dep.formats .AUDIT_LOGS content with
  | .error (.validation _ _) => true
  | _ => false

/-- The bytes that are published. -/
def message (dep : Deployment) (timestamp : String) (entry : AuditEntry) : List Char :=
  encode dep.numberText (.object (auditPayload entry timestamp))

theorem version_absent : Members.field? (auditPayload entry timestamp) "version" = none := by
  refine Members.field?_eq_none fun found => ?_
  simpa using keys_mergeObject found

theorem not_envelope {formats : Formats} {members : Members}
    (absent : Members.field? members "version" = none)
    : ∃ issues, (MessageEnvelopeSchema formats).parse (.object members) = .error issues := by
  cases parsed : (MessageEnvelopeSchema formats).parse (.object members) with
  | error issues => exact ⟨issues, rfl⟩
  | ok envelope =>
      cases @wellFormed_envelope formats with
      | object keys proto _ =>
          obtain ⟨result, -, fields, -⟩ := object_parsed keys proto parsed
          have version := fields.fields ("version", .literalNumber 1) List.mem_cons_self
          rw [absent] at version
          cases version

theorem message_invalid
    (reads : ∀ q ∈ (JsValue.object (auditPayload entry timestamp)).toJson.numbers,
      Reads dep.numberText q)
    : isInvalid dep (message dep timestamp entry) = true := by
  have carried : (JsValue.object (auditPayload entry timestamp)).carried
      = .object (Members.carried (auditPayload entry timestamp)) :=
    carried_object _
  have absent : Members.field? (Members.carried (auditPayload entry timestamp)) "version"
      = none := by
    rw [Members.field?_carried, version_absent]
    rfl
  obtain ⟨issues, refused⟩ := @not_envelope dep.formats _ absent
  have parsed : parseIncomingMessage dep.formats .AUDIT_LOGS (message dep timestamp entry)
      = .error (.validation .AUDIT_LOGS issues) := by
    unfold parseIncomingMessage message encode
    rw [Json.parse_stringify _ reads]
    dsimp only
    rw [← JsValue.carried, carried, refused]
  rw [isInvalid, parsed]

-- Phases

/-- A task that has received no message, and a delivery of one. -/
inductive Phase
  | start
  | received (content : List Char)

/-- Only the entry is published, and a row is created of valid messages only. -/
def auditProtocol (dep : Deployment) (sent : List Char) : Protocol auditInterface Phase where
  next
    | .start, .receive, .ok content => some (.received content)
    | .start, .createAuditTrail _, _ => none
    | .received content, .createAuditTrail _, _ =>
        if isInvalid dep content then none else some (.received content)
    | phase, .sendToQueue content, _ => if content = sent then some phase else none
    | phase, _, _ => some phase

def Publishes (sent : List Char) : AuditOp → Prop
  | .sendToQueue content => content = sent
  | .receive | .createAuditTrail _ => False
  | _ => True

/-- The calls of a delivery of a message, which creates a row if the message is valid. -/
def Delivers (dep : Deployment) (content : List Char) : AuditOp → Prop
  | .sendToQueue _ | .receive => False
  | .createAuditTrail _ => isInvalid dep content = false
  | _ => True

variable {sent content : List Char}

theorem publishes_ignored {op : AuditOp} (publishes : Publishes sent op)
    : (auditProtocol dep sent).Ignores .start op := by
  intro reply
  cases op with
  | sendToQueue content =>
      obtain rfl : content = sent := publishes
      exact if_pos rfl
  | receive | createAuditTrail _ => exact publishes.elim
  | _ => rfl

theorem delivers_ignored {op : AuditOp} (delivers : Delivers dep content op)
    : (auditProtocol dep sent).Ignores (.received content) op := by
  intro reply
  cases op with
  | createAuditTrail _ =>
      have valid : isInvalid dep content = false := delivers
      simp [auditProtocol, valid]
  | sendToQueue _ | receive => exact delivers.elim
  | _ => rfl

/-- A program of allowed calls that does not throw. -/
abbrev Quiet {α : Type} (p : AuditOp → Prop) (prog : Prog auditInterface α) : Prop :=
  (Protocol.only (I := auditInterface) p).wp prog () (fun _ _ => True) (fun _ _ => False)

theorem quiet_swallow {p : AuditOp → Prop} {prog : Prog auditInterface Unit}
    (only : Protocol.Only p prog)
    : Quiet p prog.swallow :=
  Protocol.wp_swallow.mpr (Protocol.wp_mono only (fun _ _ _ => trivial) fun _ _ _ => trivial)

/-- The attempts publish the entry, by induction on their number. -/
theorem publishFrom_only {attempt left : Nat}
    : Protocol.Only (Publishes sent) (publishFrom sent attempt left) := by
  have once : Protocol.Only (Publishes sent) (publish sent) := by
    refine Protocol.only_bind (Protocol.only_await trivial) fun _ => ?_
    exact Protocol.only_bind (Protocol.only_await rfl) fun _ => Protocol.only_ensure
  induction left generalizing attempt with
  | zero => exact once
  | succ left ih =>
      exact Protocol.only_catchWith once fun _ =>
        Protocol.only_bind (Protocol.only_await trivial) fun _ => ih

theorem saveToOutbox_quiet {eventType reason : String} {payload : Members}
    : Quiet (Publishes sent) (saveToOutbox dep eventType payload reason) := by
  have alert : Quiet (Publishes sent) (alertAdmin dep eventType) := by
    unfold alertAdmin
    split
    · trivial
    · exact quiet_swallow (Protocol.only_await trivial)
  have file : Quiet (Publishes sent) (saveToFallbackFile payload reason) :=
    quiet_swallow (Protocol.only_await trivial)
  have outbox : Protocol.Only (Publishes sent) (issue (.insertOutbox payload reason)) :=
    Protocol.only_await trivial
  refine Protocol.wp_catchWith.mpr (Protocol.wp_mono outbox (fun _ _ _ => trivial) fun _ _ _ => ?_)
  exact Protocol.wp_bind.mpr (Protocol.wp_mono file (fun _ _ _ => alert) fun _ _ absurd => absurd)

/-- The caller is told of no error. -/
theorem logAudit_quiet
    : Quiet (Publishes (message dep timestamp entry)) (logAudit dep timestamp entry) := by
  have saved : Quiet (Publishes (message dep timestamp entry))
      (catchWith (publishWithRetry (message dep timestamp entry))
        (fun err => saveToOutbox dep entry.eventType (auditPayload entry timestamp) err.message)) :=
    Protocol.wp_catchWith.mpr (Protocol.wp_mono publishFrom_only (fun _ _ _ => trivial)
      fun _ _ _ => saveToOutbox_quiet)
  exact Protocol.wp_catchWith.mpr (Protocol.wp_mono saved (fun _ _ known => known)
    fun _ _ (absurd : False) => absurd.elim)

theorem attemptCreate_only {data : AuditRow} {p : AuditOp → Prop}
    (create : p (.createAuditTrail data))
    (ack : p (.ack content))
    : Protocol.Only p (attemptCreate content data) := by
  have succeeds : ∀ {body : Prog auditInterface Unit}, Protocol.Only p body →
      Protocol.Only p (succeeds body) :=
    fun only => Protocol.only_catchWith (Protocol.only_bind only fun _ => trivial) fun _ => trivial
  refine Protocol.only_bind (succeeds (Protocol.only_await create)) fun created => ?_
  split
  · exact Protocol.only_bind (succeeds (Protocol.only_await ack)) fun _ => trivial
  · trivial

/-- The attempts create the row and settle its message, by induction on their number. -/
theorem createLoop_only {data : AuditRow} {left : Nat} {p : AuditOp → Prop}
    (create : p (.createAuditTrail data)) (ack : p (.ack content)) (nack : p (.nack content))
    (sleep : ∀ ms, p (.sleep ms))
    : Protocol.Only p (createLoop content data left) := by
  induction left with
  | zero =>
      refine Protocol.only_bind (attemptCreate_only create ack) fun attempt => ?_
      split
      · trivial
      · exact Protocol.only_await nack
  | succ left ih =>
      refine Protocol.only_bind (attemptCreate_only create ack) fun attempt => ?_
      split
      · trivial
      · refine Protocol.only_bind (Protocol.only_await (sleep _)) fun _ => ?_
        split
        · trivial
        · exact ih

theorem auditConsumer_wp
    : (auditProtocol dep sent).wp (auditConsumer dep) .start (fun _ _ => True)
        (fun _ _ => True) := by
  refine Protocol.wp_bind.mpr (Protocol.wp_await.mpr ⟨fun content => ⟨.received content, rfl, ?_⟩,
    fun _ => ⟨.start, rfl, trivial⟩⟩)
  let p := (auditProtocol dep sent).Ignores (.received content)
  have allowed : ∀ {op}, Delivers dep content op → p op := delivers_ignored
  refine Protocol.wp_mono (Protocol.wp_of_only (Q := fun _ => True) (E := fun _ => True) (show
    Protocol.Only p _ from ?_)) (fun _ _ _ => trivial) fun _ _ _ => trivial
  split
  · rename_i validatedEntry parsed
    have valid : isInvalid dep content = false := by
      rw [isInvalid, parsed]
    exact Protocol.only_catchWith (createLoop_only (allowed valid) (allowed trivial)
      (allowed trivial)
      fun _ => allowed trivial) fun _ => Protocol.only_await (allowed trivial)
  · refine Protocol.only_bind ?_ fun _ => Protocol.only_await (allowed trivial)
    refine Protocol.only_bind (Protocol.only_await (allowed trivial)) fun _ => ?_
    exact Protocol.only_bind (Protocol.only_await (allowed trivial)) fun _ =>
      Protocol.only_await (allowed trivial)
  · exact Protocol.only_await (allowed trivial)

-- Runs

/-- Every task keeps to the protocol, and the first of them does not throw. -/
abbrev Governed (dep : Deployment) (sent : List Char) (c : AuditConfig) : Prop :=
  (auditProtocol dep sent).Governs (fun _ => .start) (fun _ _ _ => True) (fun i _ _ => i ≠ 0) c

theorem governed_start {deliveries : Nat}
    : Governed dep (message dep timestamp entry) (auditPipeline dep timestamp entry
        deliveries) := by
  refine Protocol.governs_initial fun i prog found => ?_
  cases i with
  | zero =>
      obtain rfl := Option.some.inj found
      have ignored : ∀ op, Publishes (message dep timestamp entry) op →
          (auditProtocol dep (message dep timestamp entry)).Ignores .start op :=
        fun op => publishes_ignored
      have quiet := Protocol.only_mono ignored (@logAudit_quiet dep entry timestamp)
      exact Protocol.wp_mono (Protocol.wp_of_only (Q := fun _ => True) (E := fun _ => False) quiet)
        (fun _ _ _ => trivial) fun _ _ (absurd : False ∧ _) => absurd.1.elim
  | succ i =>
      obtain rfl := List.eq_of_mem_replicate (List.mem_of_getElem? found)
      exact Protocol.wp_mono auditConsumer_wp (fun _ _ _ => trivial) fun _ _ _ => Nat.succ_ne_zero i

/-- Only the entry is in the queue and with its consumers, no row was written, and no attempt was
made to write one.
-/
structure Unrecorded (dep : Deployment) (sent : List Char) (c : AuditConfig) : Prop where
  queue : ∀ content ∈ c.world.queue, content = sent
  received : ∀ i content,
    (auditProtocol dep sent).phase (fun _ => .start) c i = .received content → content = sent
  rows : c.world.rows = []
  untried : ∀ i, ∀ event ∈ c.past i, ∀ data, event.op ≠ .createAuditTrail data

theorem act_world {w w' : AuditWorld} {i : Nat} {x : AuditChoice} {op : AuditOp}
    {reply : auditInterface.Reply op} (answered : auditSemantics.act i op x w = some (reply, w'))
    : (∀ content ∈ w'.queue, content ∈ w.queue ∨ op = .sendToQueue content)
      ∧ (w'.rows = w.rows ∨ ∃ data, op = .createAuditTrail data) := by
  obtain ⟨-, ⟨rfl, -⟩ | ⟨rfl, -⟩⟩ := Environment.outcome_cases answered
  · exact ⟨fun _ known => .inl known, .inl rfl⟩
  · cases op with
    | sendToQueue sent =>
        refine ⟨fun content known => ?_, .inl rfl⟩
        rcases List.mem_cons.mp known with rfl | known
        · exact .inr rfl
        · exact .inl known
    | receive => exact ⟨fun content known => .inl (List.mem_of_mem_erase known), .inl rfl⟩
    | createAuditTrail data => exact ⟨fun _ known => .inl known, .inr ⟨data, rfl⟩⟩
    | _ => exact ⟨fun _ known => .inl known, .inl rfl⟩

theorem received_mem {w w' : AuditWorld} {i : Nat} {x : AuditChoice} {content : List Char}
    (answered : auditSemantics.act i .receive x w = some (.ok content, w'))
    : content ∈ w.queue := by
  obtain ⟨possible, ⟨-, -, _, absurd⟩ | ⟨-, same | ⟨-, _, absurd⟩⟩⟩ :=
    Environment.outcome_cases answered
  · cases absurd
  · obtain rfl := Except.ok.inj same
    exact List.contains_iff_mem.mp (Bool.and_eq_true_iff.mp possible).1
  · cases absurd

theorem sent_of_move {phase phase' : Phase} {reply : auditInterface.Reply (.sendToQueue content)}
    (moved : (auditProtocol dep sent).next phase (.sendToQueue content) reply = some phase')
    : content = sent ∧ phase' = phase := by
  cases phase with
  | start | received _ =>
      obtain ⟨same, moved⟩ := Option.ite_none_right_eq_some.mp moved
      exact ⟨same, (Option.some.inj moved).symm⟩

theorem created_of_move {phase phase' : Phase} {data : AuditRow}
    {reply : auditInterface.Reply (.createAuditTrail data)}
    (moved : (auditProtocol dep sent).next phase (.createAuditTrail data) reply = some phase')
    : phase' = phase ∧ ∃ content, phase = .received content ∧ isInvalid dep content = false := by
  cases phase with
  | start => cases moved
  | received content =>
      obtain ⟨valid, moved⟩ := Option.ite_none_left_eq_some.mp moved
      exact ⟨(Option.some.inj moved).symm, content, rfl, Bool.eq_false_iff.mpr valid⟩

theorem received_of_move {phase phase' : Phase} {op : AuditOp} {reply : auditInterface.Reply op}
    (moved : (auditProtocol dep sent).next phase op reply = some phase')
    (received : phase' = .received content)
    : phase = .received content ∨ (⟨op, reply⟩ : Event auditInterface)
        = ⟨.receive, .ok content⟩ := by
  subst received
  cases op with
  | sendToQueue _ => exact .inl (sent_of_move moved).2.symm
  | createAuditTrail _ => exact .inl (created_of_move moved).1.symm
  | receive =>
      cases phase with
      | received _ => exact .inl (Option.some.inj moved)
      | start =>
          cases reply with
          | error _ => cases moved
          | ok found =>
              cases moved
              exact .inr rfl
  | _ => cases phase <;> exact .inl (Option.some.inj moved)

theorem Unrecorded.step {c c' : AuditConfig} {i : Nat} {x : AuditChoice}
    (invalid : isInvalid dep sent = true) (h : Unrecorded dep sent c)
    (governed : Governed dep sent c)
    (stepped : c.step auditSemantics i x = some c')
    : Unrecorded dep sent c' := by
  obtain ⟨op, reply, -, -, answered, moved, history, others, -⟩ := governed.step_cases stepped
  have untried : ∀ data, op ≠ .createAuditTrail data := by
    rintro data rfl
    obtain ⟨-, content, received, valid⟩ := created_of_move moved
    rw [h.received i content received, invalid] at valid
    cases valid
  obtain ⟨queued, rows⟩ := act_world answered
  refine ⟨fun content known => ?_, fun j content received => ?_, ?_, fun j event known data => ?_⟩
  · rcases queued content known with before | rfl
    · exact h.queue content before
    · exact (sent_of_move moved).1
  · by_cases same : j = i
    · subst same
      rcases received_of_move moved received with before | event
      · exact h.received j content before
      · cases event
        exact h.queue content (received_mem answered)
    · exact h.received j content ((others j same).1 ▸ received)
  · rcases rows with same | ⟨data, absurd⟩
    · exact same.trans h.rows
    · exact (untried data absurd).elim
  · by_cases same : j = i
    · subst same
      rw [history] at known
      rcases List.mem_cons.mp known with rfl | before
      · exact untried data
      · exact h.untried j event before data
    · exact h.untried j event ((others j same).2.2 ▸ known) data

theorem unrecorded_start {deliveries : Nat}
    : Unrecorded dep sent (auditPipeline dep timestamp entry deliveries) where
  queue := nofun
  received i content absurd := by
    rw [auditPipeline, Protocol.phase_initial] at absurd
    cases absurd
  rows := rfl
  untried i event absurd := by
    rw [auditPipeline, Config.past_initial] at absurd
    cases absurd

end

/-- No entry is ever accounted for: a published one becomes no row although its creation has not
failed, and of one that is not published the caller is not told.
-/
theorem entry_never_accounted {dep : Deployment} {timestamp : String} {entry : AuditEntry}
    {deliveries : Nat} {c : AuditConfig}
    (reads : ∀ q ∈ (JsValue.object (auditPayload entry timestamp)).toJson.numbers,
      Reads dep.numberText q)
    (reached : Config.Reaches auditSemantics Config.anyStep
      (auditPipeline dep timestamp entry deliveries) c)
    : ¬ Accounted c := by
  have invalid := message_invalid reads
  obtain ⟨governed, unrecorded⟩ := governed_start.invariant unrecorded_start
    (fun _ _ _ _ governed held _ stepped => held.step invalid governed stepped) reached
  intro accounted
  cases sent : isPublished c with
  | true =>
      rcases accounted.published sent with row | ⟨-, i, failing⟩
      · rw [unrecorded.rows] at row
        cases row
      · have some : 0 < (c.past i).countP isFailedCreation := by
          rw [failing]
          exact Nat.succ_pos _
        obtain ⟨⟨op, reply⟩, known, failed⟩ := List.countP_pos_iff.mp some
        cases op with
        | createAuditTrail data => exact unrecorded.untried i _ known data rfl
        | _ => cases failed
  | false =>
      obtain ⟨-, error, told⟩ := accounted.saved sent
      exact governed.error told rfl

-- Sample entries

def sampleDeployment : Deployment where
  alertEmail := ""
  formats := { uuid _ := true, datetime _ := true }
  numberText _ := ['1']

def sampleEntry : AuditEntry where
  eventType := "mint"
  action := "approve"

instance (c : AuditConfig) : Decidable (Complete c) :=
  inferInstanceAs (Decidable (_ ∧ _ ∧ ∀ i < c.threads.length, _ → _))

def sampleMessage : List Char :=
  message sampleDeployment "now" sampleEntry

/-- The entry is published, and its message is delivered. -/
def consumed : List (Nat × AuditChoice) :=
  [(0, {}), (0, {}), (1, { content := sampleMessage }), (1, {}), (1, {}), (1, {}), (1, {})]

def brokerDown : AuditChoice :=
  { outcome := .failed (.error "no channel") }

/-- No attempt to publish succeeds, and the outbox works. -/
def unpublished : List (Nat × AuditChoice) :=
  [(0, brokerDown), (0, {}), (0, brokerDown), (0, {}), (0, brokerDown), (0, {})]

abbrev samplePipeline : AuditConfig :=
  auditPipeline sampleDeployment "now" sampleEntry 1

theorem entry_never_accounted_published : ∃ c : AuditConfig, Complete c ∧ ¬ Accounted c := by
  have executed : (samplePipeline.run auditSemantics Config.anyStep consumed).map
      (fun c => decide (Complete c)) = some true := by
    decide +kernel
  obtain ⟨c, reached, complete⟩ := Config.reaches_of_run executed
  refine ⟨c, of_decide_eq_true complete, entry_never_accounted ?_ reached⟩
  intro q member
  have none : (JsValue.object (auditPayload sampleEntry "now")).toJson.numbers = [] := by
    decide +kernel
  rw [none] at member
  cases member

/-- A published entry is a dead letter though no creation of its row has failed, and the caller is
not told of an entry that was saved to the outbox.
-/
theorem entries_not_accounted
    : (∃ c, Config.Reaches auditSemantics Config.anyStep samplePipeline c ∧ Complete c
        ∧ isPublished c = true ∧ c.world.rows.length = 0 ∧ c.world.deadLetters = [sampleMessage]
        ∧ ¬ Accounted c)
      ∧ ∃ c, Config.Reaches auditSemantics Config.anyStep samplePipeline c ∧ Complete c
        ∧ isPublished c = false ∧ c.world.outbox.length = 1 ∧ c.value? 0 = some ()
        ∧ ¬ Accounted c := by
  constructor
  · have executed : (samplePipeline.run auditSemantics Config.anyStep consumed).map
        (fun c => (decide (Complete c), isPublished c, c.world.rows.length,
          decide (c.world.deadLetters = [sampleMessage]),
          decide (∀ i < c.threads.length, (c.past i).countP isFailedCreation = 0)))
        = some (true, true, 0, true, true) := by
      decide +kernel
    obtain ⟨c, reached, observed⟩ := Config.reaches_of_run executed
    obtain ⟨complete, sent, rows, dead, tried⟩ := by
      simpa only [Prod.mk.injEq, decide_eq_true_eq] using observed
    refine ⟨c, reached, complete, sent, rows, dead, fun accounted => ?_⟩
    rcases accounted.published sent with row | ⟨-, i, failing⟩
    · cases rows.symm.trans row
    · by_cases bound : i < c.threads.length
      · cases (tried i bound).symm.trans failing
      · have absent : c.threads[i]? = none := List.getElem?_eq_none (Nat.le_of_not_lt bound)
        simp [Config.past, absent, MAX_RETRIES] at failing
  · have executed : (samplePipeline.run auditSemantics Config.anyStep unpublished).map
        (fun c => (decide (Complete c), isPublished c, c.world.outbox.length, c.value? 0))
        = some (true, false, 1, some ()) := by
      decide +kernel
    obtain ⟨c, reached, observed⟩ := Config.reaches_of_run executed
    obtain ⟨complete, sent, saved, returned⟩ := by
      simpa only [Prod.mk.injEq, decide_eq_true_eq] using observed
    refine ⟨c, reached, complete, sent, saved, returned, fun accounted => ?_⟩
    obtain ⟨-, error, told⟩ := accounted.saved sent
    rw [Config.error?_of_value? returned] at told
    cases told

end AcbuBackend.Audit

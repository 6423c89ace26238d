import AcbuBackend.OutboundWebhooks.WebhookService
import AcbuBackend.Queue.Envelopes

/-! No webhook is lost between its queue and its consumer.
The producer's messages have no envelope, so that the consumer finds each of them invalid; an
invalid message is acknowledged only once it is in the dead-letter queue.
-/

namespace AcbuBackend.OutboundWebhooks

open Effects Effects.Prog AcbuBackend.Runtime
open Json (Value)
open Messages (QueueSchemaName)
open Queue (QueueOp)

-- The system

/-- A call of the producer, or the delivery of a message. -/
inductive WebhookTask
  | enqueue (eventType : String) (data : List (String × Value)) (transactionId : Option String)
  | delivery

def WebhookTask.program (dep : Deployment) : WebhookTask → Prog webhookInterface (Option String)
  | .enqueue eventType data transactionId =>
      (Queue.enqueueWebhook dep.toDeployment eventType data transactionId).within queueCalls
  | .delivery => do
      webhookConsumer dep
      return none

/-- The table, the messages that are not acknowledged, and the dead-letter queue. A task that stops
early is one whose process has crashed; the broker delivers its message again.
-/
structure WebhookWorld where
  webhooks : AList (fun _ : String => WebhookRow)
  queue : List WebhookMessage
  deadLetters : List (List Char)

/-- What the environment answers a call with. The payload is as the column gives it back. -/
structure WebhookChoice where
  outcome : Outcome JsError := .done
  message : WebhookMessage := { content := [] }
  webhookId : String := ""
  text : String := ""
  payload : Value := .null

def recordNotFound : JsError := .error "Record to update not found."

def WebhookRow.updated (row : WebhookRow) (data : WebhookUpdate) : WebhookRow :=
  { row with status := data.status, attempts := data.attempts.getD row.attempts }

def newRow (data : Queue.NewWebhook) : WebhookRow where
  payload := data.payload
  signature := data.signature
  status := data.status

def queueEffect (x : WebhookChoice) (w : WebhookWorld)
    : (op : QueueOp) → Except JsError op.Ret × WebhookWorld
  | .sendToQueue .WEBHOOKS content => (.ok (), { w with queue := { content } :: w.queue })
  | .createWebhook data =>
      (.ok x.webhookId, { w with webhooks := w.webhooks.insert x.webhookId (newRow data) })
  | .now => (.ok x.text, w)
  | .connectRabbitMQ | .getRabbitMQChannel | .assertQueue _ | .sendToQueue _ _ => (.ok (), w)

def webhookEffect (x : WebhookChoice) (w : WebhookWorld)
    : (op : WebhookOp) → Except JsError op.Ret × WebhookWorld
  | .queue op => queueEffect x w op
  | .findWebhook webhookId =>
      (.ok ((w.webhooks.lookup webhookId).map (fun row => { row with payload := x.payload })), w)
  | .updateWebhook webhookId data =>
      match w.webhooks.lookup webhookId with
      | none => (.error recordNotFound, w)
      | some row => (.ok (), { w with webhooks := w.webhooks.insert webhookId (row.updated data) })
  | .receive => (.ok x.message, w)
  | .ack msg => (.ok (), { w with queue := w.queue.erase msg })
  | .sendToDlq content => (.ok (), { w with deadLetters := content :: w.deadLetters })
  | .sendToQueue msg => (.ok (), { w with queue := msg :: w.queue })
  | .post _ | .delay _ | .assertDlq => (.ok (), w)

/-- Every call may fail. A message is delivered only while the broker holds it. -/
def webhookEnvironment : Environment webhookInterface WebhookWorld WebhookChoice where
  outcome := WebhookChoice.outcome
  effect := webhookEffect
  admissible
    | .receive, x, w => w.queue.contains x.message
    | .queue (.createWebhook _), x, w => !(w.webhooks.lookup x.webhookId).isSome
    | _, _, _ => true

def webhookSemantics : Semantics webhookInterface WebhookWorld WebhookChoice :=
  webhookEnvironment.semantics

abbrev WebhookConfig := Config webhookInterface (Option String) WebhookWorld

-- Phases

/-- The consumer finds a message invalid. -/
def Invalid (dep : Deployment) (content : List Char) : Prop :=
  ∃ queue issues, Messages.parseIncomingMessage dep.formats .WEBHOOKS content
    = .error (.validation queue issues)

/-- What a task has done: put a message on the queue, or taken one and put it among the dead
letters.
-/
inductive Phase
  | start
  | sent (content : List Char)
  | received (msg : WebhookMessage)
  | deadLettered (msg : WebhookMessage)

/-- A message is acknowledged by who has received it, and if it is invalid only among the dead
letters.
-/
noncomputable def webhookProtocol (dep : Deployment) : Protocol webhookInterface Phase where
  next phase op reply := open Classical in
    match phase, op, reply with
    | .start, .receive, .ok msg => some (.received msg)
    | .start, .queue (.sendToQueue .WEBHOOKS content), .ok _ => some (.sent content)
    | .received msg, .ack acked, _ =>
        if acked = msg ∧ ¬ Invalid dep msg.content then some (.received msg) else none
    | .received msg, .sendToDlq content, .ok _ =>
        if content = msg.content ∧ Invalid dep content then some (.deadLettered msg)
        else some (.received msg)
    | .deadLettered msg, .ack acked, _ => if acked = msg then some (.deadLettered msg) else none
    | _, .ack _, _ => none
    | phase, _, _ => some phase

section

variable {dep : Deployment} {msg : WebhookMessage}

/-- The calls of a consumer that holds a valid message. -/
def Handles (msg : WebhookMessage) : WebhookOp → Prop
  | .ack acked => acked = msg
  | .receive | .queue (.sendToQueue ..) => False
  | _ => True

theorem handles_ignored (valid : ¬ Invalid dep msg.content) {op : WebhookOp}
    (handles : Handles msg op)
    : (webhookProtocol dep).Ignores (.received msg) op := by
  intro reply
  match op, reply with
  | .ack acked, _ =>
      obtain rfl : acked = msg := handles
      simp [webhookProtocol, valid]
  | .sendToDlq content, .ok _ =>
      have other : ¬ (content = msg.content ∧ Invalid dep content) := by
        rintro ⟨rfl, invalid⟩
        exact valid invalid
      simp [webhookProtocol, other]
  | .sendToDlq _, .error _ | .queue .connectRabbitMQ, _ | .queue .getRabbitMQChannel, _
  | .queue (.assertQueue _), _ | .queue (.createWebhook _), _ | .queue .now, _
  | .findWebhook _, _ | .updateWebhook .., _ | .post _, _ | .delay _, _ | .assertDlq, _
  | .sendToQueue _, _ => rfl

variable {p : WebhookOp → Prop}

theorem deliverMessage_only {payload : Zod.JsValue} (handles : ∀ op, Handles msg op → p op)
    : Protocol.Only p (deliverMessage dep msg payload) := by
  have acks : ∀ value : Bool, Protocol.Only p (do ask (.ack msg); pure value) :=
    fun value => Protocol.only_bind (Protocol.only_await (handles _ rfl)) fun _ => trivial
  have delivers : ∀ webhookId, Protocol.Only p (deliverWebhook dep webhookId) := by
    intro webhookId
    refine Protocol.only_bind (Protocol.only_await (handles _ trivial)) fun webhook => ?_
    cases webhook with
    | none => trivial
    | some row =>
        exact deliverRow_only (handles _ trivial) (fun _ => handles _ trivial)
          fun _ => handles _ trivial
  unfold deliverMessage
  dsimp only
  split
  · exact acks false
  · refine Protocol.only_bind (delivers _) fun result => ?_
    split
    · exact acks false
    split
    · exact Protocol.only_bind (Protocol.only_await (handles _ trivial)) fun _ => acks false
    · exact acks true

theorem handleError_only (handles : ∀ op, Handles msg op → p op)
    : Protocol.Only p (handleError msg) := by
  unfold handleError
  refine Protocol.only_bind (Protocol.only_await (handles _ rfl)) fun _ => ?_
  split
  · exact Protocol.only_bind (Protocol.only_await (handles _ trivial)) fun _ => trivial
  · trivial

/-- What a task has done once it holds a message. -/
def Phase.Holds (msg : WebhookMessage) (phase : Phase) : Prop :=
  phase = .received msg ∨ phase = .deadLettered msg

theorem wp_ignored {op : WebhookOp} {phase : Phase} {Q : op.Ret → Phase → Prop}
    (ignored : (webhookProtocol dep).Ignores phase op) (value : ∀ reply, Q reply phase)
    : (webhookProtocol dep).wp (ask op) phase Q (fun _ _ => True) :=
  Protocol.wp_await.mpr ⟨fun reply => ⟨phase, ignored _, value reply⟩,
    fun _ => ⟨phase, ignored _, trivial⟩⟩

theorem handleMessage_wp
    : (webhookProtocol dep).wp (handleMessage dep msg) (.received msg)
        (fun _ phase => phase.Holds msg)
        (fun _ _ => True) := by
  unfold handleMessage
  split
  · rename_i payload parsed
    have valid : ¬ Invalid dep msg.content := by
      rintro ⟨_, _, refused⟩
      rw [parsed] at refused
      cases refused
    have handles := fun op => @handles_ignored dep msg valid op
    apply Protocol.wp_mono (Protocol.wp_of_only (Q := fun _ => True) (E := fun _ => True)
      (Protocol.only_catchWith (deliverMessage_only handles) fun _ => handleError_only handles))
    · exact fun _ _ known => .inl known.2
    · exact fun _ _ _ => trivial
  · rename_i queue issues parsed
    have invalid : Invalid dep msg.content := ⟨queue, issues, parsed⟩
    refine Protocol.wp_bind.mpr (Protocol.wp_bind.mpr (wp_ignored (fun _ => rfl) fun _ => ?_))
    refine Protocol.wp_bind.mpr (wp_ignored (fun _ => rfl) fun _ => ?_)
    refine Protocol.wp_await.mpr ⟨fun _ => ⟨.deadLettered
      msg, by simp [webhookProtocol, invalid], ?_⟩, fun _ => ⟨_, rfl, trivial⟩⟩
    exact Protocol.wp_bind.mpr (wp_ignored (fun _ => by simp [webhookProtocol]) fun _ => .inr rfl)
  · rename_i parsed
    have valid : ¬ Invalid dep msg.content := by
      rintro ⟨_, _, refused⟩
      rw [parsed] at refused
      cases refused
    have handles := fun op => @handles_ignored dep msg valid op
    apply Protocol.wp_mono (Protocol.wp_of_only (Q := fun _ => True) (E := fun _ => True)
      (handleError_only handles))
    · exact fun _ _ known => .inl known.2
    · exact fun _ _ _ => trivial

theorem webhookConsumer_wp
    : (webhookProtocol dep).wp (webhookConsumer dep) .start (fun _ _ => True)
        (fun _ _ => True) := by
  unfold webhookConsumer
  refine Protocol.wp_bind.mpr (Protocol.wp_await.mpr ⟨fun msg => ⟨.received msg, rfl, ?_⟩,
    fun _ => ⟨.start, rfl, trivial⟩⟩)
  refine Protocol.wp_bind.mpr (Protocol.wp_mono handleMessage_wp (fun scheduled phase holds => ?_)
    fun _ _ _ => trivial)
  rcases holds with rfl | rfl
  all_goals
    split
    · exact Protocol.wp_bind.mpr (wp_ignored (fun _ => rfl) fun _ => wp_ignored (fun _ => rfl)
        fun _ => trivial)
    · trivial

/-- What the producer has put on the queue. -/
def senderProtocol : Protocol Queue.queueInterface (Option (List Char)) where
  next sent op reply :=
    match sent, op, reply with
    | none, .sendToQueue .WEBHOOKS content, .ok _ => some (some content)
    | sent, _, _ => some sent

theorem enqueueWebhook_wp {eventType : String} {data : List (String × Value)}
    {transactionId : Option String}
    : senderProtocol.wp (Queue.enqueueWebhook dep.toDeployment eventType data transactionId) none
        (fun webhookId sent => ∀ id, webhookId = some id →
          sent = some (dep.encode (Queue.webhookMessage id)))
        (fun _ _ => True) := by
  have passes : ∀ {op : QueueOp} {Q : op.Ret → Option (List Char) → Prop},
      (∀ reply, senderProtocol.next none op reply = some none) → (∀ reply, Q reply none) →
      senderProtocol.wp (Queue.call op) none Q (fun _ _ => True) :=
    fun same value => Protocol.wp_await.mpr ⟨fun reply => ⟨none, same _, value reply⟩,
      fun _ => ⟨none, same _, trivial⟩⟩
  unfold Queue.enqueueWebhook
  split
  · exact fun _ absurd => nomatch absurd
  · refine Protocol.wp_bind.mpr (passes (fun _ => rfl) fun timestamp => ?_)
    refine Protocol.wp_bind.mpr (passes (fun _ => rfl) fun webhookId => ?_)
    refine Protocol.wp_bind.mpr (passes (fun _ => rfl) fun _ => ?_)
    refine Protocol.wp_bind.mpr (passes (fun _ => rfl) fun _ => ?_)
    refine Protocol.wp_bind.mpr (Protocol.wp_await.mpr
      ⟨fun _ => ⟨_, rfl, ?_⟩, fun _ => ⟨_, rfl, trivial⟩⟩)
    rintro id same
    obtain rfl := Option.some.inj same
    rfl

/-- What a task ends with. -/
def Enqueued (dep : Deployment) (webhookId : Option String) (phase : Phase) : Prop :=
  ∀ id, webhookId = some id → phase = .sent (dep.encode (Queue.webhookMessage id))

theorem program_wp (task : WebhookTask)
    : (webhookProtocol dep).wp (task.program dep) .start (Enqueued dep) (fun _ _ => True) := by
  cases task with
  | delivery =>
      exact Protocol.wp_bind.mpr (Protocol.wp_mono webhookConsumer_wp
        (fun _ _ _ id absurd => nomatch absurd) fun _ _ _ => trivial)
  | enqueue eventType data transactionId =>
      have similar := @Protocol.wp_within _ _ _ _ _ senderProtocol (webhookProtocol dep) queueCalls
        (fun sent phase => phase = sent.elim .start .sent)
        (by
          rintro sent sent' _ op reply rfl moved
          cases sent with
          | none =>
              cases op with
              | sendToQueue queue content =>
                  cases queue with
                  | WEBHOOKS =>
                      cases reply <;> obtain rfl := Option.some.inj moved <;> exact ⟨_, rfl, rfl⟩
                  | _ =>
                      obtain rfl := Option.some.inj moved
                      exact ⟨_, rfl, rfl⟩
              | _ =>
                  obtain rfl := Option.some.inj moved
                  exact ⟨_, rfl, rfl⟩
          | some content =>
              obtain rfl := Option.some.inj moved
              exact ⟨_, rfl, rfl⟩)
        _ _ _ _ _ (@enqueueWebhook_wp dep eventType data transactionId) rfl
      apply Protocol.wp_mono similar
      · rintro webhookId _ ⟨sent, rfl, known⟩ id same
        rw [known id same]
        rfl
      · exact fun _ _ _ => trivial

end

-- What a move says

section

variable {dep : Deployment} {phase phase' : Phase} {op : WebhookOp}
    {reply : webhookInterface.Reply op}

theorem ack_cases {acked : WebhookMessage} {reply : webhookInterface.Reply (.ack acked)}
    (moved : (webhookProtocol dep).next phase (.ack acked) reply = some phase')
    : phase = .received acked ∧ ¬ Invalid dep acked.content ∨ phase = .deadLettered acked := by
  cases phase with
  | start | sent _ => cases moved
  | received msg =>
      simp only [webhookProtocol] at moved
      split at moved
      · rename_i known
        obtain ⟨rfl, valid⟩ := known
        exact .inl ⟨rfl, valid⟩
      · cases moved
  | deadLettered msg =>
      simp only [webhookProtocol] at moved
      split at moved
      · rename_i same
        exact .inr (same ▸ rfl)
      · cases moved

theorem sent_cases {content : List Char}
    (moved : (webhookProtocol dep).next phase op reply = some (.sent content))
    : phase = .sent content
      ∨ op = .queue (.sendToQueue .WEBHOOKS content) ∧ Except.isOk reply = true := by
  simp only [webhookProtocol] at moved
  split at moved
  · cases moved
  · cases moved
    exact .inr ⟨rfl, rfl⟩
  · split at moved <;> cases moved
  · split at moved <;> cases moved
  · split at moved <;> cases moved
  · cases moved
  · exact .inl (Option.some.inj moved)

theorem deadLettered_cases {msg : WebhookMessage}
    (moved : (webhookProtocol dep).next phase op reply = some (.deadLettered msg))
    : phase = .deadLettered msg ∨ op = .sendToDlq msg.content ∧ Except.isOk reply = true := by
  simp only [webhookProtocol] at moved
  split at moved
  · cases moved
  · cases moved
  · split at moved <;> cases moved
  · split at moved
    · rename_i known
      obtain ⟨rfl, -⟩ := known
      cases moved
      exact .inr ⟨rfl, rfl⟩
    · cases moved
  · split at moved
    · exact .inl (Option.some.inj moved)
    · cases moved
  · cases moved
  · exact .inl (Option.some.inj moved)

end

-- Messages

/-- A message is held by the broker: not acknowledged yet, or among the dead letters. -/
def WebhookWorld.Holds (w : WebhookWorld) (content : List Char) : Prop :=
  (∃ msg ∈ w.queue, msg.content = content) ∨ content ∈ w.deadLetters

variable {dep : Deployment} {w w' : WebhookWorld} {i : Nat} {x : WebhookChoice}

theorem effect_kept (op : WebhookOp)
    : (∀ content ∈ w.deadLetters, content ∈ (webhookEffect x w op).2.deadLetters)
      ∧ ∀ msg ∈ w.queue, msg ∈ (webhookEffect x w op).2.queue ∨ op = .ack msg := by
  cases op with
  | queue op =>
      cases op with
      | sendToQueue queue content =>
          cases queue with
          | WEBHOOKS =>
              exact ⟨fun _ there => there, fun _ there => .inl (List.mem_cons_of_mem _ there)⟩
          | _ => exact ⟨fun _ there => there, fun _ there => .inl there⟩
      | _ => exact ⟨fun _ there => there, fun _ there => .inl there⟩
  | updateWebhook webhookId data =>
      simp only [webhookEffect]
      split <;> exact ⟨fun _ there => there, fun _ there => .inl there⟩
  | ack acked =>
      refine ⟨fun _ there => there, fun msg there => ?_⟩
      by_cases same : acked = msg
      · exact .inr (congrArg _ same)
      · exact .inl ((List.mem_erase_of_ne (Ne.symm same)).mpr there)
  | sendToDlq content =>
      exact ⟨fun _ there => List.mem_cons_of_mem _ there, fun _ there => .inl there⟩
  | sendToQueue msg =>
      exact ⟨fun _ there => there, fun _ there => .inl (List.mem_cons_of_mem _ there)⟩
  | _ => exact ⟨fun _ there => there, fun _ there => .inl there⟩

/-- What is known of the messages of the tasks. -/
structure NoneLost (dep : Deployment) (c : WebhookConfig) : Prop where
  sent : ∀ i content, (webhookProtocol dep).phase (fun _ => .start) c i = .sent content →
    Invalid dep content → c.world.Holds content
  deadLettered : ∀ i msg, (webhookProtocol dep).phase (fun _ => .start) c i = .deadLettered msg →
    msg.content ∈ c.world.deadLetters

theorem act_world {op : WebhookOp} {reply : webhookInterface.Reply op}
    (answered : webhookSemantics.act i op x w = some (reply, w'))
    : w' = w ∧ Except.isOk reply = false ∨ w' = (webhookEffect x w op).2 := by
  obtain ⟨-, ⟨same, failed⟩ | ⟨same, -⟩⟩ := Environment.act_cases answered
  · exact .inl ⟨same, failed⟩
  · exact .inr same

theorem deadLetters_kept {op : WebhookOp} {reply : webhookInterface.Reply op}
    (answered : webhookSemantics.act i op x w = some (reply, w')) {content : List Char}
    (there : content ∈ w.deadLetters)
    : content ∈ w'.deadLetters := by
  rcases act_world answered with ⟨rfl, -⟩ | rfl
  · exact there
  · exact (effect_kept op).1 content there

theorem holds_kept {op : WebhookOp} {reply : webhookInterface.Reply op} {phase phase' : Phase}
    (answered : webhookSemantics.act i op x w = some (reply, w'))
    (moved : (webhookProtocol dep).next phase op reply = some phase')
    (deadLettered : ∀ msg, phase = .deadLettered msg → msg.content ∈ w.deadLetters)
    {content : List Char} (invalid : Invalid dep content) (there : w.Holds content)
    : w'.Holds content := by
  rcases there with ⟨msg, queued, rfl⟩ | there
  · rcases act_world answered with ⟨rfl, -⟩ | rfl
    · exact .inl ⟨msg, queued, rfl⟩
    rcases (effect_kept op).2 msg queued with still | rfl
    · exact .inl ⟨msg, still, rfl⟩
    · -- acknowledged, which an invalid message is among the dead letters only
      rcases ack_cases moved with ⟨rfl, valid⟩ | rfl
      · exact absurd invalid valid
      · exact .inr ((effect_kept (.ack msg)).1 _ (deadLettered msg rfl))
  · exact .inr (deadLetters_kept answered there)

theorem NoneLost.step {c c' : WebhookConfig}
    (governed : (webhookProtocol dep).Governs (fun _ => .start) (fun _ => Enqueued dep)
      (fun _ _ _ => True) c)
    (h : NoneLost dep c) (stepped : c.step webhookSemantics i x = some c')
    : NoneLost dep c' := by
  obtain ⟨op, reply, -, -, answered, moved, -, others, -⟩ := governed.step_cases stepped
  constructor
  · intro j content sent invalid
    have kept := fun there => holds_kept answered moved (h.deadLettered i) invalid there
    by_cases same : j = i
    · subst same
      rcases sent_cases (sent ▸ moved) with before | ⟨rfl, ok⟩
      · exact kept (h.sent j content before invalid)
      · rcases act_world answered with ⟨-, failed⟩ | left
        · rw [ok] at failed
          cases failed
        · rw [left]
          exact .inl ⟨{ content }, List.mem_cons_self, rfl⟩
    · exact kept (h.sent j content ((others j same).1 ▸ sent) invalid)
  · intro j msg deadLettered
    by_cases same : j = i
    · subst same
      rcases deadLettered_cases (deadLettered ▸ moved) with before | ⟨rfl, ok⟩
      · exact deadLetters_kept answered (h.deadLettered j msg before)
      · rcases act_world answered with ⟨-, failed⟩ | left
        · rw [ok] at failed
          cases failed
        · rw [left]
          exact List.mem_cons_self
    · exact deadLetters_kept answered (h.deadLettered j msg ((others j same).1 ▸ deadLettered))

/-- In every state of every run, the message of a webhook that was enqueued is on the queue, ready
or not acknowledged, or in its dead-letter queue, whatever the status of the webhook.
-/
theorem enqueued_webhook_held {dep : Deployment} {tasks : List WebhookTask} {world : WebhookWorld}
    {c : WebhookConfig} {i : Nat} {webhookId : String}
    (reached : Config.Reaches webhookSemantics Config.anyStep
      (Config.initial world (tasks.map (WebhookTask.program dep))) c)
    (enqueued : c.value? i = some (some webhookId))
    : c.world.Holds (dep.encode (Queue.webhookMessage webhookId)) := by
  have start : (webhookProtocol dep).Governs (fun _ => .start) (fun _ => Enqueued dep)
    (fun _ _ _ => True)
      (Config.initial world (tasks.map (WebhookTask.program dep))) := by
    refine Protocol.governs_initial fun j prog found => ?_
    obtain ⟨task, -, rfl⟩ := List.mem_map.mp (List.mem_of_getElem? found)
    exact program_wp task
  have base : NoneLost dep (Config.initial world (tasks.map (WebhookTask.program dep))) := by
    constructor <;> intro j _ absurd <;> simp at absurd
  obtain ⟨governed, held⟩ := start.invariant base
    (fun _ _ _ _ governed held _ stepped => held.step governed stepped) reached
  refine held.sent i _ (governed.value enqueued webhookId rfl) ⟨.WEBHOOKS, Queue.envelopeIssues, ?_⟩
  exact Queue.bareMessage_rejected (.webhook webhookId)

def lostDeployment : Deployment where
  toDeployment := Queue.sampleDeployment
  formats := Queue.sampleFormats
  hostname _ := none
  toLowerCase := id

/-- An empty table and empty queues. -/
def quiet : WebhookWorld where
  webhooks := ∅
  queue := []
  deadLetters := []

/-- A webhook is enqueued, and a consumer takes its message off the queue. -/
theorem enqueued_webhook_held_once
    : ∃ c : WebhookConfig, c.value? 0 = some (some "webhook") ∧ c.value? 1 = some none
        ∧ c.world.queue = []
        ∧ c.world.Holds (lostDeployment.encode (Queue.webhookMessage "webhook")) := by
  have executed : ((Config.initial quiet
      ([.enqueue "mint.completed" [] none, .delivery].map (WebhookTask.program lostDeployment))).run
      webhookSemantics Config.anyStep
      [(0, {}), (0, { webhookId := "webhook" }), (0, {}), (0, {}), (0, {}),
        (1, { message := { content := lostDeployment.encode (Queue.webhookMessage "webhook") } }),
        (1, {}), (1, {}), (1, {}), (1, {})]).map
        (fun c => (c.value? 0, c.value? 1, c.world.queue))
        = some (some (some "webhook"), some none, []) := by
    decide +kernel
  obtain ⟨c, reached, left⟩ := Config.reaches_of_run executed
  obtain ⟨enqueued, handled⟩ := Prod.mk.inj left
  obtain ⟨ended, empty⟩ := Prod.mk.inj handled
  exact ⟨c, enqueued, ended, empty, enqueued_webhook_held reached enqueued⟩

end AcbuBackend.OutboundWebhooks

import AcbuBackend.OutboundWebhooks.NoneLost

/-! The deliveries of one webhook, by any number of calls.
The counter of attempts is kept in memory and written after each request, and one `try` holds both
the request and the write that records it. So the counter bounds the requests, and only webhooks
that were not accepted end as failed, where those writes take effect and the calls follow each
other.
-/

namespace AcbuBackend.OutboundWebhooks

open Effects Effects.Prog AcbuBackend.Runtime

-- The system

/-- The tables, and what the endpoint has seen of the webhook. -/
structure DeliveryWorld extends WebhookWorld where
  /-- The requests that were sent. -/
  posts : Nat := 0
  /-- Whether one was answered with success. -/
  accepted : Bool := false

/-- What a call is answered with. An `answer` of the endpoint other than success is thrown. -/
structure DeliveryChoice extends WebhookChoice where
  answer : Except JsError Unit := .ok ()

def deliveryEffect (x : DeliveryChoice) (w : DeliveryWorld)
    : (op : WebhookOp) → Except JsError op.Ret × DeliveryWorld
  | .post _ =>
      (x.answer, { w with posts := w.posts + 1, accepted := w.accepted || x.answer.isOk })
  | op =>
      let (reply, left) := webhookEffect x.toWebhookChoice w.toWebhookWorld op
      (reply, { w with toWebhookWorld := left })

/-- Every call may fail, at the endpoint by its answer. -/
def deliveryEnvironment : Environment webhookInterface DeliveryWorld DeliveryChoice where
  outcome x := x.outcome
  effect := deliveryEffect
  admissible
    | .post _, x, _ => x.outcome = .done
    | _, _, _ => true

def deliverySemantics : Semantics webhookInterface DeliveryWorld DeliveryChoice :=
  deliveryEnvironment.semantics

abbrev DeliveryConfig := Config webhookInterface DeliveryResult DeliveryWorld

def deliveryCalls (dep : Deployment) (webhookId : String) (calls : Nat)
    (webhooks : AList (fun _ : String => WebhookRow))
    : DeliveryConfig :=
  Config.initial { webhooks, queue := [], deadLetters := [] }
    (List.replicate calls (deliverWebhook dep webhookId))

abbrev maxAttemptsOf (dep : Deployment) : Nat :=
  (getRetryPolicyForUrl dep dep.webhookUrl).maxAttempts

-- Phases

/-- How far a call is, with its counter of attempts. -/
inductive DeliveryPhase
  | unread
  | unconfigured
  | ready (attempts : Nat)
  | answered (attempts : Nat) (success : Bool)
  | unrecorded (attempts : Nat)
  | closed

/-- A call that has read a webhook to be delivered and has not returned. -/
def DeliveryPhase.atWork : DeliveryPhase → Bool
  | .unread | .closed => false
  | _ => true

def failureStatus (dep : Deployment) (attempts : Nat) : String :=
  if maxAttemptsOf dep ≤ attempts then "failed" else "pending"

def readPhase (dep : Deployment) (row : WebhookRow) : DeliveryPhase :=
  if row.status = "completed" ∨ row.status = "failed" then .closed
  else if dep.webhookUrl = "" then .unconfigured
  else if row.attempts < maxAttemptsOf dep then .ready row.attempts
  else .closed

def failurePhase (dep : Deployment) (attempts : Nat) (written : Bool) : DeliveryPhase :=
  if written ∧ attempts < maxAttemptsOf dep then .ready attempts else .closed

def deliveryProtocol (dep : Deployment) (webhookId : String)
    : Protocol webhookInterface DeliveryPhase where
  next phase op reply :=
    match phase, op, reply with
    | .unread, .findWebhook id, .ok (some row) =>
        if id = webhookId then some (readPhase dep row) else none
    | .unread, .findWebhook _, _ => some .closed
    | .unconfigured, .updateWebhook id data, _ =>
        if id = webhookId ∧ data.status = "failed" ∧ data.attempts = none then some .closed
        else none
    | .ready attempts, .post _, reply =>
        if attempts < maxAttemptsOf dep then some (.answered attempts reply.isOk) else none
    | .ready attempts, .delay _, .ok _ => some (.ready attempts)
    | .ready _, .delay _, .error _ => some .closed
    | .answered attempts true, .updateWebhook id data, reply =>
        if id = webhookId ∧ data.status = "completed" ∧ data.attempts = some (attempts + 1)
        then some (if reply.isOk then .closed else .unrecorded attempts)
        else none
    | .answered attempts false, .updateWebhook id data, reply =>
        if id = webhookId ∧ data.status = failureStatus dep (attempts + 1)
          ∧ data.attempts = some (attempts + 1)
        then some (failurePhase dep (attempts + 1) reply.isOk)
        else none
    | .unrecorded attempts, .updateWebhook id data, reply =>
        if id = webhookId ∧ data.status = failureStatus dep (attempts + 2)
          ∧ data.attempts = some (attempts + 2)
        then some (failurePhase dep (attempts + 2) reply.isOk)
        else none
    | _, _, _ => none

section

variable {dep : Deployment} {webhookId : String} {row : WebhookRow}

/-- Calls end closed, with a value or an error. -/
abbrev Delivers (dep : Deployment) (webhookId : String)
    (prog : Prog webhookInterface DeliveryResult) (phase : DeliveryPhase) : Prop :=
  (deliveryProtocol dep webhookId).wp prog phase (fun _ phase => phase = .closed)
    (fun _ phase => phase = .closed)

theorem delivers_failure {attempts : Nat} {phase : DeliveryPhase}
    {rest : Prog webhookInterface DeliveryResult}
    (moves : ∀ data : WebhookUpdate, data.status = failureStatus dep attempts →
      data.attempts = some attempts → ∀ reply,
      (deliveryProtocol dep webhookId).next phase (.updateWebhook webhookId data) reply
        = some (failurePhase dep attempts reply.isOk))
    (later : attempts < maxAttemptsOf dep → Delivers dep webhookId rest (.ready attempts))
    {ms : Nat}
    : Delivers dep webhookId
        (do
          ask (.updateWebhook webhookId
            { status := if decide (maxAttemptsOf dep ≤ attempts) then "failed" else "pending",
              attempts := some attempts })
          if decide (maxAttemptsOf dep ≤ attempts) then pure { success := false, terminal := true }
          else do
            ask (.delay ms)
            rest)
        phase := by
  have status : (if decide (maxAttemptsOf dep ≤ attempts) then "failed" else "pending")
      = failureStatus dep attempts := by
    simp [failureStatus]
  refine Protocol.wp_bind.mpr (Protocol.wp_await.mpr ⟨fun _ => ?_, fun error => ?_⟩)
  · refine ⟨_, moves _ status rfl (.ok ()), ?_⟩
    by_cases terminal : maxAttemptsOf dep ≤ attempts
    · rw [if_pos (by simpa using terminal)]
      exact if_neg fun known => known.2.not_ge terminal
    · have below : attempts < maxAttemptsOf dep := not_le.mp terminal
      rw [if_neg (by simpa using terminal)]
      have phase_eq : failurePhase dep attempts (Except.ok () : Except JsError Unit).isOk
          = .ready attempts := if_pos ⟨rfl, below⟩
      rw [phase_eq]
      exact Protocol.wp_bind.mpr (Protocol.wp_await.mpr
        ⟨fun _ => ⟨_, rfl, later below⟩, fun _ => ⟨_, rfl, rfl⟩⟩)
  · exact ⟨_, moves _ status rfl (.error error), if_neg fun known => Bool.false_ne_true known.1⟩

theorem deliverLoop_delivers {rounds attempts : Nat} (below : attempts < maxAttemptsOf dep)
    (enough : maxAttemptsOf dep ≤ attempts + rounds)
    : Delivers dep webhookId (deliverLoop dep webhookId row attempts rounds) (.ready attempts) := by
  induction rounds generalizing attempts with
  | zero => omega
  | succ rounds ih =>
      unfold deliverLoop
      dsimp only
      rw [if_pos below]
      have posted : ∀ reply, (deliveryProtocol dep webhookId).next (.ready attempts)
          (.post (deliveryRequest dep webhookId row)) reply
            = some (.answered attempts reply.isOk) :=
        fun reply => if_pos below
      have later : ∀ counted, attempts < counted → counted < maxAttemptsOf dep →
          Delivers dep webhookId (deliverLoop dep webhookId row counted rounds) (.ready counted) :=
        fun counted more below => ih below (by omega)
      refine Protocol.wp_bind.mpr (Protocol.wp_catchWith.mpr (Protocol.wp_bind.mpr
        (Protocol.wp_await.mpr ⟨fun _ => ⟨_, posted (.ok ()), ?_⟩,
          fun error => ⟨_, posted (.error error), ?_⟩⟩)))
      · -- accepted: the write that records it may fail
        refine Protocol.wp_bind.mpr (Protocol.wp_catchWith.mpr (Protocol.wp_bind.mpr
          (Protocol.wp_await.mpr ⟨fun _ => ⟨.closed, if_pos ⟨rfl, rfl, rfl⟩, ?_⟩,
            fun error => ⟨.unrecorded attempts, if_pos ⟨rfl, rfl, rfl⟩, ?_⟩⟩)))
        · exact rfl
        · refine @delivers_failure dep webhookId (attempts + 2) _ _ ?_ (later _ (by omega)) _
          exact fun data status counted _ => if_pos ⟨rfl, status, counted⟩
      · refine @delivers_failure dep webhookId (attempts + 1) _ _ ?_ (later _ (by omega)) _
        exact fun data status counted _ => if_pos ⟨rfl, status, counted⟩

theorem deliverRow_delivers
    : Delivers dep webhookId (deliverRow dep webhookId row) (readPhase dep row) := by
  unfold deliverRow
  split
  · rename_i completed
    exact if_pos (.inl completed)
  split
  · rename_i failed
    exact if_pos (.inr failed)
  rename_i notCompleted notFailed
  have open_ : ¬(row.status = "completed" ∨ row.status = "failed") := by
    simp [notCompleted, notFailed]
  split
  · rename_i unconfigured
    have phase_eq : readPhase dep row = .unconfigured := by
      simp [readPhase, open_, unconfigured]
    rw [phase_eq]
    exact Protocol.wp_bind.mpr (Protocol.wp_await.mpr
      ⟨fun _ => ⟨.closed, if_pos ⟨rfl, rfl, rfl⟩, rfl⟩,
        fun _ => ⟨.closed, if_pos ⟨rfl, rfl, rfl⟩, rfl⟩⟩)
  rename_i configured
  by_cases below : row.attempts < maxAttemptsOf dep
  · have phase_eq : readPhase dep row = .ready row.attempts := by
      simp [readPhase, open_, configured, below]
    rw [phase_eq]
    exact deliverLoop_delivers below (Nat.le_add_left _ _)
  · have phase_eq : readPhase dep row = .closed := by
      simp [readPhase, open_, configured, below]
    rw [phase_eq]
    cases (getRetryPolicyForUrl dep dep.webhookUrl).maxAttempts with
    | zero => exact rfl
    | succ rounds =>
        unfold deliverLoop
        dsimp only
        rw [if_neg below]
        exact rfl

theorem deliverWebhook_delivers
    : Delivers dep webhookId (deliverWebhook dep webhookId) .unread := by
  refine Protocol.wp_bind.mpr (Protocol.wp_await.mpr ⟨fun webhook => ?_, fun _ => ⟨_, rfl, rfl⟩⟩)
  cases webhook with
  | none => exact ⟨.closed, rfl, rfl⟩
  | some row => exact ⟨readPhase dep row, if_pos rfl, deliverRow_delivers⟩

end

-- The condition

/-- The write of a counter takes effect, and that of an accepted request reports so. -/
def recorded : WebhookOp → DeliveryChoice → Bool
  | .updateWebhook _ data, x =>
      if data.status = "completed" then !x.outcome.isFailed && !x.outcome.isLost
      else data.attempts.isNone || !x.outcome.isFailed
  | _, _ => true

def isRead : WebhookOp → Bool
  | .findWebhook _ => true
  | _ => false

/-- A call has read the webhook and has not returned. -/
def underWay (c : DeliveryConfig) (i : Nat) : Bool :=
  c.live i && !(c.past i).isEmpty

/-- The writes take effect, and nobody reads the webhook while another call is under way. -/
def Serial (c : DeliveryConfig) (i : Nat) (x : DeliveryChoice) : Prop :=
  (c.pending? i).all (recorded · x) = true
  ∧ ((c.pending? i).any isRead = true →
      ∀ j < c.threads.length, j ≠ i → underWay c j = false)

instance {c : DeliveryConfig} {i : Nat} {x : DeliveryChoice} : Decidable (Serial c i x) :=
  inferInstanceAs (Decidable (_ ∧ _))

-- The count of attempts

/-- What the row says in a phase of the one call under way, or while there is none. -/
def Counts (dep : Deployment) (first posts : Nat) (accepted : Bool) (row : WebhookRow)
    : DeliveryPhase → Prop
  | .unread | .closed =>
      posts + first ≤ row.attempts ∧ (accepted = true → row.status = "completed")
  | .unconfigured => posts + first ≤ row.attempts ∧ accepted = false
  | .ready attempts =>
      posts + first ≤ attempts ∧ row.attempts = attempts ∧ accepted = false
        ∧ row.status ≠ "failed"
  | .answered attempts success =>
      posts + first ≤ attempts + 1 ∧ attempts < maxAttemptsOf dep ∧ accepted = success
        ∧ row.status ≠ "failed"
  | .unrecorded _ => False

/-- The row is there, the requests are within the limit, and the row accounts for them. -/
structure Accounted (dep : Deployment) (webhookId : String) (first : Nat) (phase : DeliveryPhase)
    (w : DeliveryWorld) : Prop where
  bounded : w.posts = 0 ∨ w.posts + first ≤ maxAttemptsOf dep
  counts : ∃ row, w.webhooks.lookup webhookId = some row
    ∧ Counts dep first w.posts w.accepted row phase

section

variable {dep : Deployment} {webhookId : String} {first i : Nat} {x : DeliveryChoice}
  {w w' : DeliveryWorld} {phase phase' : DeliveryPhase}

theorem update_act {id : String} {data : WebhookUpdate} {row : WebhookRow}
    {reply : Except JsError Unit}
    (answered : deliverySemantics.act i (.updateWebhook id data) x w = some (reply, w'))
    (there : w.webhooks.lookup id = some row)
    : x.outcome.isFailed = true ∧ w' = w ∧ reply.isOk = false
      ∨ w' = { w with webhooks := w.webhooks.insert id (row.updated data) }
        ∧ (reply.isOk = true ∨ x.outcome.isLost = true) := by
  have effect : deliveryEffect x w (.updateWebhook id data)
      = (.ok (), { w with webhooks := w.webhooks.insert id (row.updated data) }) := by
    simp [deliveryEffect, webhookEffect, there]
  obtain ⟨-, ⟨same, failed, _, rfl⟩ | ⟨left, told⟩⟩ := Environment.outcome_cases answered
  · exact .inl ⟨failed, same, rfl⟩
  · have left : w' = (deliveryEffect x w (.updateWebhook id data)).2 := left
    rw [effect] at left
    refine .inr ⟨left, ?_⟩
    rcases told with told | ⟨lost, -⟩
    · have told : reply = (deliveryEffect x w (.updateWebhook id data)).1 := told
      rw [effect] at told
      exact .inl (told ▸ rfl)
    · exact .inr lost

theorem post_act {request : WebhookRequest} {reply : Except JsError Unit}
    (answered : deliverySemantics.act i (.post request) x w = some (reply, w'))
    : w' = { w with posts := w.posts + 1, accepted := w.accepted || reply.isOk } := by
  obtain ⟨possible, answer⟩ := Environment.act_eq_some answered
  have done : x.outcome = .done := of_decide_eq_true possible
  have outcome : deliveryEnvironment.outcome x = .done := done
  rw [outcome] at answer
  obtain ⟨rfl, rfl⟩ := Prod.mk.inj answer
  rfl

theorem find_act {id : String} {reply : Except JsError (Option WebhookRow)}
    (answered : deliverySemantics.act i (.findWebhook id) x w = some (reply, w'))
    : w' = w ∧ ∀ row, reply = .ok (some row) →
        ∃ stored, w.webhooks.lookup id = some stored
          ∧ row.status = stored.status ∧ row.attempts = stored.attempts := by
  obtain ⟨-, ⟨same, -, _, rfl⟩ | ⟨left, told⟩⟩ := Environment.outcome_cases answered
  · refine ⟨same, ?_⟩
    intro row found
    cases found
  · refine ⟨left, ?_⟩
    rintro row rfl
    rcases told with told | ⟨-, _, absurd⟩
    · have told : Except.ok (some row)
          = (.ok ((w.webhooks.lookup id).map (fun row => { row with payload := x.payload }))
            : Except JsError (Option WebhookRow)) := told
      obtain ⟨stored, there, rfl⟩ := Option.map_eq_some_iff.mp (Except.ok.inj told).symm
      exact ⟨stored, there, rfl, rfl⟩
    · cases absurd

theorem delay_act {ms : Nat} {reply : Except JsError Unit}
    (answered : deliverySemantics.act i (.delay ms) x w = some (reply, w'))
    : w' = w := by
  obtain ⟨-, ⟨same, -⟩ | ⟨left, -⟩⟩ := Environment.outcome_cases answered
  · exact same
  · exact left

theorem accounted_failure {row : WebhookRow} {data : WebhookUpdate} {attempts : Nat}
    {written : Bool}
    (bounded : w.posts = 0 ∨ w.posts + first ≤ maxAttemptsOf dep)
    (sent : w.posts + first ≤ attempts) (refused : w.accepted = false)
    (status : data.status = failureStatus dep attempts) (counted : data.attempts = some attempts)
    : Accounted dep webhookId first (failurePhase dep attempts written)
        { w with webhooks := w.webhooks.insert webhookId (row.updated data) } := by
  refine ⟨bounded, _, AList.lookup_insert _, ?_⟩
  unfold failurePhase
  split
  · rename_i going
    refine ⟨sent, by simp [WebhookRow.updated, counted], refused, ?_⟩
    have pending : data.status = "pending" :=
      status.trans (if_neg (not_le.mpr going.2))
    simp [WebhookRow.updated, pending]
  · refine ⟨?_, fun success => absurd success (by simp [refused])⟩
    simpa [WebhookRow.updated, counted] using sent

theorem Accounted.step {op : WebhookOp} {reply : webhookInterface.Reply op}
    (h : Accounted dep webhookId first phase w)
    (answered : deliverySemantics.act i op x w = some (reply, w'))
    (moved : (deliveryProtocol dep webhookId).next phase op reply = some phase')
    (takesEffect : recorded op x = true)
    : Accounted dep webhookId first phase' w' := by
  obtain ⟨bounded, row, there, counts⟩ := h
  cases phase with
  | unread =>
      cases op with
      | findWebhook id =>
          obtain ⟨rfl, read⟩ := find_act answered
          have closed : Accounted dep webhookId first .closed w' := ⟨bounded, row, there, counts⟩
          cases reply with
          | error error =>
              cases moved
              exact closed
          | ok webhook =>
              cases webhook with
              | none =>
                  cases moved
                  exact closed
              | some found =>
                  simp only [deliveryProtocol, Option.ite_none_right_eq_some] at moved
                  obtain ⟨rfl, moved⟩ := moved
                  obtain ⟨stored, there', status, attempts⟩ := read found rfl
                  obtain rfl := Option.some.inj (there.symm.trans there')
                  cases moved
                  unfold readPhase
                  split
                  · exact closed
                  rename_i undecided
                  rw [status] at undecided
                  have refused : w'.accepted = false := by
                    by_contra success
                    exact undecided (.inl (counts.2 (by simpa using success)))
                  split
                  · exact ⟨bounded, row, there, counts.1, refused⟩
                  split
                  · refine ⟨bounded, row, there, ?_, attempts.symm, refused, ?_⟩
                    · rw [attempts]
                      exact counts.1
                    · exact fun failed => undecided (.inr failed)
                  · exact closed
      | _ => cases moved
  | unconfigured =>
      cases op with
      | updateWebhook id data =>
          simp only [deliveryProtocol, Option.ite_none_right_eq_some] at moved
          obtain ⟨⟨rfl, -, uncounted⟩, moved⟩ := moved
          cases moved
          have closed : Counts dep first w.posts w.accepted row .closed :=
            ⟨counts.1, fun success => absurd success (by simp [counts.2])⟩
          rcases update_act answered there with ⟨-, rfl, -⟩ | ⟨rfl, -⟩
          · exact ⟨bounded, row, there, closed⟩
          · refine ⟨bounded, _, AList.lookup_insert _, ?_, ?_⟩
            · simpa [WebhookRow.updated, uncounted] using counts.1
            · exact fun success => absurd success (by simp [counts.2])
      | _ => cases moved
  | ready attempts =>
      obtain ⟨sent, stored, refused, status⟩ := counts
      cases op with
      | post request =>
          simp only [deliveryProtocol, Option.ite_none_right_eq_some] at moved
          obtain ⟨below, moved⟩ := moved
          cases moved
          obtain rfl := post_act answered
          refine ⟨.inr ?_, row, there, ?_, below, ?_, status⟩
          · change w.posts + 1 + first ≤ _
            omega
          · change w.posts + 1 + first ≤ _
            omega
          · simp [refused]
      | delay ms =>
          obtain rfl := delay_act answered
          cases reply with
          | ok _ =>
              cases moved
              exact ⟨bounded, row, there, sent, stored, refused, status⟩
          | error _ =>
              cases moved
              refine ⟨bounded, row, there, stored ▸ sent, ?_⟩
              exact fun success => absurd success (by simp [refused])
      | _ => cases moved
  | answered attempts success =>
      obtain ⟨sent, below, same, status⟩ := counts
      cases op with
      | updateWebhook id data =>
          cases success with
          | true =>
              simp only [deliveryProtocol, Option.ite_none_right_eq_some] at moved
              obtain ⟨⟨rfl, completed, counted⟩, moved⟩ := moved
              cases moved
              have took : x.outcome.isFailed = false ∧ x.outcome.isLost = false := by
                simpa [recorded, completed] using takesEffect
              rcases update_act answered there with ⟨failed, -⟩ | ⟨rfl, told⟩
              · rw [took.1] at failed
                cases failed
              · have ok : Except.isOk reply = true := by
                  rcases told with ok | lost
                  · exact ok
                  · rw [took.2] at lost
                    cases lost
                rw [if_pos ok]
                refine ⟨bounded, _, AList.lookup_insert _, ?_, fun _ => completed⟩
                simpa [WebhookRow.updated, counted] using sent
          | false =>
              simp only [deliveryProtocol, Option.ite_none_right_eq_some] at moved
              obtain ⟨⟨rfl, failure, counted⟩, moved⟩ := moved
              cases moved
              have took : x.outcome.isFailed = false := by
                unfold recorded at takesEffect
                dsimp only at takesEffect
                split at takesEffect
                · exact (by simpa using takesEffect : _ ∧ _).1
                · simpa [counted] using takesEffect
              rcases update_act answered there with ⟨failed, -⟩ | ⟨rfl, -⟩
              · rw [took] at failed
                cases failed
              · exact accounted_failure bounded sent same failure counted
      | _ => cases success <;> cases moved
  | unrecorded attempts => exact counts.elim
  | closed => cases op <;> cases moved

end

-- Runs

/-- Every thread is a delivery of the webhook. -/
abbrev Deliveries (dep : Deployment) (webhookId : String) (c : DeliveryConfig) : Prop :=
  (deliveryProtocol dep webhookId).Governs (fun _ => .unread)
    (fun _ _ phase => phase = .closed) (fun _ _ phase => phase = .closed) c

abbrev deliveryPhase (dep : Deployment) (webhookId : String) (c : DeliveryConfig) (i : Nat)
    : DeliveryPhase :=
  (deliveryProtocol dep webhookId).phase (fun _ => .unread) c i

/-- One call is under way at most, and its phase accounts for the requests. -/
def Accountable (dep : Deployment) (webhookId : String) (first : Nat) (c : DeliveryConfig) : Prop :=
  ∃ i, (∀ j, j ≠ i → (deliveryPhase dep webhookId c j).atWork = false)
    ∧ Accounted dep webhookId first (deliveryPhase dep webhookId c i) c.world

section

variable {dep : Deployment} {webhookId : String} {first i : Nat} {x : DeliveryChoice}
  {c c' : DeliveryConfig}

theorem underWay_of_atWork (governed : Deliveries dep webhookId c)
    (atWork : (deliveryPhase dep webhookId c i).atWork = true)
    : i < c.threads.length ∧ underWay c i = true := by
  have bound : i < c.threads.length := by
    by_contra outside
    have unread : deliveryPhase dep webhookId c i = .unread :=
      Protocol.phase_of_none _ (List.getElem?_eq_none (not_lt.mp outside))
    rw [unread] at atWork
    cases atWork
  refine ⟨bound, Bool.and_eq_true_iff.mpr ⟨?_, ?_⟩⟩
  · by_contra ended
    have closed : deliveryPhase dep webhookId c i = .closed := by
      rcases Config.ended_cases bound (Bool.eq_false_iff.mpr ended) with ⟨_, value⟩ | ⟨_, error⟩
      · exact governed.value value
      · exact governed.error error
    rw [closed] at atWork
    cases atWork
  · by_contra fresh
    have past : c.past i = [] := by simpa using fresh
    have unread : deliveryPhase dep webhookId c i = .unread := by
      simp [deliveryPhase, Protocol.phase, past, Protocol.replay]
    rw [unread] at atWork
    cases atWork

theorem Accounted.of_idle {phase phase' : DeliveryPhase} {w : DeliveryWorld}
    (h : Accounted dep webhookId first phase w) (idle : phase.atWork = false)
    (idle' : phase'.atWork = false)
    : Accounted dep webhookId first phase' w := by
  obtain ⟨bounded, row, there, counts⟩ := h
  refine ⟨bounded, row, there, ?_⟩
  cases phase with
  | unread | closed =>
      cases phase' with
      | unread | closed => exact counts
      | _ => cases idle'
  | _ => cases idle

theorem isRead_of_idle {phase phase' : DeliveryPhase} {op : WebhookOp}
    {reply : webhookInterface.Reply op}
    (moved : (deliveryProtocol dep webhookId).next phase op reply = some phase')
    (idle : phase.atWork = false)
    : isRead op = true := by
  cases phase with
  | unread =>
      cases op with
      | findWebhook _ => rfl
      | _ => cases moved
  | closed => cases op <;> cases moved
  | _ => cases idle

theorem Accountable.step (governed : Deliveries dep webhookId c)
    (h : Accountable dep webhookId first c) (serial : Serial c i x)
    (stepped : c.step deliverySemantics i x = some c')
    : Accountable dep webhookId first c' := by
  obtain ⟨op, reply, -, pending, answered, moved, -, others, -⟩ := governed.step_cases stepped
  obtain ⟨one, rest, accounted⟩ := h
  have takesEffect : recorded op x = true := by
    have all := serial.1
    rw [pending] at all
    exact all
  have accounted_i : Accounted dep webhookId first (deliveryPhase dep webhookId c i) c.world
      ∧ ∀ j, j ≠ i → (deliveryPhase dep webhookId c j).atWork = false := by
    by_cases same : i = one
    · exact same ▸ ⟨accounted, rest⟩
    · -- it reads, so nobody is at work
      have idle := rest i same
      have reads : (c.pending? i).any isRead = true := by
        rw [pending]
        exact isRead_of_idle moved idle
      have alone : ∀ j, j ≠ i → (deliveryPhase dep webhookId c j).atWork = false := by
        intro j different
        by_contra atWork
        obtain ⟨bound, going⟩ := underWay_of_atWork governed (by simpa using atWork)
        rw [serial.2 reads j bound different] at going
        cases going
      exact ⟨accounted.of_idle (alone one (Ne.symm same)) idle, alone⟩
  refine ⟨i, fun j different => ?_, ?_⟩
  · have kept := (others j different).1
    unfold deliveryPhase
    rw [kept]
    exact accounted_i.2 j different
  · exact accounted_i.1.step answered moved takesEffect

theorem Accounted.outcome {phase : DeliveryPhase} {w : DeliveryWorld}
    (h : Accounted dep webhookId first phase w)
    : w.posts ≤ maxAttemptsOf dep
      ∧ ∀ row, w.webhooks.lookup webhookId = some row → row.status = "failed" →
          w.accepted = false := by
  obtain ⟨bounded, row, there, counts⟩ := h
  refine ⟨by omega, ?_⟩
  intro found there' failed
  obtain rfl := Option.some.inj (there.symm.trans there')
  cases phase with
  | unread | closed =>
      by_contra success
      have completed := counts.2 (by simpa using success)
      rw [failed] at completed
      exact absurd completed (by decide)
  | unconfigured => exact counts.2
  | ready _ => exact counts.2.2.1
  | answered _ _ => exact absurd failed counts.2.2.2
  | unrecorded _ => exact counts.elim

end

/-- Where the writes take effect and the calls follow each other, any number of calls send no more
requests than attempts are allowed, and a failed webhook was never accepted.
-/
theorem delivery_outcome (dep : Deployment) (webhookId : String) (calls : Nat)
    (webhooks : AList (fun _ : String => WebhookRow)) (row : WebhookRow)
    (there : webhooks.lookup webhookId = some row) (c : DeliveryConfig)
    (reached : Config.Reaches deliverySemantics Serial
      (deliveryCalls dep webhookId calls webhooks) c)
    : c.world.posts ≤ maxAttemptsOf dep
      ∧ ∀ left, c.world.webhooks.lookup webhookId = some left → left.status = "failed" →
          c.world.accepted = false := by
  have start : Deliveries dep webhookId (deliveryCalls dep webhookId calls webhooks) := by
    refine Protocol.governs_initial fun j prog found => ?_
    obtain rfl := List.eq_of_mem_replicate (List.mem_of_getElem? found)
    exact deliverWebhook_delivers
  have base : Accountable dep webhookId row.attempts
      (deliveryCalls dep webhookId calls webhooks) := by
    have unread : ∀ j, deliveryPhase dep webhookId (deliveryCalls dep webhookId calls webhooks) j
        = .unread :=
      fun j => Protocol.phase_initial _
    refine ⟨0, fun j _ => ?_, .inl rfl, row, there, ?_⟩
    · rw [unread]
      rfl
    · rw [unread]
      exact ⟨Nat.zero_add _ |>.le, fun success => absurd success Bool.false_ne_true⟩
  obtain ⟨-, one, -, accounted⟩ := start.invariant base
    (fun _ _ _ _ governed h serial stepped => h.step governed serial stepped) reached
  exact accounted.outcome

def pendingRow (attempts : Nat) : WebhookRow where
  payload := .null
  signature := none
  status := "pending"
  attempts := attempts

def pendingWebhook (attempts : Nat) : AList (fun _ : String => WebhookRow) :=
  AList.singleton "webhook" (pendingRow attempts)

def refused : DeliveryChoice where
  answer := .error (.error "Request failed with status code 500")

def writeFails : DeliveryChoice where
  outcome := .failed (.error "connection lost")

/-- A request is refused, and the next one accepted. -/
theorem delivery_outcome_retried
    : ∃ c, Config.Reaches deliverySemantics Serial
          (deliveryCalls lostDeployment "webhook" 2 (pendingWebhook 0)) c
        ∧ c.world.posts = 2
        ∧ c.world.posts ≤ maxAttemptsOf lostDeployment
        ∧ ∀ left, c.world.webhooks.lookup "webhook" = some left → left.status = "failed" →
            c.world.accepted = false := by
  have executed : ((deliveryCalls lostDeployment "webhook" 2 (pendingWebhook 0)).run
      deliverySemantics Serial [(0, {}), (0, refused), (0, {}), (0, {}), (0, {}), (0, {}),
        (1, {})]).map
      (fun c => c.world.posts) = some 2 := by
    decide +kernel
  obtain ⟨c, reached, posts⟩ := Config.reaches_of_run executed
  exact ⟨c, reached, posts,
    delivery_outcome lostDeployment "webhook" 2 (pendingWebhook 0) (pendingRow 0) rfl c reached⟩

/-- A webhook that was accepted ends as failed, where the write that records it fails; and six calls
send six requests, where the writes of their counters fail.
-/
theorem accepted_webhook_failed
    : (∃ c, Config.Reaches deliverySemantics Config.anyStep
          (deliveryCalls lostDeployment "webhook" 1 (pendingWebhook 3)) c
        ∧ c.world.accepted = true
        ∧ (c.world.webhooks.lookup "webhook").map WebhookRow.status = some "failed")
      ∧ ∃ c, Config.Reaches deliverySemantics Config.anyStep
          (deliveryCalls lostDeployment "webhook" 6 (pendingWebhook 0)) c
        ∧ maxAttemptsOf lostDeployment < c.world.posts := by
  constructor
  · have executed : ((deliveryCalls lostDeployment "webhook" 1 (pendingWebhook 3)).run
        deliverySemantics Config.anyStep [(0, {}), (0, {}), (0, writeFails), (0, {})]).map
        (fun c => (c.world.accepted,
          (c.world.webhooks.lookup "webhook").map WebhookRow.status))
        = some (true, some "failed") := by
      decide +kernel
    obtain ⟨c, reached, read⟩ := Config.reaches_of_run executed
    obtain ⟨accepted, status⟩ := Prod.mk.inj read
    exact ⟨c, reached, accepted, status⟩
  · have executed : ((deliveryCalls lostDeployment "webhook" 6 (pendingWebhook 0)).run
        deliverySemantics Config.anyStep
        ((List.range 6).flatMap (fun i => [(i, {}), (i, refused), (i, writeFails)]))).map
        (fun c => decide (maxAttemptsOf lostDeployment < c.world.posts)) = some true := by
      decide +kernel
    obtain ⟨c, reached, more⟩ := Config.reaches_of_run executed
    exact ⟨c, reached, of_decide_eq_true more⟩

end AcbuBackend.OutboundWebhooks

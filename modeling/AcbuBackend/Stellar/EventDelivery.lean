import AcbuBackend.Stellar.EventListener

/-! What the cursor of a contract is behind.
The cursor moves past an effect after its handlers have been run. By then each of them has
succeeded, or its failure is captured; or the capture has failed, and that is logged.
-/

namespace AcbuBackend.Stellar

open Effects AcbuBackend.Runtime

-- Horizon and the world

/-- What has to be done about an effect: to run a handler on its event, or to capture that it is
none.
-/
inductive Duty
  | handle (handler : Handler) (event : ContractEvent)
  | parse (registeredContractId : String) (effect : RawContractEffect)
deriving DecidableEq

def duties (listener : Listener) (registeredContractId : String) (effect : RawContractEffect)
    : List Duty :=
  match parseEffect listener.dateParse registeredContractId effect with
  | .error _ => [.parse registeredContractId effect]
  | .ok event =>
      ((handlersOf listener event).filter (fun handler => handler.applies event)).map
      (.handle · event)

def Failure.duty : Failure → Duty
  | .parse registeredContractId effect _ => .parse registeredContractId effect
  | .handler failed event _ => .handle failed event

/-- The effects of every contract in their order, and how many of them are up to a token: the token
of an effect is up to that effect.
-/
structure Horizon where
  effects : String → List RawContractEffect
  position : String → String → Nat
  position_token : ∀ contractId k effect token, (effects contractId)[k]? = some effect →
    cursorOf effect = .ok (some token) → position contractId token = k + 1

/-- How many effects of a contract are up to a cursor. -/
def Horizon.upTo (horizon : Horizon) (contractId : String) (cursor : Option String) : Nat :=
  match cursor.filter (fun cursor => cursor ≠ "") with
  | none => 0
  | some token => horizon.position contractId token

/-- The cursors of the listener, and the duties that are done: a handler has succeeded, a failure
has been captured, or logged.
-/
structure World where
  contractCursors : String → Option String
  defaultCursor : Option String
  succeeded : List Duty
  captured : List Duty
  logged : List Duty

def World.cursor (w : World) (contractId : String) : Option String :=
  (w.contractCursors contractId).or w.defaultCursor

/-- What becomes of a call, and how many effects a page has at most. -/
structure ListenerChoice where
  outcome : Outcome String := .done
  available : Nat := 200

/-- What a call answers, and the world it leaves. -/
def listenerEffect (horizon : Horizon) (x : ListenerChoice) (w : World)
    : (op : ListenerOp) → Except String op.Ret × World
  | .getCursor contractId => (.ok (w.cursor contractId), w)
  | .setCursor contractId cursor =>
      (.ok (), { w with
        contractCursors := fun other => if other = contractId then some cursor else
          w.contractCursors other })
  | .fetchEffects contractId cursor limit =>
      (.ok (((horizon.effects contractId).drop (horizon.upTo contractId cursor)).take
        (min limit x.available)), w)
  | .handle handler event => (.ok (), { w with succeeded := .handle handler event :: w.succeeded })
  | .connectRabbitMQ => (.ok (), w)
  | .assertQueue => (.ok (), w)
  | .sendToQueue failure => (.ok (), { w with captured := failure.duty :: w.captured })
  | .logError failure => (.ok (), { w with logged := failure.duty :: w.logged })

/-- The listener's own maps do not fail, nor does logging. -/
def admissible (op : ListenerOp) (x : ListenerChoice) (_ : World) : Bool :=
  match op with
  | .getCursor _ | .setCursor .. | .logError _ => !x.outcome.isLost && !x.outcome.isFailed
  | _ => true

def listenerEnvironment (horizon : Horizon) : Environment listenerInterface World ListenerChoice
    where
  outcome := ListenerChoice.outcome
  effect := listenerEffect horizon
  admissible := admissible

def listenerSemantics (horizon : Horizon) : Semantics listenerInterface World ListenerChoice :=
  (listenerEnvironment horizon).semantics

/-- A duty is done, or its failure is in the log. -/
def World.Settled (w : World) (duty : Duty) : Prop :=
  duty ∈ w.succeeded ∨ duty ∈ w.captured ∨ duty ∈ w.logged

/-- The duties about the effects of a contract between two positions are settled. -/
def SettledBetween (horizon : Horizon) (listener : Listener) (contractId : String)
    (start stop : Nat) (w : World)
    : Prop :=
  ∀ k effect, start ≤ k → k < stop → (horizon.effects contractId)[k]? = some effect →
    ∀ duty ∈ duties listener contractId effect, w.Settled duty

-- The calls of the listener

def settledUpTo (listener : Listener) (contractId token : String) (settled : List Duty)
    : List RawContractEffect → Bool
  | [] => false
  | effect :: rest =>
      (duties listener contractId effect).all (settled.contains ·)
        && (cursorOf effect = .ok (some token) || settledUpTo listener contractId token settled
          rest)

/-- What a poll knows: the cursor it has read, the page that was fetched after a cursor, and the
duties that it has settled.
-/
structure Progress where
  cursor : Option (String × Option String) := none
  page : Option (String × Option String × List RawContractEffect) := none
  settled : List Duty := []

def Progress.settle (p : Progress) (duty : Duty) : Progress :=
  { p with settled := duty :: p.settled }

/-- A page is fetched after the cursor that was read, and the cursor is moved to an effect of the
page up to which the duties are settled.
-/
def deliveryProtocol (listener : Listener) : Protocol listenerInterface Progress where
  next
    | p, .getCursor contractId, reply =>
        some { p with cursor := reply.toOption.map (fun cursor =>
          (contractId, cursor.filter (fun cursor => cursor ≠ ""))) }
    | p, .fetchEffects contractId cursor _, reply =>
        if p.cursor = some (contractId, cursor) then
          some { p with page := reply.toOption.map (fun records => (contractId, cursor, records)) }
        else none
    | p, .handle handler event, reply =>
        some (if Except.isOk reply then p.settle (.handle handler event) else p)
    | p, .sendToQueue failure, reply =>
        some (if Except.isOk reply then p.settle failure.duty else p)
    | p, .logError failure, _ => some (p.settle failure.duty)
    | p, .setCursor contractId token, _ =>
        if p.page.any (fun (id, _, records) =>
          id = contractId && settledUpTo listener contractId token p.settled records) then some p
        else none
    | p, _, _ => some p

/-- The page stays, and so does what is settled. -/
def Progress.Extends (p p' : Progress) : Prop :=
  p'.page = p.page ∧ ∀ duty ∈ p.settled, duty ∈ p'.settled

theorem Progress.Extends.refl (p : Progress) : p.Extends p :=
  ⟨rfl, fun _ settled => settled⟩

theorem Progress.Extends.trans {p p' p'' : Progress} (h : p.Extends p') (h' : p'.Extends p'')
    : p.Extends p'' :=
  ⟨h'.1.trans h.1, fun duty settled => h'.2 duty (h.2 duty settled)⟩

theorem Progress.extends_settle (p : Progress) (duty : Duty) : p.Extends (p.settle duty) :=
  ⟨rfl, fun _ => List.mem_cons_of_mem duty⟩

section

variable {listener : Listener} {p : Progress}

theorem wp_captureFailure {failure : Failure}
    : (deliveryProtocol listener).wp (captureFailure failure) p
        (fun _ p' => p.Extends p' ∧ failure.duty ∈ p'.settled) (fun _ _ => False) := by
  have logs : (deliveryProtocol listener).wp ((issue (.logError failure)).swallow) p
      (fun _ p' => p.Extends p' ∧ failure.duty ∈ p'.settled) (fun _ _ => False) := by
    have settled := And.intro (p.extends_settle failure.duty)
      (List.mem_cons_self : failure.duty ∈ (p.settle failure.duty).settled)
    exact Protocol.wp_swallow.mpr
      (Protocol.wp_await.mpr ⟨fun _ => ⟨_, rfl, settled⟩, fun _ => ⟨_, rfl, settled⟩⟩)
  unfold captureFailure
  rw [Protocol.wp_catchWith]
  simp only [Protocol.wp_bind]
  refine Protocol.wp_await.mpr ⟨fun _ => ⟨_, rfl, ?_⟩, fun _ => ⟨_, rfl, logs⟩⟩
  refine Protocol.wp_await.mpr ⟨fun _ => ⟨_, rfl, ?_⟩, fun _ => ⟨_, rfl, logs⟩⟩
  exact Protocol.wp_await.mpr
    ⟨fun _ => ⟨_, rfl, p.extends_settle failure.duty, List.mem_cons_self⟩, fun _ => ⟨_, rfl, logs⟩⟩

theorem wp_withRetries {α : Type} {body : Prog listenerInterface α} (inv : Progress → Prop)
    {Q : α → Progress → Prop}
    (attempt : ∀ p, inv p → (deliveryProtocol listener).wp body p Q (fun _ => inv)) (retries : Nat)
    (start : inv p)
    : (deliveryProtocol listener).wp (withRetries body retries) p Q (fun _ => inv) := by
  induction retries generalizing p with
  | zero => exact attempt p start
  | succ retries ih =>
      unfold withRetries
      rw [Protocol.wp_catchWith]
      exact Protocol.wp_mono (attempt p start) (fun _ _ kept => kept) fun _ _ kept => ih kept

theorem wp_runHandler {handler : Handler} {event : ContractEvent}
    : (deliveryProtocol listener).wp (runHandler handler event) p
        (fun _ p' => p.Extends p' ∧ (handler.applies event = true
          → .handle handler event ∈ p'.settled))
        (fun _ p' => p' = p) := by
  unfold runHandler
  split
  · exact Protocol.wp_await.mpr
      ⟨fun _ => ⟨_, rfl, p.extends_settle _, fun _ => List.mem_cons_self⟩, fun _ => ⟨_, rfl, rfl⟩⟩
  · rename_i other
    exact ⟨.refl p, fun applies => absurd applies other⟩

theorem wp_invokeHandlerWithRetry {handler : Handler} {event : ContractEvent}
    : (deliveryProtocol listener).wp (invokeHandlerWithRetry handler event) p
        (fun _ p' => p.Extends p' ∧ (handler.applies event = true
          → .handle handler event ∈ p'.settled))
        (fun _ _ => False) := by
  unfold invokeHandlerWithRetry
  rw [Protocol.wp_catchWith]
  refine Protocol.wp_mono (wp_withRetries (· = p) ?_ _ rfl) (fun _ _ done => done) ?_
  · rintro _ rfl
    exact wp_runHandler
  · rintro error _ rfl
    exact Protocol.wp_mono wp_captureFailure (fun _ _ done => ⟨done.1, fun _ => done.2⟩)
      fun _ _ => id

theorem wp_invokeHandlers {event : ContractEvent} {handlers : List Handler}
    : (deliveryProtocol listener).wp (invokeHandlers event handlers) p
        (fun _ p' => p.Extends p' ∧ ∀ handler ∈ handlers, handler.applies event = true →
          .handle handler event ∈ p'.settled)
        (fun _ _ => False) := by
  induction handlers generalizing p with
  | nil => exact ⟨.refl p, fun _ absurd => by cases absurd⟩
  | cons handler rest ih =>
      unfold invokeHandlers
      rw [Protocol.wp_bind]
      refine Protocol.wp_mono wp_invokeHandlerWithRetry (fun _ p' first => ?_) fun _ _ => id
      refine Protocol.wp_mono ih (fun _ p'' others => ?_) fun _ _ => id
      refine ⟨first.1.trans others.1, List.forall_mem_cons.mpr ⟨fun applies => ?_, others.2⟩⟩
      exact others.1.2 _ (first.2 applies)

theorem wp_dispatchRawEffect {contractId : String} {effect : RawContractEffect}
    : (deliveryProtocol listener).wp (dispatchRawEffect listener contractId effect) p
        (fun _ p' => p.Extends p' ∧ ∀ duty ∈ duties listener contractId effect, duty ∈ p'.settled)
        (fun _ _ => False) := by
  unfold dispatchRawEffect
  rw [Protocol.wp_catchWith, Protocol.wp_bind]
  refine Protocol.wp_fromExcept.mpr ⟨fun event parsed => ?_, fun message parsed => ?_⟩
  · refine Protocol.wp_mono wp_invokeHandlers (fun _ p' done => ⟨done.1, fun duty due => ?_⟩)
      fun _ _ absurd => False.elim absurd
    unfold duties at due
    rw [parsed] at due
    obtain ⟨handler, member, rfl⟩ := List.mem_map.mp due
    obtain ⟨member, applies⟩ := List.mem_filter.mp member
    exact done.2 handler member applies
  · refine Protocol.wp_mono wp_captureFailure (fun _ p' done => ⟨done.1, fun duty due => ?_⟩)
      fun _ _ => id
    unfold duties at due
    rw [parsed] at due
    obtain rfl := List.mem_singleton.mp due
    exact done.2

/-- The duties about the effects of a list are settled. -/
def Progress.Done (listener : Listener) (contractId : String) (p : Progress)
    (effects : List RawContractEffect)
    : Prop :=
  ∀ effect ∈ effects, ∀ duty ∈ duties listener contractId effect, duty ∈ p.settled

theorem settledUpTo_of_done {contractId token : String} {before rest : List RawContractEffect}
    {effect : RawContractEffect} (done : p.Done listener contractId (before ++ [effect]))
    (here : cursorOf effect = .ok (some token))
    : settledUpTo listener contractId token p.settled (before ++ effect :: rest) = true := by
  have settled : ∀ effect' ∈ before ++ [effect],
      (duties listener contractId effect').all (p.settled.contains ·) = true := by
    intro effect' member
    exact List.all_eq_true.mpr fun duty due => List.contains_iff_mem.mpr
      (done effect' member duty due)
  clear done
  induction before with
  | nil =>
      rw [List.nil_append, settledUpTo, settled effect List.mem_cons_self]
      simp [here]
  | cons first before ih =>
      have later := ih fun effect' member => settled effect' (List.mem_cons_of_mem first member)
      rw [List.cons_append, settledUpTo, settled first List.mem_cons_self, later]
      simp

theorem done_of_settledUpTo {contractId token : String} {records : List RawContractEffect}
    (h : settledUpTo listener contractId token p.settled records = true)
    : ∃ before effect rest, records = before ++ effect :: rest ∧ cursorOf effect = .ok (some token)
      ∧ p.Done listener contractId (before ++ [effect]) := by
  induction records with
  | nil => cases h
  | cons first records ih =>
      rw [settledUpTo, Bool.and_eq_true, Bool.or_eq_true] at h
      obtain ⟨settled, here | later⟩ := h
      · refine ⟨[], first, records, rfl, of_decide_eq_true here, fun effect member duty due => ?_⟩
        obtain rfl := List.mem_singleton.mp member
        exact List.contains_iff_mem.mp (List.all_eq_true.mp settled duty due)
      · obtain ⟨before, effect, rest, rfl, here, done⟩ := ih later
        refine ⟨first :: before, effect, rest, rfl, here, fun effect' member duty due => ?_⟩
        rcases List.mem_cons.mp member with rfl | member
        · exact List.contains_iff_mem.mp (List.all_eq_true.mp settled duty due)
        · exact done effect' member duty due

theorem wp_updateCursor {contractId : String} {cursor : Option String}
    {before rest : List RawContractEffect}
    {effect : RawContractEffect} (page : p.page = some
      (contractId, cursor, before ++ effect :: rest))
    (done : p.Done listener contractId (before ++ [effect]))
    : (deliveryProtocol listener).wp (updateCursor contractId effect) p (fun _ p' => p' = p)
        (fun _ _ => True) := by
  unfold updateCursor
  rw [Protocol.wp_bind]
  refine Protocol.wp_fromExcept.mpr ⟨fun token read => ?_, fun _ _ => trivial⟩
  split
  · rfl
  · rename_i token' given
    obtain ⟨rfl, -⟩ := Option.filter_eq_some_iff.mp given
    have allowed : p.page.any (fun (id, _, records) =>
        id = contractId && settledUpTo listener contractId token' p.settled records) = true := by
      rw [page]
      simp [settledUpTo_of_done done read]
    exact Protocol.wp_await.mpr ⟨fun _ => ⟨_, if_pos allowed, rfl⟩,
      fun _ => ⟨_, if_pos allowed, trivial⟩⟩

theorem wp_processRecords {contractId : String} {cursor : Option String}
    {records : List RawContractEffect}
    (before : List RawContractEffect)
    (page : p.page = some (contractId, cursor, before ++ records))
    (done : p.Done listener contractId before)
    : (deliveryProtocol listener).wp (processRecords listener contractId records) p
        (fun _ _ => True)
        (fun _ _ => True) := by
  induction records generalizing p before with
  | nil => trivial
  | cons effect rest ih =>
      unfold processRecords
      simp only [Protocol.wp_bind]
      refine Protocol.wp_mono wp_dispatchRawEffect (fun _ p' dispatched => ?_) fun _ _ _ => trivial
      obtain ⟨⟨same, kept⟩, settled⟩ := dispatched
      rw [← same] at page
      have done' : p'.Done listener contractId (before ++ [effect]) := by
        intro effect' member duty due
        rcases List.mem_append.mp member with member | member
        · exact kept duty (done effect' member duty due)
        · obtain rfl := List.mem_singleton.mp member
          exact settled duty due
      refine Protocol.wp_mono (wp_updateCursor page done') (fun _ p'' same => ?_)
        fun _ _ _ => trivial
      obtain rfl := same
      exact ih (before ++ [effect]) (by rw [page, List.append_assoc]; rfl) done'

theorem wp_fetchPage {contractId : String} {limit : Nat}
    : (deliveryProtocol listener).wp (fetchPage contractId limit) p
        (fun records p' => ∃ cursor, p'.page = some (contractId, cursor, records))
        (fun _ _ => True) := by
  unfold fetchPage
  rw [Protocol.wp_bind]
  refine Protocol.wp_await.mpr ⟨fun cursor => ⟨_, rfl, ?_⟩, fun _ => ⟨_, rfl, trivial⟩⟩
  exact Protocol.wp_await.mpr
    ⟨fun records => ⟨_, if_pos rfl, _, rfl⟩, fun _ => ⟨_, if_pos rfl, trivial⟩⟩

theorem wp_reconnectServer {contractId : String} {attempts : Nat}
    : (deliveryProtocol listener).wp (reconnectServer contractId attempts) p (fun _ _ => True)
        (fun _ _ => True) := by
  induction attempts generalizing p with
  | zero => trivial
  | succ attempts ih =>
      unfold reconnectServer
      rw [Protocol.wp_catchWith, Protocol.wp_bind]
      exact Protocol.wp_mono wp_fetchPage (fun _ _ _ => trivial) fun _ _ _ => ih

theorem wp_pollContractOnce {contractId : String}
    : (deliveryProtocol listener).wp (pollContractOnce listener contractId) p (fun _ _ => True)
        (fun _ _ => True) := by
  have failed : ∀ p, (deliveryProtocol listener).wp (do
      reconnectServer contractId RECONNECT_MAX_ATTEMPTS
      return false) p (fun _ _ => True) (fun _ _ => True) := by
    intro p
    rw [Protocol.wp_bind]
    exact Protocol.wp_mono wp_reconnectServer (fun _ _ _ => trivial) fun _ _ _ => trivial
  unfold pollContractOnce
  rw [Protocol.wp_catchWith, Protocol.wp_bind]
  refine Protocol.wp_mono (wp_withRetries (fun _ => True) (fun _ _ => wp_fetchPage) _ trivial)
    (fun records p' page => ?_) fun _ p' _ => failed p'
  obtain ⟨cursor, page⟩ := page
  rw [Protocol.wp_bind]
  exact Protocol.wp_mono (wp_processRecords [] page fun _ absurd => by cases absurd)
    (fun _ _ _ => trivial) fun _ p'' _ => failed p''

theorem wp_pollOnce {contractIds : List String}
    : (deliveryProtocol listener).wp (pollOnce listener contractIds) p (fun _ _ => True)
        (fun _ _ => True) := by
  induction contractIds generalizing p with
  | nil => trivial
  | cons contractId rest ih =>
      unfold pollOnce
      simp only [Protocol.wp_bind]
      refine Protocol.wp_mono wp_pollContractOnce (fun _ p' _ => ?_) fun _ _ _ => trivial
      exact Protocol.wp_mono ih (fun _ _ _ => trivial) fun _ _ _ => trivial

theorem wp_listen {contractIds : List String} {rounds : Nat}
    : (deliveryProtocol listener).wp (listen listener contractIds rounds) p (fun _ _ => True)
        (fun _ _ => True) := by
  induction rounds generalizing p with
  | zero => trivial
  | succ rounds ih =>
      unfold listen
      rw [Protocol.wp_bind]
      exact Protocol.wp_mono wp_pollOnce (fun _ _ _ => ih) fun _ _ _ => trivial

end

-- Runs

/-- How many effects of a contract the cursor of a world is past. -/
def passed (horizon : Horizon) (contractId : String) (w : World) : Nat :=
  horizon.upTo contractId (w.cursor contractId)

/-- What a poll knows is so: before the cursors it has read, everything since the start is settled.
-/
structure Progress.Sound (horizon : Horizon) (listener : Listener) (start : String → Nat)
    (p : Progress)
    (w : World)
    : Prop where
  cursor : ∀ contractId cursor, p.cursor = some (contractId, cursor) →
    SettledBetween horizon listener contractId (start contractId) (horizon.upTo contractId cursor) w
  page : ∀ contractId cursor records, p.page = some (contractId, cursor, records) →
    SettledBetween horizon listener contractId (start contractId) (horizon.upTo contractId cursor) w
    ∧ records <+: (horizon.effects contractId).drop (horizon.upTo contractId cursor)
  settled : ∀ duty ∈ p.settled, w.Settled duty

section

variable {horizon : Horizon} {listener : Listener} {start : String → Nat} {w w' : World}
    {p p' : Progress}
  {x : ListenerChoice} {i : Nat}

theorem settled_of_answered {op : ListenerOp} {reply : listenerInterface.Reply op}
    (answered : (listenerSemantics horizon).act i op x w = some (reply, w'))
    : ∀ duty, w.Settled duty → w'.Settled duty := by
  intro duty settled
  obtain ⟨-, ⟨rfl, -⟩ | ⟨rfl, -⟩⟩ := Environment.act_cases answered
  · exact settled
  · cases op with
    | handle handler event => exact settled.imp_left (List.mem_cons_of_mem _)
    | sendToQueue failure => exact settled.imp_right (Or.imp_left (List.mem_cons_of_mem _))
    | logError failure => exact settled.imp_right (Or.imp_right (List.mem_cons_of_mem _))
    | _ => exact settled

theorem effect_of_answered {op : ListenerOp} {value : op.Ret}
    (answered : (listenerSemantics horizon).act i op x w
      = some ((.ok value : listenerInterface.Reply op), w'))
    : listenerEffect horizon x w op = (.ok value, w') := by
  obtain ⟨-, ⟨-, failed⟩ | ⟨same, replied⟩⟩ := Environment.act_cases answered
  · cases failed
  · exact Prod.ext (replied rfl).symm same.symm

theorem SettledBetween.mono {contractId : String} {n : Nat}
    (h : SettledBetween horizon listener contractId (start contractId) n w)
    (grown : ∀ duty, w.Settled duty → w'.Settled duty)
    : SettledBetween horizon listener contractId (start contractId) n w' :=
  fun k effect above below there duty due => grown duty (h k effect above below there duty due)

theorem Progress.Sound.mono (h : p.Sound horizon listener start w)
    (grown : ∀ duty, w.Settled duty → w'.Settled duty)
    : p.Sound horizon listener start w' where
  cursor contractId cursor known := (h.cursor contractId cursor known).mono grown
  page contractId cursor records known :=
    ⟨(h.page contractId cursor records known).1.mono grown,
      (h.page contractId cursor records known).2⟩
  settled duty known := grown duty (h.settled duty known)

theorem Progress.Sound.settle (h : p.Sound horizon listener start w) {duty : Duty}
    (done : w.Settled duty)
    : (p.settle duty).Sound horizon listener start w :=
  ⟨h.cursor, h.page, List.forall_mem_cons.mpr ⟨done, h.settled⟩⟩

theorem ok_of_admissible {op : ListenerOp} {reply : listenerInterface.Reply op}
    (reliable : ∀ x w, admissible op x w = (!x.outcome.isLost && !x.outcome.isFailed))
    (answered : (listenerSemantics horizon).act i op x w = some (reply, w'))
    : (reply, w') = listenerEffect horizon x w op := by
  obtain ⟨possible, replied⟩ := Environment.act_eq_some answered
  have possible : admissible op x w = true := possible
  rw [reliable x w] at possible
  have replied : x.outcome.answer (listenerEffect horizon x w op) w = (reply, w') := replied
  cases outcome : x.outcome with
  | done =>
      rw [outcome] at replied
      exact replied.symm
  | failed error =>
      rw [outcome] at possible
      cases possible
  | lost error =>
      rw [outcome] at possible
      cases possible

theorem upTo_filter {contractId : String} {cursor : Option String}
    : horizon.upTo contractId (cursor.filter (fun cursor => cursor ≠ ""))
        = horizon.upTo contractId cursor := by
  rw [Horizon.upTo, Horizon.upTo, Option.filter_filter]
  simp

theorem Progress.Sound.moved (h : p.Sound horizon listener start w)
    (behind : ∀ contractId,
      SettledBetween horizon listener contractId (start contractId) (passed horizon contractId w) w)
    {op : ListenerOp} {reply : listenerInterface.Reply op}
    (moved : (deliveryProtocol listener).next p op reply = some p')
    (answered : (listenerSemantics horizon).act i op x w = some (reply, w'))
    : p'.Sound horizon listener start w' := by
  have kept := h.mono (settled_of_answered answered)
  cases op with
  | getCursor contractId =>
      obtain rfl := Option.some.inj moved
      have answer := ok_of_admissible (fun _ _ => rfl) answered
      obtain ⟨rfl, rfl⟩ := Prod.mk.inj answer
      refine ⟨fun id cursor known => ?_, kept.page, kept.settled⟩
      obtain ⟨rfl, rfl⟩ := Prod.mk.inj (Option.some.inj known)
      rw [upTo_filter]
      exact behind contractId
  | fetchEffects contractId cursor limit =>
      obtain ⟨known, same⟩ := Option.ite_none_right_eq_some.mp moved
      obtain rfl := Option.some.inj same
      refine ⟨kept.cursor, fun id after records page => ?_, kept.settled⟩
      rcases reply with error | fetched
      · cases page
      · obtain ⟨rfl, rest⟩ := Prod.mk.inj (Option.some.inj page)
        obtain ⟨rfl, rfl⟩ := Prod.mk.inj rest
        obtain ⟨told, -⟩ := Prod.mk.inj (effect_of_answered answered)
        refine ⟨kept.cursor contractId cursor known, ?_⟩
        rw [← Except.ok.inj told]
        exact List.take_prefix ..
  | handle handler event =>
      obtain rfl := Option.some.inj moved
      rcases reply with error | done
      · exact kept
      · obtain ⟨-, rfl⟩ := Prod.mk.inj (effect_of_answered answered)
        exact kept.settle (.inl List.mem_cons_self)
  | sendToQueue failure =>
      obtain rfl := Option.some.inj moved
      rcases reply with error | done
      · exact kept
      · obtain ⟨-, rfl⟩ := Prod.mk.inj (effect_of_answered answered)
        exact kept.settle (.inr (.inl List.mem_cons_self))
  | logError failure =>
      obtain rfl := Option.some.inj moved
      obtain ⟨-, rfl⟩ := Prod.mk.inj (ok_of_admissible (fun _ _ => rfl) answered)
      exact kept.settle (.inr (.inr List.mem_cons_self))
  | setCursor contractId cursor =>
      obtain ⟨-, same⟩ := Option.ite_none_right_eq_some.mp moved
      obtain rfl := Option.some.inj same
      exact kept
  | connectRabbitMQ =>
      obtain rfl := Option.some.inj moved
      exact kept
  | assertQueue =>
      obtain rfl := Option.some.inj moved
      exact kept

theorem getElem?_of_page {α : Type} {before rest all : List α} {entry : α} {n k : Nat}
    (page : before ++ entry :: rest <+: all.drop n) (bound : k < before.length + 1)
    : all[n + k]? = (before ++ [entry])[k]? := by
  obtain ⟨suffix, whole⟩ := page
  have split : (before ++ [entry]) ++ (rest ++ suffix) = all.drop n := by
    rw [← whole]
    simp
  rw [← List.getElem?_drop, ← split]
  exact List.getElem?_append_left (by simpa using bound)

theorem upTo_token {contractId token : String} {n : Nat} {before rest : List RawContractEffect}
    {effect : RawContractEffect} (nonempty : token ≠ "")
    (page : before ++ effect :: rest <+: (horizon.effects contractId).drop n)
    (here : cursorOf effect = .ok (some token))
    : horizon.upTo contractId (some token) = n + before.length + 1 := by
  have there : (horizon.effects contractId)[n + before.length]? = some effect := by
    rw [getElem?_of_page page (Nat.lt_succ_self _)]
    simp
  rw [Horizon.upTo, Option.filter_some, if_pos (by simpa using nonempty)]
  exact horizon.position_token contractId _ effect token there here

theorem settledBetween_of_done {contractId : String} {n : Nat}
    {before rest : List RawContractEffect}
    {effect : RawContractEffect} (sound : ∀ duty ∈ p.settled, w.Settled duty)
    (earlier : SettledBetween horizon listener contractId (start contractId) n w)
    (page : before ++ effect :: rest <+: (horizon.effects contractId).drop n)
    (done : p.Done listener contractId (before ++ [effect]))
    : SettledBetween horizon listener contractId (start contractId) (n + before.length + 1) w := by
  intro k other above below there duty due
  by_cases old : k < n
  · exact earlier k other above old there duty due
  · obtain ⟨d, rfl⟩ := Nat.exists_eq_add_of_le (Nat.le_of_not_lt old)
    rw [getElem?_of_page page (by omega)] at there
    exact sound duty (done other (List.mem_of_getElem? there) duty due)

/-- Everything before the cursor of a contract is settled since the start. -/
def Behind (horizon : Horizon) (listener : Listener) (start : String → Nat) (w : World) : Prop :=
  ∀ contractId, SettledBetween horizon listener contractId (start contractId)
    (passed horizon contractId w) w

theorem cursor_of_answered {op : ListenerOp} {reply : listenerInterface.Reply op}
    (contractId : String)
    (other : ∀ token, op ≠ .setCursor contractId token)
    (answered : (listenerSemantics horizon).act i op x w = some (reply, w'))
    : w'.cursor contractId = w.cursor contractId := by
  obtain ⟨-, ⟨rfl, -⟩ | ⟨rfl, -⟩⟩ := Environment.act_cases answered
  · rfl
  · cases op with
    | setCursor id token =>
        have different : contractId ≠ id := by
          rintro rfl
          exact other token rfl
        exact congrArg (fun cursor => Option.or cursor w.defaultCursor) (if_neg different)
    | _ => rfl

theorem Behind.moved (behind : Behind horizon listener start w)
    (h : p.Sound horizon listener start w)
    {op : ListenerOp} {reply : listenerInterface.Reply op}
    (moved : (deliveryProtocol listener).next p op reply = some p')
    (answered : (listenerSemantics horizon).act i op x w = some (reply, w'))
    : Behind horizon listener start w' := by
  intro contractId
  have grown := settled_of_answered answered
  by_cases sets : ∃ token, op = .setCursor contractId token
  · obtain ⟨token, rfl⟩ := sets
    obtain ⟨covered, -⟩ := Option.ite_none_right_eq_some.mp moved
    obtain ⟨⟨id, cursor, records⟩, page, covered⟩ := (Option.any_eq_true ..).mp covered
    obtain ⟨same, covered⟩ := (Bool.and_eq_true _ _).mp covered
    obtain rfl : id = contractId := of_decide_eq_true same
    obtain ⟨before, effect, rest, rfl, here, done⟩ := done_of_settledUpTo covered
    obtain ⟨earlier, page⟩ := h.page _ _ _ page
    obtain ⟨-, performed⟩ := Prod.mk.inj (ok_of_admissible (fun _ _ => rfl) answered)
    have settled := settledBetween_of_done h.settled earlier page done
    have cursor : w'.cursor id = some token := by
      rw [performed]
      exact congrArg (fun cursor => Option.or cursor w.defaultCursor) (if_pos rfl)
    rw [passed, cursor]
    by_cases empty : token = ""
    · subst empty
      exact fun k _ _ below => absurd below (Nat.not_lt_zero k)
    · rw [upTo_token empty page here]
      exact settled.mono grown
  · rw [passed, cursor_of_answered contractId (fun token same => sets ⟨token, same⟩) answered]
    exact (behind contractId).mono grown

abbrev ListenerRun := Config listenerInterface Unit World

def progress (listener : Listener) (c : ListenerRun) (i : Nat) : Progress :=
  (deliveryProtocol listener).phase (fun _ => {}) c i

/-- The cursors are behind what is settled, and what the polls know is so. -/
structure DeliveryRun (horizon : Horizon) (listener : Listener) (start : String → Nat)
    (c : ListenerRun) : Prop where
  behind : Behind horizon listener start c.world
  sound : ∀ i, (progress listener c i).Sound horizon listener start c.world

abbrev KeepsDelivery (listener : Listener) (c : ListenerRun) : Prop :=
  (deliveryProtocol listener).Governs (fun _ => {}) (fun _ _ _ => True) (fun _ _ _ => True) c

theorem DeliveryRun.step {c c' : ListenerRun} (h : DeliveryRun horizon listener start c)
    (governed : KeepsDelivery listener c) (stepped
      : c.step (listenerSemantics horizon) i x = some c')
    : DeliveryRun horizon listener start c' := by
  obtain ⟨op, reply, -, -, answered, moved, -, others, -⟩ := governed.step_cases stepped
  refine ⟨h.behind.moved (h.sound i) moved answered, fun j => ?_⟩
  by_cases mine : j = i
  · subst mine
    exact (h.sound j).moved h.behind moved answered
  · rw [progress, (others j mine).1]
    exact (h.sound j).mono (settled_of_answered answered)

end

/-- Loops of the listener: the contracts that each polls, and how many rounds. -/
def listening (listener : Listener) (loops : List (List String × Nat)) (w : World) : ListenerRun :=
  .initial w (loops.map (fun loop => listen listener loop.1 loop.2))

/-- In every state, whatever handlers, the broker and Horizon do: about every effect that the cursor
of a contract has moved past since the start, every handler that is registered for it has succeeded,
or its failure has been captured in the queue, or the capture has failed and the failure is in the
log; and so it is for the failure of an effect that is no event.
-/
theorem cursor_behind_settled (horizon : Horizon) (listener : Listener)
    (loops : List (List String × Nat))
    (w : World) (c : ListenerRun)
    (reached : Config.Reaches (listenerSemantics horizon) Config.anyStep
      (listening listener loops w) c)
    (contractId : String)
    : SettledBetween horizon listener contractId (passed horizon contractId w)
        (passed horizon contractId c.world) c.world := by
  have governed : KeepsDelivery listener (listening listener loops w) := by
    refine Protocol.governs_initial fun i prog found => ?_
    rw [List.getElem?_map] at found
    obtain ⟨loop, -, rfl⟩ := Option.map_eq_some_iff.mp found
    exact wp_listen
  have base : DeliveryRun horizon listener (fun contractId => passed horizon contractId w)
      (listening listener loops w) := by
    refine ⟨fun contractId k effect above below => absurd above (Nat.not_le_of_lt below),
      fun i => ?_⟩
    have start : progress listener (listening listener loops w) i = {} := Protocol.phase_initial _
    rw [start]
    constructor <;> intros <;> contradiction
  obtain ⟨-, run⟩ := Protocol.Governs.invariant (J := DeliveryRun horizon listener _) governed base
    (fun c c' i x governed h _ stepped => h.step governed stepped) reached
  exact run.behind contractId

-- A failure that is not captured

def creditEffect : RawContractEffect :=
  .object { json := "credit", type := some "contract_credited", paging_token := some "1" }

def oneEffect : Horizon where
  effects := fun contractId => if contractId = "minting" then [creditEffect] else []
  position := fun _ _ => 1
  position_token := by
    intro contractId k effect token there _
    have bound := (List.getElem?_eq_some_iff.mp there).1
    split at bound
    · rw [List.length_singleton] at bound
      omega
    · exact absurd bound (Nat.not_lt_zero k)

def mintListener : Listener where
  eventHandlers := fun eventType => if eventType = "*" then [{ function := "mint" }] else []
  dateParse := fun _ => .nan

def freshListener : World where
  contractCursors := fun _ => none
  defaultCursor := none
  succeeded := []
  captured := []
  logged := []

/-- A handler fails three times, then the broker does, and the cursor moves on. -/
def failingSteps : List (Nat × ListenerChoice) :=
  [.done, .done, .failed "database", .failed "database", .failed "database", .failed "broker",
    .done, .done].map
    (fun outcome => (0, { outcome }))

/-- The cursor is past an effect whose failure is in the log. -/
theorem cursor_behind_logged
    : ∃ c : ListenerRun, Config.Reaches (listenerSemantics oneEffect) Config.anyStep
        (listening mintListener [(["minting"], 1)] freshListener) c
      ∧ c.world.logged = duties mintListener "minting" creditEffect
      ∧ SettledBetween oneEffect mintListener "minting" 0 1 c.world := by
  have executed : ((listening mintListener [(["minting"], 1)] freshListener).run
      (listenerSemantics oneEffect) Config.anyStep failingSteps).map
        (fun c => (passed oneEffect "minting" c.world, c.world.logged))
      = some (1, duties mintListener "minting" creditEffect) := by
    decide +kernel
  obtain ⟨c, reached, observed⟩ := Config.reaches_of_run executed
  obtain ⟨moved, logged⟩ := Prod.mk.inj observed
  have settled := cursor_behind_settled oneEffect mintListener _ freshListener c reached "minting"
  rw [moved] at settled
  exact ⟨c, reached, logged, settled⟩

/-- The cursor is past an effect whose handler has not succeeded and whose failure is not in the
queue: it is in the log only.
-/
theorem effect_passed_uncaptured
    : ∃ c : ListenerRun, Config.Reaches (listenerSemantics oneEffect) Config.anyStep
        (listening mintListener [(["minting"], 1)] freshListener) c
      ∧ passed oneEffect "minting" freshListener = 0
      ∧ passed oneEffect "minting" c.world = 1
      ∧ (oneEffect.effects "minting")[0]? = some creditEffect
      ∧ (duties mintListener "minting" creditEffect).length = 1
      ∧ (∀ duty ∈ duties mintListener "minting" creditEffect,
          duty ∉ c.world.succeeded ∧ duty ∉ c.world.captured) := by
  have executed : ((listening mintListener [(["minting"], 1)] freshListener).run
      (listenerSemantics oneEffect) Config.anyStep failingSteps).map
        (fun c => (passed oneEffect "minting" c.world, c.world.succeeded, c.world.captured))
      = some (1, [], []) := by
    decide +kernel
  obtain ⟨c, reached, observed⟩ := Config.reaches_of_run executed
  obtain ⟨moved, observed⟩ := Prod.mk.inj observed
  obtain ⟨succeeded, captured⟩ := Prod.mk.inj observed
  refine ⟨c, reached, rfl, moved, rfl, by decide +kernel, fun duty _ => ?_⟩
  rw [succeeded, captured]
  exact ⟨List.not_mem_nil, List.not_mem_nil⟩

end AcbuBackend.Stellar

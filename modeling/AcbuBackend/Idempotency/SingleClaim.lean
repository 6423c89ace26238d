import AcbuBackend.Effects.Outcome
import AcbuBackend.Runtime.Errors

/-! The idempotency store: its documents, the two calls that claim and resolve a key, and the
thread of the database that deletes expired documents. A result is a value or `null`.
An answer `null` means that the caller proceeds, and the others get the result. It is given to one
caller where no key is acquired that is pending for a caller who proceeds, and no `null` is stored
as a result.
-/

namespace AcbuBackend.Idempotency

open Effects AcbuBackend.Runtime

inductive RecordStatus
  | pending
  | resolved
deriving DecidableEq

/-- A document of `idempotency_keys`, under its key. `result` is `none` where it has none. -/
structure IdempotencyRecord (T : Type) where
  status : RecordStatus
  result : Option (Option T) := none
  createdAt : Nat
  expiresAt : Nat

/-- `findOneAndUpdate` inserts a document under a key that has none, and answers with the one
that was there before; `updateOne` sets the result of a key, under a new document if it has none.
-/
inductive StoreOp (T : Type)
  | now
  | findOneAndUpdate (key : String) (inserted : IdempotencyRecord T)
  | updateOne (key : String) (result : Option T) (createdAt expiresAt : Nat)

abbrev StoreOp.Ret {T : Type} : StoreOp T → Type
  | .now => Nat
  | .findOneAndUpdate .. => Option (IdempotencyRecord T)
  | .updateOne .. => Unit

abbrev storeInterface (T : Type) : Interface where
  Op := StoreOp T
  Ret := StoreOp.Ret
  Err := JsError

-- The calls

def DEFAULT_TTL_SECONDS : Nat := 24 * 60 * 60

section

variable {T : Type}

abbrev issue (op : StoreOp T) : Prog (storeInterface T) op.Ret :=
  Prog.await (I := storeInterface T) op

/-- What `acquireIdempotencyKey` answers, of the document before the update. -/
def answerOf (before : Option (IdempotencyRecord T)) : Option T :=
  match before with
  | none => none
  | some record =>
      match record.status, record.result with
      | .resolved, some result => result
      | _, _ => none

def acquireIdempotencyKey (key : String) (ttlSeconds : Nat := DEFAULT_TTL_SECONDS)
    : Prog (storeInterface T) (Option T) := do
  let now ← issue .now
  let before ← issue (.findOneAndUpdate key
    { status := .pending, createdAt := now, expiresAt := now + ttlSeconds * 1000 })
  return answerOf before

def resolveIdempotencyKey (key : String) (result : Option T)
    (ttlSeconds : Nat := DEFAULT_TTL_SECONDS)
    : Prog (storeInterface T) Unit := do
  let now ← issue .now
  issue (.updateOne key result now (now + ttlSeconds * 1000))

end

-- The store

/-- The documents, and of every key the result that was set last. -/
structure World (T : Type) where
  clock : Nat
  records : String → Option (IdempotencyRecord T)
  lastResolved : String → Option (Option T)

/-- When a call takes place, whether it does, and whether the expired documents were deleted
before it.
-/
structure Choice where
  time : Nat
  outcome : Outcome JsError := .done
  swept : Bool := false

section

variable {T : Type}

/-- The store when a call takes place. -/
def World.at (w : World T) (x : Choice) : World T where
  clock := x.time
  records key := (w.records key).filter (fun record => !x.swept || x.time < record.expiresAt)
  lastResolved := w.lastResolved

/-- What a call answers, and the store it leaves. -/
def effect (w : World T) : (op : StoreOp T) → Except JsError op.Ret × World T
  | .now => (.ok w.clock, w)
  | .findOneAndUpdate key inserted =>
      (.ok (w.records key), { w with
        records := fun other =>
          if other = key then some ((w.records key).getD inserted) else w.records other })
  | .updateOne key result createdAt expiresAt =>
      (.ok (), { w with
        records := fun other =>
          if other = key then some {
            status := .resolved
            result := some result
            createdAt := ((w.records key).map IdempotencyRecord.createdAt).getD createdAt
            expiresAt }
          else w.records other
        lastResolved := fun other => if other = key then some result else w.lastResolved other })

/-- Time does not go back, and reading it does not fail. -/
def admissible (op : StoreOp T) (x : Choice) (w : World T) : Bool :=
  w.clock ≤ x.time
  && match op with
    | .now => !x.outcome.isLost && !x.outcome.isFailed
    | _ => true

def storeEnvironment : Environment (storeInterface T) (World T) Choice where
  outcome := Choice.outcome
  effect := fun x w op => effect (w.at x) op
  admissible := admissible

def storeSemantics : Semantics (storeInterface T) (World T) Choice :=
  storeEnvironment.semantics

inductive StoreCall (T : Type)
  | acquire (key : String) (ttlSeconds : Nat := DEFAULT_TTL_SECONDS)
  | resolve (key : String) (result : Option T) (ttlSeconds : Nat := DEFAULT_TTL_SECONDS)

/-- What a call ends with. -/
inductive StoreAnswer (T : Type)
  | acquired (answer : Option T)
  | resolved
deriving DecidableEq

def StoreCall.prog : StoreCall T → Prog (storeInterface T) (StoreAnswer T)
  | .acquire key ttlSeconds => do
      let answer ← acquireIdempotencyKey key ttlSeconds
      return .acquired answer
  | .resolve key result ttlSeconds => do
      resolveIdempotencyKey key result ttlSeconds
      return .resolved

end

abbrev StoreConfig (T : Type) := Config (storeInterface T) (StoreAnswer T) (World T)

/-- The calls before their first step. -/
def storeCalls {T : Type} (calls : List (StoreCall T)) (w : World T) : StoreConfig T :=
  .initial w (calls.map StoreCall.prog)

variable {T : Type}

-- The stages of a call

/-- How far a call has come. -/
inductive StoreStage (T : Type)
  | start
  | acquired (key : String) (answer : Option T)
  | resolved (key : String)
  | failed
deriving DecidableEq

def StoreStage.after : (op : StoreOp T) → (storeInterface T).Reply op → StoreStage T
  | .now, _ => .start
  | .findOneAndUpdate key _, .ok before => .acquired key (answerOf before)
  | .updateOne key _ _ _, .ok _ => .resolved key
  | .findOneAndUpdate .., .error _ | .updateOne .., .error _ => .failed

def StoreOp.insertsPending : StoreOp T → Bool
  | .findOneAndUpdate _ inserted => inserted.status = .pending
  | _ => true

/-- A call reads the time, and makes one update. -/
def storeProtocol (T : Type) : Protocol (storeInterface T) (StoreStage T) where
  next
    | .start, op, reply => if op.insertsPending then some (.after op reply) else none
    | _, _, _ => none

theorem next_eq_some {stage stage' : StoreStage T} {op : StoreOp T}
    {reply : (storeInterface T).Reply op}
    (h : (storeProtocol T).next stage op reply = some stage')
    : stage = .start ∧ op.insertsPending = true ∧ stage' = .after op reply := by
  cases stage with
  | start =>
      obtain ⟨pending, same⟩ := Option.ite_none_right_eq_some.mp h
      exact ⟨rfl, pending, (Option.some.inj same).symm⟩
  | _ => cases h

def StoreCall.ends : StoreCall T → StoreAnswer T → StoreStage T → Prop
  | .acquire key _, answer, stage => ∃ value, answer = .acquired value ∧ stage = .acquired key value
  | .resolve key _ _, answer, stage => answer = .resolved ∧ stage = .resolved key

/-- A call that has ended with an error. -/
def StoreStage.gaveUp (stage : StoreStage T) : Prop :=
  stage = .start ∨ stage = .failed

theorem wp_prog (call : StoreCall T)
    : (storeProtocol T).wp call.prog .start call.ends (fun _ stage => stage.gaveUp) := by
  cases call with
  | acquire key ttlSeconds =>
      simp only [StoreCall.prog, acquireIdempotencyKey, Protocol.wp_bind]
      refine Protocol.wp_await.mpr ⟨fun time => ⟨_, rfl, ?_⟩, fun _ => ⟨_, rfl, .inl rfl⟩⟩
      refine Protocol.wp_await.mpr ⟨fun before => ⟨_, rfl, ?_⟩, fun _ => ⟨_, rfl, .inr rfl⟩⟩
      exact ⟨_, rfl, rfl⟩
  | resolve key result ttlSeconds =>
      simp only [StoreCall.prog, resolveIdempotencyKey, Protocol.wp_bind]
      refine Protocol.wp_await.mpr ⟨fun time => ⟨_, rfl, ?_⟩, fun _ => ⟨_, rfl, .inl rfl⟩⟩
      refine Protocol.wp_await.mpr ⟨fun _ => ⟨_, rfl, ?_⟩, fun _ => ⟨_, rfl, .inr rfl⟩⟩
      exact ⟨rfl, rfl⟩

/-- How far call `i` has come. -/
def storeStage (c : StoreConfig T) (i : Nat) : StoreStage T :=
  (storeProtocol T).phase (fun _ => .start) c i

/-- Call `i` was told to proceed with the key. -/
def Proceeds (key : String) (c : StoreConfig T) (i : Nat) : Prop :=
  storeStage c i = .acquired key none

instance [DecidableEq T] (key : String) (c : StoreConfig T) (i : Nat)
    : Decidable (Proceeds key c i) :=
  inferInstanceAs (Decidable (_ = _))

def acquires? : Option (StoreOp T) → Option String
  | some (.findOneAndUpdate key _) => some key
  | _ => none

def resolves? : Option (StoreOp T) → Option (String × Option T)
  | some (.updateOne key result _ _) => some (key, result)
  | _ => none

-- The runs

/-- The step takes place before the document of the key expires. -/
def WithinTtl (key : String) (c : StoreConfig T) (x : Choice) : Prop :=
  (c.world.records key).all (fun record => x.time < record.expiresAt) = true

/-- The key is not acquired while it is pending for a caller who was told to proceed. -/
def Uncontended (key : String) (c : StoreConfig T) (i : Nat) : Prop :=
  acquires? (c.pending? i) = some key →
    (c.world.records key).all (fun record => record.status = .resolved) = true
    ∨ ∀ j < c.threads.length, ¬ Proceeds key c j

/-- The key is not resolved with `null`. -/
def ResolvesValue (key : String) (c : StoreConfig T) (i : Nat) : Prop :=
  ∀ resolved ∈ resolves? (c.pending? i), resolved.1 = key → resolved.2.isSome = true

/-- The steps, within the time to live of the key, that no answer is mistaken after. -/
def OneProceeds (key : String) (c : StoreConfig T) (i : Nat) (x : Choice) : Prop :=
  WithinTtl key c x ∧ Uncontended key c i ∧ ResolvesValue key c i

instance (key : String) (c : StoreConfig T) (x : Choice) : Decidable (WithinTtl key c x) :=
  inferInstanceAs (Decidable (_ = _))

instance [DecidableEq T] (key : String) (c : StoreConfig T) (i : Nat) (x : Choice)
    : Decidable (OneProceeds key c i x) := by
  unfold OneProceeds WithinTtl Uncontended ResolvesValue
  exact inferInstance

-- The document of a key

/-- A document shows the result that was set last, which is a value, or none was set. -/
def World.Shows (w : World T) (key : String) : Prop :=
  match w.records key with
  | none => w.lastResolved key = none
  | some record =>
      match record.status with
      | .pending => w.lastResolved key = none
      | .resolved =>
          ∃ value, record.result = some (some value) ∧ w.lastResolved key = some (some value)

section

variable {key : String} {w w' : World T} {i : Nat} {op : StoreOp T} {x : Choice}
  {reply : (storeInterface T).Reply op}

theorem answerOf_of_shows (shows : w.Shows key)
    : answerOf (w.records key) = (w.lastResolved key).join := by
  unfold World.Shows at shows
  unfold answerOf
  cases there : w.records key with
  | none =>
      simp only [there] at shows
      rw [shows]
      rfl
  | some record =>
      cases status : record.status with
      | pending =>
          simp only [there, status] at shows
          simp only [status, shows]
          rfl
      | resolved =>
          simp only [there, status] at shows
          obtain ⟨value, result, last⟩ := shows
          simp only [status, result, last]
          rfl

theorem isSome_of_shows {result : Option T} (shows : w.Shows key)
    (last : w.lastResolved key = some result)
    : result.isSome = true := by
  unfold World.Shows at shows
  split at shows
  · rw [last] at shows
    cases shows
  · split at shows
    · rw [last] at shows
      cases shows
    · obtain ⟨value, -, same⟩ := shows
      obtain rfl := Option.some.inj (last.symm.trans same)
      rfl

theorem store_act_cases (h : storeSemantics.act i op x w = some (reply, w'))
    : w' = w ∧ Except.isOk reply = false
      ∨ w' = (effect (w.at x) op).2 ∧ (Except.isOk reply = true → reply = (effect (w.at x) op).1) :=
  (Environment.act_cases h).2

theorem records_at (within : (w.records key).all (fun record => x.time < record.expiresAt) = true)
    : (w.at x).records key = w.records key := by
  simp only [World.at]
  cases there : w.records key with
  | none => rfl
  | some record =>
      rw [there] at within
      have unexpired : x.time < record.expiresAt := by simpa using within
      rw [Option.filter_some, if_pos (by simp [unexpired])]

theorem shows_of_same (records : w'.records key = w.records key)
    (last : w'.lastResolved key = w.lastResolved key) (shows : w.Shows key)
    : w'.Shows key := by
  unfold World.Shows at shows ⊢
  rw [records, last]
  exact shows

theorem shows_of_act (within : (w.records key).all (fun record => x.time < record.expiresAt) = true)
    (pending : op.insertsPending = true)
    (valued : ∀ resolved ∈ resolves? (some op), resolved.1 = key → resolved.2.isSome = true)
    (shows : w.Shows key) (h : storeSemantics.act i op x w = some (reply, w'))
    : w'.Shows key := by
  have same := records_at within
  rcases store_act_cases h with ⟨rfl, -⟩ | ⟨rfl, -⟩
  · exact shows
  · cases op with
    | now => exact shows_of_same same rfl shows
    | findOneAndUpdate other inserted =>
        by_cases mine : key = other
        · subst mine
          have inserts : inserted.status = .pending := of_decide_eq_true pending
          unfold World.Shows at shows ⊢
          simp only [effect, if_true, same]
          cases there : w.records key with
          | none =>
              rw [there] at shows
              simp only [Option.getD_none, inserts]
              exact shows
          | some record =>
              rw [there] at shows
              exact shows
        · exact shows_of_same (w := w) (by simp only [effect, if_neg mine, same]) rfl shows
    | updateOne other result createdAt expiresAt =>
        by_cases mine : key = other
        · subst mine
          obtain ⟨value, rfl⟩ := Option.isSome_iff_exists.mp (valued _ rfl rfl)
          unfold World.Shows
          simp only [effect, if_true]
          exact ⟨value, rfl, rfl⟩
        · exact shows_of_same (w := w) (by simp only [effect, if_neg mine, same])
            (by simp only [effect, if_neg mine, World.at]) shows

theorem stored_of_act (within : (w.records key).all (fun record => x.time < record.expiresAt)
    = true)
    (stored : (w.records key).isSome = true) (h : storeSemantics.act i op x w = some (reply, w'))
    : (w'.records key).isSome = true := by
  have same := records_at within
  rcases store_act_cases h with ⟨rfl, -⟩ | ⟨rfl, -⟩
  · exact stored
  · cases op with
    | now => rw [show (effect (w.at x) StoreOp.now).2.records key = _ from same, stored]
    | findOneAndUpdate other inserted =>
        simp only [effect]
        split
        · rfl
        · rw [same, stored]
    | updateOne other result createdAt expiresAt =>
        simp only [effect]
        split
        · rfl
        · rw [same, stored]

theorem acquired_of_act {inserted : IdempotencyRecord T} {before : Option (IdempotencyRecord T)}
    (within : (w.records key).all (fun record => x.time < record.expiresAt) = true)
    (h : storeSemantics.act i (.findOneAndUpdate key inserted) x w = some (.ok before, w'))
    : before = w.records key ∧ (w'.records key).isSome = true
      ∧ w'.lastResolved key = w.lastResolved key := by
  have same := records_at within
  rcases store_act_cases h with ⟨-, failed⟩ | ⟨rfl, answered⟩
  · cases failed
  · have answer : before = (w.at x).records key := Except.ok.inj (answered rfl)
    exact ⟨answer.trans same, by simp [effect], rfl⟩

theorem resolved_of_act {result : Option T} {createdAt expiresAt : Nat}
    (h : storeSemantics.act i (.updateOne key result createdAt expiresAt) x w = some (.ok (), w'))
    : w'.lastResolved key = some result := by
  rcases store_act_cases h with ⟨-, failed⟩ | ⟨rfl, -⟩
  · cases failed
  · exact if_pos rfl

theorem lastResolved_of_act (h : storeSemantics.act i op x w = some (reply, w'))
    (last : (w.lastResolved key).isSome = true)
    : (w'.lastResolved key).isSome = true := by
  rcases store_act_cases h with ⟨rfl, -⟩ | ⟨rfl, -⟩
  · exact last
  · cases op with
    | now => exact last
    | findOneAndUpdate _ _ => exact last
    | updateOne other _ _ _ =>
        simp only [effect]
        split
        · rfl
        · exact last

end

-- The invariant

/-- What holds of the key in every state of a run. -/
structure Sound (key : String) (c : StoreConfig T) : Prop where
  shows : c.world.Shows key
  stored : ∀ i, Proceeds key c i → (c.world.records key).isSome = true
  once : ∀ i j, Proceeds key c i → Proceeds key c j → i = j
  resolved : ∀ i, storeStage c i = .resolved key → (c.world.lastResolved key).isSome = true

/-- What the calls may end with. -/
def EndsAs (calls : List (StoreCall T)) (i : Nat) (answer : StoreAnswer T) (stage : StoreStage T)
    : Prop :=
  ∃ call, calls[i]? = some call ∧ call.ends answer stage

abbrev Governed (calls : List (StoreCall T)) (c : StoreConfig T) : Prop :=
  (storeProtocol T).Governs (fun _ => .start) (EndsAs calls) (fun _ _ stage => stage.gaveUp) c

section

variable {calls : List (StoreCall T)} {key : String} {c c' : StoreConfig T} {i : Nat} {x : Choice}

theorem governed_storeCalls {w : World T} : Governed calls (storeCalls calls w) := by
  refine Protocol.governs_initial fun i prog found => ?_
  rw [List.getElem?_map, Option.map_eq_some_iff] at found
  obtain ⟨call, member, rfl⟩ := found
  exact Protocol.wp_mono (wp_prog call) (fun _ _ ends => ⟨call, member, ends⟩)
    (fun _ _ gaveUp => gaveUp)

theorem lt_of_proceeds (proceeds : Proceeds key c i) : i < c.threads.length := by
  by_contra outside
  have start : storeStage c i = .start := Protocol.phase_of_none _ (by simpa using outside)
  rw [Proceeds, start] at proceeds
  cases proceeds

theorem Sound.alone {inserted : IdempotencyRecord T} {before : Option (IdempotencyRecord T)}
    {w' : World T}
    (h : Sound key c) (within : WithinTtl key c x) (uncontended : Uncontended key c i)
    (asks : c.pending? i = some (.findOneAndUpdate key inserted))
    (answered : storeSemantics.act i (.findOneAndUpdate key inserted) x c.world
      = some (.ok before, w'))
    (told : answerOf before = none) (j : Nat)
    : ¬ Proceeds key c j := by
  intro proceeds
  obtain ⟨rfl, -, -⟩ := acquired_of_act within answered
  rcases uncontended (by rw [asks]; rfl) with resolved | nobody
  · obtain ⟨record, there⟩ := Option.isSome_iff_exists.mp (h.stored j proceeds)
    have shows := h.shows
    rw [answerOf_of_shows shows] at told
    rw [there] at resolved
    have status : record.status = .resolved := by simpa using resolved
    unfold World.Shows at shows
    simp only [there, status] at shows
    obtain ⟨value, -, last⟩ := shows
    rw [last] at told
    cases told
  · exact nobody j (lt_of_proceeds proceeds) proceeds

theorem Sound.step (governed : Governed calls c) (h : Sound key c) (allowed : OneProceeds key c i x)
    (stepped : c.step storeSemantics i x = some c')
    : Sound key c' := by
  obtain ⟨within, uncontended, valued⟩ := allowed
  obtain ⟨op, reply, -, asks, answered, moved, -, others, -⟩ := governed.step_cases stepped
  obtain ⟨-, pending, after⟩ := next_eq_some moved
  have after : storeStage c' i = .after op reply := after
  have others : ∀ j, j ≠ i → storeStage c' j = storeStage c j :=
    fun j different => (others j different).1
  rw [ResolvesValue, asks] at valued
  -- a call that is told to proceed has just acquired the key, and it alone
  have proceeds : Proceeds key c' i →
      (∀ j, ¬ Proceeds key c j) ∧ (c'.world.records key).isSome = true := by
    intro proceeds
    rw [Proceeds, after] at proceeds
    cases op with
    | now => cases proceeds
    | updateOne _ _ _ _ => cases reply <;> cases proceeds
    | findOneAndUpdate other inserted =>
        cases reply with
        | error _ => cases proceeds
        | ok before =>
            obtain ⟨rfl, told⟩ := StoreStage.acquired.inj proceeds
            exact ⟨h.alone within uncontended asks answered told,
              (acquired_of_act within answered).2.1⟩
  constructor
  · exact shows_of_act within pending valued h.shows answered
  · intro j told
    by_cases mine : j = i
    · subst mine
      exact (proceeds told).2
    · rw [Proceeds, others j mine] at told
      exact stored_of_act within (h.stored j told) answered
  · intro j l first second
    by_cases mineJ : j = i
    · by_cases mineL : l = i
      · exact mineJ.trans mineL.symm
      · rw [Proceeds, others l mineL] at second
        exact absurd second ((proceeds (mineJ ▸ first)).1 l)
    · rw [Proceeds, others j mineJ] at first
      by_cases mineL : l = i
      · exact absurd first ((proceeds (mineL ▸ second)).1 j)
      · rw [Proceeds, others l mineL] at second
        exact h.once j l first second
  · intro j resolved
    by_cases mine : j = i
    · subst mine
      rw [after] at resolved
      cases op with
      | now => cases resolved
      | findOneAndUpdate _ _ => cases reply <;> cases resolved
      | updateOne other result createdAt expiresAt =>
          cases reply with
          | error _ => cases resolved
          | ok _ =>
              obtain rfl := StoreStage.resolved.inj resolved
              rw [resolved_of_act answered]
              rfl
    · rw [others j mine] at resolved
      exact lastResolved_of_act answered (h.resolved j resolved)

end

-- The contract

/-- At most one caller was told to proceed with the key. Once a resolution of it has completed
it has a result, which is not `null`, and is what every caller that acquires the key gets.
-/
structure StoreContract (calls : List (StoreCall T)) (key : String) (c : StoreConfig T) : Prop where
  proceeds : ∀ i j ttl ttl', calls[i]? = some (.acquire key ttl)
    → calls[j]? = some (.acquire key ttl') →
    c.value? i = some (.acquired none) → c.value? j = some (.acquired none) → i = j
  resolved : ∀ i result ttl, calls[i]? = some (.resolve key result ttl) →
    c.value? i = some .resolved → (c.world.lastResolved key).isSome = true
  told : ∀ result, c.world.lastResolved key = some result → result ≠ none
    ∧ ∀ i x c', WithinTtl key c x → acquires? (c.pending? i) = some key → x.outcome = .done →
      c.step storeSemantics i x = some c' → c'.value? i = some (.acquired result)

section

variable {calls : List (StoreCall T)} {key : String} {c c' : StoreConfig T} {i : Nat} {x : Choice}

theorem value?_of_acquired {answer : Option T} (governed : Governed calls c)
    (acquired : storeStage c i = .acquired key answer)
    : c.value? i = some (.acquired answer) := by
  have bound : i < c.threads.length := by
    by_contra outside
    have start : storeStage c i = .start := Protocol.phase_of_none _ (by simpa using outside)
    rw [start] at acquired
    cases acquired
  have found : c.threads[i]? = some c.threads[i] := List.getElem?_eq_getElem bound
  have rest := (governed.phase_eq found).2
  rw [show (storeProtocol T).phase (fun _ => .start) c i
    = .acquired key answer from acquired] at rest
  have value : c.value? i = c.threads[i].prog.value? := by
    unfold Config.value?
    rw [found]
    rfl
  rw [value]
  cases prog : c.threads[i].prog with
  | done result =>
      rw [prog] at rest
      obtain ⟨call, -, ends⟩ := rest
      cases call with
      | acquire _ _ =>
          obtain ⟨_, rfl, same⟩ := ends
          obtain ⟨-, rfl⟩ := StoreStage.acquired.inj same
          rfl
      | resolve _ _ _ => cases ends.2
  | fail error =>
      rw [prog] at rest
      rcases rest with same | same <;> cases same
  | call op next =>
      rw [prog] at rest
      obtain ⟨_, moved, -⟩ := rest (.error .uniqueConstraint)
      cases (next_eq_some moved).1

theorem Sound.contract (governed : Governed calls c) (h : Sound key c)
    : StoreContract calls key c where
  proceeds i j ttl ttl' first second valueI valueJ := by
    have told : ∀ {i ttl}, calls[i]? = some (.acquire key ttl)
      → c.value? i = some (.acquired none) →
        Proceeds key c i := by
      intro i ttl call value
      obtain ⟨call', same, ends⟩ := governed.value value
      obtain rfl := Option.some.inj (call.symm.trans same)
      obtain ⟨_, same, stage⟩ := ends
      obtain rfl := StoreAnswer.acquired.inj same
      exact stage
    exact h.once i j (told first valueI) (told second valueJ)
  resolved i result ttl call value := by
    obtain ⟨call', same, ends⟩ := governed.value value
    obtain rfl := Option.some.inj (call.symm.trans same)
    exact h.resolved i ends.2
  told result last := by
    refine ⟨fun null => ?_, fun i x c' within asks done stepped => ?_⟩
    · have value := isSome_of_shows h.shows last
      rw [null] at value
      cases value
    · obtain ⟨op, reply, -, pending, answered, moved, -, -, governed'⟩ :=
        governed.step_cases stepped
      have after : storeStage c' i = .after op reply := (next_eq_some moved).2.2
      rw [pending] at asks
      cases op with
      | now => cases asks
      | updateOne _ _ _ _ => cases asks
      | findOneAndUpdate other inserted =>
          obtain rfl : other = key := Option.some.inj asks
          have effective := (Environment.act_eq_some answered).2
          rw [show storeEnvironment.outcome x = .done from done] at effective
          obtain rfl := congrArg Prod.fst effective
          have answer : answerOf (c.world.records other) = result := by
            rw [answerOf_of_shows h.shows, last]
            rfl
          obtain ⟨before, -, -⟩ := acquired_of_act within answered
          have acquired : storeStage c' i = .acquired other (answerOf (c.world.records other)) := by
            rw [after, ← before]
            rfl
          rw [← answer]
          exact value?_of_acquired governed' acquired

end

/-- In every run within the time to live of a key, in which it is not acquired while pending for a
caller who was told to proceed and not resolved with `null`, its contract is met in every state.
-/
theorem one_caller_proceeds (calls : List (StoreCall T)) (key : String) (w : World T)
    (unused : w.records key = none ∧ w.lastResolved key = none) (c : StoreConfig T)
    (reached : Config.Reaches storeSemantics (OneProceeds key) (storeCalls calls w) c)
    : StoreContract calls key c := by
  have start : ∀ i, storeStage (storeCalls calls w) i = .start := fun i => Protocol.phase_initial _
  have base : Sound key (storeCalls calls w) := by
    have nobody : ∀ i, ¬ Proceeds key (storeCalls calls w) i := by
      intro i proceeds
      rw [Proceeds, start] at proceeds
      cases proceeds
    refine ⟨?_, fun i proceeds => absurd proceeds (nobody i),
      fun i _ proceeds => absurd proceeds (nobody i), fun i resolved => ?_⟩
    · unfold World.Shows
      rw [show (storeCalls calls w).world.records key = none from unused.1]
      exact unused.2
    · rw [start] at resolved
      cases resolved
  obtain ⟨governed, sound⟩ := Protocol.Governs.invariant governed_storeCalls base
    (fun _ _ _ _ governed sound allowed stepped => sound.step governed allowed stepped) reached
  exact sound.contract governed

-- Runs of three calls

/-- No document. -/
def emptyStore : World Nat where
  clock := 0
  records := fun _ => none
  lastResolved := fun _ => none

/-- Two callers that acquire a key, and a resolution of it. -/
def threeCalls (result : Option Nat) : List (StoreCall Nat) :=
  [.acquire "key", .acquire "key", .resolve "key" result]

def inTurn (order : List Nat) : List (Nat × Choice) :=
  order.map (fun i => (i, { time := 0 }))

/-- One caller proceeds and resolves the key, and the other gets the result. -/
theorem one_caller_proceeds_sequence
    : ∃ c, Config.Reaches storeSemantics (OneProceeds "key")
        (storeCalls (threeCalls (some 7)) emptyStore) c
      ∧ (c.value? 0 = some (.acquired none) ∧ c.value? 1 = some (.acquired (some 7)))
      ∧ StoreContract (threeCalls (some 7)) "key" c := by
  have executed :
      ((storeCalls (threeCalls (some 7)) emptyStore).run storeSemantics (OneProceeds "key")
        (inTurn [0, 0, 2, 2, 1, 1])).map (fun c => (c.value? 0, c.value? 1))
      = some (some (.acquired none), some (.acquired (some 7))) := by
    decide +kernel
  obtain ⟨c, reached, values⟩ := Config.reaches_of_run executed
  obtain ⟨first, second⟩ := Prod.mk.inj values
  exact ⟨c, reached, ⟨first, second⟩,
    one_caller_proceeds (threeCalls (some 7)) "key" emptyStore ⟨rfl, rfl⟩ c reached⟩

/-- Two callers are told to proceed before a result is resolved; and so is one that acquires the
key after it was resolved with `null`.
-/
theorem two_callers_proceed
    : (∃ c, Config.Reaches storeSemantics (fun c _ x => WithinTtl "key" c x)
          (storeCalls (threeCalls (some 7)) emptyStore) c
        ∧ c.world.lastResolved "key" = none
        ∧ ¬ StoreContract (threeCalls (some 7)) "key" c)
      ∧ ∃ c, Config.Reaches storeSemantics (fun c _ x => WithinTtl "key" c x)
          (storeCalls (threeCalls none) emptyStore) c
        ∧ c.value? 2 = some .resolved ∧ c.value? 1 = some (.acquired none)
        ∧ ¬ StoreContract (threeCalls none) "key" c := by
  have first :
      ((storeCalls (threeCalls (some 7)) emptyStore).run storeSemantics
        (fun c _ x => WithinTtl "key" c x)
        (inTurn [0, 0, 1, 1])).map (fun c => (c.world.lastResolved "key", c.value? 0, c.value? 1))
      = some (none, some (.acquired none), some (.acquired none)) := by
    decide +kernel
  have second :
      ((storeCalls (threeCalls none) emptyStore).run storeSemantics
        (fun c _ x => WithinTtl "key" c x)
        (inTurn [0, 0, 2, 2, 1, 1])).map (fun c => (c.world.lastResolved "key", c.value? 2,
          c.value? 1))
      = some (some none, some .resolved, some (.acquired none)) := by
    decide +kernel
  constructor
  · obtain ⟨c, reached, values⟩ := Config.reaches_of_run first
    obtain ⟨unresolved, values⟩ := Prod.mk.inj values
    obtain ⟨valueI, valueJ⟩ := Prod.mk.inj values
    refine ⟨c, reached, unresolved, fun contract => ?_⟩
    exact absurd (contract.proceeds 0 1 _ _ rfl rfl valueI valueJ) (by decide)
  · obtain ⟨c, reached, values⟩ := Config.reaches_of_run second
    obtain ⟨last, values⟩ := Prod.mk.inj values
    obtain ⟨resolved, told⟩ := Prod.mk.inj values
    exact ⟨c, reached, resolved, told, fun contract => (contract.told none last).1 rfl⟩

end AcbuBackend.Idempotency

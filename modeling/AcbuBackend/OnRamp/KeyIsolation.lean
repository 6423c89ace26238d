import AcbuBackend.Effects.Concurrent
import AcbuBackend.Effects.Isolation
import AcbuBackend.OnRamp.RequestProtocol
import AcbuBackend.Runtime.KeyedTables

/-! `mintFromUsdc` beside the requests of other users.
Its lookups are scoped to the caller, but a raw key is unique in the whole table. Where no
insert of a user meets the key on a row of another one, the user's requests do what they would
do without the others, and name the user's own swaps only.
-/

namespace AcbuBackend.OnRamp

open Effects Effects.Prog AcbuBackend.Runtime Mint

variable {dep : Deployment}

def swapColumns : Keyed OnRampSwap where
  owner := OnRampSwap.userId
  key := OnRampSwap.idempotencyKey

-- What a request reads and writes under its user

/-- The calls of the mint code that leave its tables and the chain alone. -/
def readsOnly : MintOp → Bool
  | .createTransaction _ | .updateTransaction .. | .invokeContract .. => false
  | _ => true

/-- The caller of a request, and the swap it may answer with. -/
structure CallerPhase where
  user : Option String
  named : Option SwapId

def nextCaller (phase : CallerPhase) : (op : OnRampOp) → Except JsError op.Ret → Option CallerPhase
  | .mint none op, _ => if readsOnly op then some phase else none
  | .findByIdempotencyKey _ userId, reply =>
      if phase.user = some userId then
        match reply with
        | .ok (some (id, _)) => some { phase with named := some id }
        | _ => some phase
      else none
  | .createSwap data, reply =>
      if phase.user = some data.userId then
        match reply with
        | .ok id => some { phase with named := some id }
        | .error _ => some phase
      else none
  | .sendToQueue _, _ => some phase
  | _, _ => none

def callerProtocol : Protocol onRampInterface CallerPhase where
  next := nextCaller

/-- A 202 names the swap the request has found or created. -/
def AnswersNamed (result : OnRampResult) (phase : CallerPhase) : Prop :=
  ∀ body, result = .accepted body → phase.named = some body.on_ramp_swap_id

section

variable {userId : String} {Q : CallerPhase → Prop} {phase : CallerPhase}

theorem wp_reading {α : Type} {prog : Prog mintInterface α} {Q : α → CallerPhase → Prop}
    (reads : (Protocol.only (I := mintInterface) (fun op => readsOnly op = true)).wp prog ()
      (fun _ _ => True) (fun _ _ => True))
    (hQ : ∀ value, Q value phase)
    : callerProtocol.wp (service none prog) phase Q (fun _ _ => True) := by
  have inside : callerProtocol.wp (service none prog) phase (fun _ phase' => True ∧ phase' = phase)
      (fun _ phase' => (∃ _ : JsError, True) ∧ phase' = phase) :=
    Protocol.wp_of_only (Protocol.only_within (fun op reading _ => if_pos reading) reads)
  apply Protocol.wp_mono inside
  · rintro value _ ⟨-, rfl⟩
    exact hQ value
  · exact fun _ _ _ => trivial

theorem wp_findOwn {key : Option String}
    : callerProtocol.wp (findExisting key userId) ⟨some userId, none⟩
        (fun found phase =>
          match found with
          | some (id, _) => phase.named = some id
          | none => phase = ⟨some userId, none⟩)
        (fun _ _ => True) := by
  cases key with
  | none => rfl
  | some key =>
      refine Protocol.wp_await.mpr ⟨?_, fun _ => ⟨_, if_pos rfl, trivial⟩⟩
      rintro (_ | ⟨id, row⟩)
      · exact ⟨_, if_pos rfl, rfl⟩
      · exact ⟨_, if_pos rfl, rfl⟩

theorem wp_createOwn {data : OnRampSwap} (mine : data.userId = userId)
    : callerProtocol.wp (createSwap data) ⟨some userId, none⟩
        (fun created phase =>
          match created with
          | .inl id | .inr (id, _) => phase.named = some id)
        (fun _ _ => True) := by
  subst mine
  unfold createSwap
  simp only [Protocol.wp_catchWith, Protocol.wp_bind, Protocol.wp_await, Protocol.wp_pure]
  refine ⟨fun id => ⟨_, if_pos rfl, rfl⟩, fun createError => ⟨_, if_pos rfl, ?_⟩⟩
  cases data.idempotencyKey with
  | none => trivial
  | some key =>
      cases createError with
      | app _ | error _ => trivial
      | uniqueConstraint =>
          simp only [Protocol.wp_bind, Protocol.wp_orThrow, Protocol.wp_pure]
          refine Protocol.wp_await.mpr ⟨?_, fun _ => ⟨_, if_pos rfl, trivial⟩⟩
          rintro (_ | ⟨id, row⟩)
          · exact ⟨_, if_pos rfl, by simp⟩
          · refine ⟨_, if_pos rfl, ?_, by simp⟩
            rintro _ ⟨⟩
            rfl

theorem wp_registerOwn {data : OnRampSwap} {payload : SwapId → Payload} {message : String}
    (mine : data.userId = userId)
    : callerProtocol.wp (registerSwap data payload message) ⟨some userId, none⟩
        AnswersNamed (fun _ _ => True) := by
  unfold registerSwap
  rw [Protocol.wp_bind]
  apply Protocol.wp_mono (wp_createOwn mine)
  · rintro (id | ⟨id, row⟩) phase named
    · simp only [Protocol.wp_bind, Protocol.wp_await, Protocol.wp_pure]
      refine ⟨fun _ => ⟨phase, rfl, ?_⟩, fun _ => ⟨phase, rfl, trivial⟩⟩
      rintro _ ⟨⟩
      exact named
    · rintro _ ⟨⟩
      exact named
  · exact fun _ _ _ => trivial

end

theorem wp_caller (req : UsdcRequest)
    : callerProtocol.wp (mintFromUsdc dep req) ⟨callerId? req.apiKey, none⟩
        AnswersNamed (fun _ _ => True) := by
  unfold mintFromUsdc
  simp only [Protocol.wp_bind, Protocol.wp_orThrow, Protocol.wp_fromExcept, implies_true, and_true]
  intro userId caller key _
  rw [caller]
  apply Protocol.wp_mono wp_findOwn
  · rintro (_ | ⟨id, row⟩) phase found
    · obtain rfl := found
      unfold submitUsdc
      simp only [Protocol.wp_bind, Protocol.wp_fromExcept, Protocol.wp_ensure, implies_true,
        and_true]
      intro body _
      apply wp_reading (by simp [assertUserWalletAddress, readsOnly])
      intro wallet amount _
      apply wp_reading (by simp [readsOnly])
      intro paused _
      apply wp_reading (by simp [readsOnly])
      intro _
      exact wp_registerOwn rfl
    · rintro _ ⟨⟩
      exact found
  · exact fun _ _ _ => trivial

-- What an allowed call does

theorem create_eq {w : World} {id : SwapId} {data : OnRampSwap}
    : w.create id data
      = if swapColumns.taken w.swaps data.idempotencyKey then (.error .uniqueConstraint, w)
        else (.ok id, w.put id data) := by
  exact if_congr Bool.and_eq_true_iff.symm rfl rfl

theorem readsOnly_effect {x : Choice} {w : Mint.World} {op : MintOp} (reads : readsOnly op = true)
    : (Mint.effect x.toChoice w op).2 = w := by
  cases op with
  | createTransaction | updateTransaction | invokeContract => cases reads
  | _ => rfl

/-- What is left alone of the swaps and the mint code's tables, or the swap that is new. -/
inductive CallerStep (x : Choice) (w w' : World) : OnRampOp → Prop
  | same (op : OnRampOp) (swaps : w'.swaps = w.swaps) (mint : w'.mint = w.mint)
    : CallerStep x w w' op
  | created (data : OnRampSwap) (fresh : x.freshSwapId ∉ w.swaps)
    (free : swapColumns.taken w.swaps data.idempotencyKey = false)
    (put : w' = w.put x.freshSwapId data)
    : CallerStep x w w' (.createSwap data)

variable {phase phase' : CallerPhase} {op : OnRampOp} {i : Nat} {x : Choice} {w w' s : World}
  {reply : onRampInterface.Reply op} {userId : String}

theorem CallerStep.of_act (allowed : nextCaller phase op reply = some phase')
    (answered : onRampSemantics.act i op x w = some (reply, w'))
    : CallerStep x w w' op := by
  obtain ⟨possible, answer⟩ := act_eq_some answered
  rcases Outcome.answer_world answer with rfl | left
  · exact .same op rfl rfl
  · cases op with
    | mint onRampSwapId op =>
        cases onRampSwapId with
        | some _ => cases allowed
        | none =>
            have reads : readsOnly op = true := (Option.ite_none_right_eq_some.mp allowed).1
            refine .same _ (by rw [left]; rfl) ?_
            rw [left]
            exact readsOnly_effect reads
    | createSwap data =>
        simp only [effect, create_eq] at left
        split at left
        · subst left
          exact .same _ rfl rfl
        · rename_i free
          exact .created data (by simpa [admissible] using possible) (by simpa using free) left
    | findByIdempotencyKey key userId | sendToQueue message =>
        subst left
        exact .same _ rfl rfl
    | _ => cases allowed

theorem caller_user (allowed : nextCaller phase op reply = some phase')
    : phase'.user = phase.user := by
  cases op with
  | mint onRampSwapId op =>
      cases onRampSwapId with
      | some _ => cases allowed
      | none =>
          obtain ⟨-, same⟩ := Option.ite_none_right_eq_some.mp allowed
          rw [← Option.some.inj same]
  | findByIdempotencyKey | createSwap =>
      obtain ⟨-, moved⟩ := Option.ite_none_right_eq_some.mp allowed
      split at moved <;> rw [← Option.some.inj moved]
  | sendToQueue => rw [← Option.some.inj allowed]
  | _ => cases allowed

theorem caller_named {id : SwapId} (allowed : nextCaller phase op reply = some phase')
    (named : phase'.named = some id)
    : phase.named = some id
      ∨ (∃ key userId row, phase.user = some userId
          ∧ (⟨op, reply⟩ : Event onRampInterface)
            = ⟨.findByIdempotencyKey key userId, .ok (some (id, row))⟩)
      ∨ ∃ data, phase.user = some data.userId
          ∧ (⟨op, reply⟩ : Event onRampInterface) = ⟨.createSwap data, .ok id⟩ := by
  cases op with
  | mint onRampSwapId op =>
      cases onRampSwapId with
      | some _ => cases allowed
      | none =>
          obtain ⟨-, same⟩ := Option.ite_none_right_eq_some.mp allowed
          obtain rfl := Option.some.inj same
          exact .inl named
  | findByIdempotencyKey key userId =>
      obtain ⟨mine, moved⟩ := Option.ite_none_right_eq_some.mp allowed
      split at moved
      · obtain rfl := Option.some.inj moved
        obtain rfl := Option.some.inj named
        exact .inr (.inl ⟨key, userId, _, mine, rfl⟩)
      · obtain rfl := Option.some.inj moved
        exact .inl named
  | createSwap data =>
      obtain ⟨mine, moved⟩ := Option.ite_none_right_eq_some.mp allowed
      split at moved
      · obtain rfl := Option.some.inj moved
        obtain rfl := Option.some.inj named
        exact .inr (.inr ⟨data, mine, rfl⟩)
      · obtain rfl := Option.some.inj moved
        exact .inl named
  | sendToQueue =>
      obtain rfl := Option.some.inj allowed
      exact .inl named
  | _ => cases allowed

-- Runs

/-- The caller of request `i`. -/
def callerAt (requests : List UsdcRequest) (i : Nat) : Option String :=
  (requests[i]?).bind (fun req => callerId? req.apiKey)

def requestsOf (requests : List UsdcRequest) (userId : String) (i : Nat) : Bool :=
  callerAt requests i = some userId

def depositsConfig (dep : Deployment) (requests : List UsdcRequest)
    (swaps : AList (fun _ : SwapId => OnRampSwap)) (queue : List Message)
    : OnRampConfig :=
  initialConfig dep (requests.map .mintFromUsdc) swaps queue

def insertedKey? : Option OnRampOp → Option String
  | some (.createSwap data) => data.idempotencyKey
  | _ => none

/-- No insert of the user that takes effect meets its key on a swap of another user. -/
def KeyFree (requests : List UsdcRequest) (userId : String) (c : OnRampConfig) (i : Nat)
    (x : Choice)
    : Prop :=
  requestsOf requests userId i = true → x.outcome.isFailed = false →
    swapColumns.takenByOther userId c.world.swaps (insertedKey? (c.pending? i)) = false

instance {requests : List UsdcRequest} {userId : String} (c : OnRampConfig) (i : Nat) (x : Choice)
    : Decidable (KeyFree requests userId c i x) := by
  unfold KeyFree
  infer_instance

def startCaller (requests : List UsdcRequest) (i : Nat) : CallerPhase :=
  ⟨callerAt requests i, none⟩

variable {requests : List UsdcRequest}

/-- Every request keeps to its caller's swaps, and those it names are there. -/
structure CallersKept (requests : List UsdcRequest) (c : OnRampConfig) : Prop where
  governed : callerProtocol.Governs (startCaller requests) (fun _ => AnswersNamed)
    (fun _ _ _ => True) c
  user : ∀ i, (callerProtocol.phase (startCaller requests) c i).user = callerAt requests i
  unique : swapColumns.Unique c.world.swaps
  named : ∀ i id, (callerProtocol.phase (startCaller requests) c i).named = some id →
    ∃ row, c.world.swaps.lookup id = some row ∧ callerAt requests i = some row.userId

/-- The second world lacks swaps of other users at most. -/
structure Less (userId : String) (w s : World) : Prop where
  swaps : swapColumns.Apart userId w.swaps s.swaps
  mint : s.mint = w.mint

theorem callersKept_initial {swaps : AList (fun _ : SwapId => OnRampSwap)} {queue : List Message}
    (unique : swapColumns.Unique swaps)
    : CallersKept requests (depositsConfig dep requests swaps queue) where
  governed := by
    apply Protocol.governs_initial
    intro i prog found
    obtain ⟨party, at', rfl⟩ := Option.map_eq_some_iff.mp ((List.getElem?_map ..).symm.trans found)
    obtain ⟨req, atReq, rfl⟩ := Option.map_eq_some_iff.mp ((List.getElem?_map ..).symm.trans at')
    have start : startCaller requests i = ⟨callerId? req.apiKey, none⟩ := by
      simp [startCaller, callerAt, atReq]
    rw [start]
    exact wp_caller req
  user i := by
    rw [depositsConfig, initialConfig, Protocol.phase_initial]
    rfl
  unique := unique
  named i id named := by
    rw [depositsConfig, initialConfig, Protocol.phase_initial] at named
    cases named

theorem CallerStep.owner (h : CallerStep x w w' op) {id : SwapId} {row : OnRampSwap}
    (found : w.swaps.lookup id = some row)
    : w'.swaps.lookup id = some row := by
  cases h with
  | same _ swaps => rw [swaps, found]
  | created data fresh _ put =>
      have different : id ≠ x.freshSwapId := by
        rintro rfl
        exact fresh (AList.lookup_isSome.mp (by rw [found]; rfl))
      rw [put, World.put, AList.lookup_insert_ne different, found]

theorem CallerStep.unique (h : CallerStep x w w' op) (unique : swapColumns.Unique w.swaps)
    : swapColumns.Unique w'.swaps := by
  cases h with
  | same _ swaps => rw [swaps]; exact unique
  | created data _ free put =>
      rw [put]
      exact unique.insert_free free

theorem named_row {id : SwapId} (answered : onRampSemantics.act i op x w = some (reply, w'))
    (event : (∃ key userId row, phase.user = some userId
        ∧ (⟨op, reply⟩ : Event onRampInterface)
          = ⟨.findByIdempotencyKey key userId, .ok (some (id, row))⟩)
      ∨ ∃ data, phase.user = some data.userId
        ∧ (⟨op, reply⟩ : Event onRampInterface) = ⟨.createSwap data, .ok id⟩)
    : ∃ row, w'.swaps.lookup id = some row ∧ phase.user = some row.userId := by
  rcases event with ⟨key, userId, row, mine, ⟨⟩⟩ | ⟨data, mine, ⟨⟩⟩
  · obtain ⟨-, answer⟩ := act_eq_some answered
    obtain ⟨-, read⟩ := Outcome.answer_ok answer
    obtain ⟨first, rfl⟩ := Prod.mk.inj read
    obtain ⟨e, found, same⟩ := Option.map_eq_some_iff.mp (Except.ok.inj first)
    obtain ⟨rfl, rfl⟩ := Prod.mk.inj same
    have wanted := List.find?_some found
    simp only [decide_eq_true_eq] at wanted
    refine ⟨e.2, AList.mem_lookup_iff.mpr (List.mem_of_find?_eq_some found), ?_⟩
    rw [mine, wanted.2]
  · obtain ⟨-, answer⟩ := act_eq_some answered
    obtain ⟨-, made⟩ := Outcome.answer_ok answer
    simp only [effect, create_eq] at made
    split at made
    · cases (Prod.mk.inj made).1
    · obtain ⟨same, rfl⟩ := Prod.mk.inj made
      obtain rfl := Except.ok.inj same
      exact ⟨data, AList.lookup_insert _, mine⟩

theorem CallersKept.step {c c' : OnRampConfig} (h : CallersKept requests c)
    (stepped : c.step onRampSemantics i x = some c')
    : CallersKept requests c' := by
  obtain ⟨op, reply, -, -, answered, moved, -, others, governed⟩ := h.governed.step_cases stepped
  have world := CallerStep.of_act moved answered
  have user := caller_user moved
  refine ⟨governed, fun j => ?_, world.unique h.unique, fun j id named => ?_⟩
  · by_cases mine : j = i
    · subst mine
      exact user.trans (h.user j)
    · rw [(others j mine).1]
      exact h.user j
  · have before : (callerProtocol.phase (startCaller requests) c j).named = some id →
        ∃ row, c'.world.swaps.lookup id = some row ∧ callerAt requests j = some row.userId := by
      intro earlier
      obtain ⟨row, found, owner⟩ := h.named j id earlier
      exact ⟨row, world.owner found, owner⟩
    by_cases mine : j = i
    · subst mine
      rcases caller_named moved named with earlier | event
      · exact before earlier
      · obtain ⟨row, found, owner⟩ := named_row answered event
        exact ⟨row, found, (h.user j).symm.trans owner⟩
    · rw [(others j mine).1] at named
      exact before named

theorem Less.of_other {c c' : OnRampConfig} (related : Less userId c.world s)
    (h : CallersKept requests c) (other : requestsOf requests userId i = false)
    (stepped : c.step onRampSemantics i x = some c')
    : Less userId c'.world s := by
  obtain ⟨op, reply, -, -, answered, moved, -, -, -⟩ := h.governed.step_cases stepped
  cases CallerStep.of_act moved answered with
  | same _ swaps mint =>
      exact ⟨by rw [swaps]; exact related.swaps, related.mint.trans mint.symm⟩
  | created data fresh _ put =>
      have owner := (Option.ite_none_right_eq_some.mp moved).1
      rw [h.user i] at owner
      have foreign : data.userId ≠ userId := by
        rintro rfl
        simp [requestsOf, owner] at other
      rw [put]
      refine ⟨related.swaps.insert_other foreign fun old found => ?_, related.mint⟩
      exact absurd (AList.lookup_isSome.mp (by rw [found]; rfl)) fresh

theorem Less.act (related : Less userId w s) (unique : swapColumns.Unique w.swaps)
    (allowed : nextCaller phase op reply = some phase') (mine : phase.user = some userId)
    (free : x.outcome.isFailed = false →
      swapColumns.takenByOther userId w.swaps (insertedKey? (some op)) = false)
    (answered : onRampSemantics.act i op x w = some (reply, w'))
    : ∃ s', onRampSemantics.act i op x s = some (reply, s') ∧ Less userId w' s' := by
  have possible : admissible op x w = true → admissible op x s = true := by
    intro possible
    cases op with
    | mint onRampSwapId op =>
        change Mint.admissible op x.toChoice s.mint = true
        rw [related.mint]
        exact possible
    | createSwap =>
        have fresh : x.freshSwapId ∉ w.swaps := by simpa [admissible] using possible
        exact decide_eq_true (fun there => fresh (related.swaps.mem there))
    | findByIdempotencyKey | sendToQueue => rfl
    | _ => cases allowed
  have answers : x.outcome = .done → (effect x s op).1 = (effect x w op).1 := by
    intro done
    cases op with
    | mint onRampSwapId op =>
        change (Mint.effect x.toChoice s.mint op).1 = (Mint.effect x.toChoice w.mint op).1
        rw [related.mint]
    | findByIdempotencyKey key asked =>
        obtain rfl : userId = asked :=
          Option.some.inj (mine.symm.trans (Option.ite_none_right_eq_some.mp allowed).1)
        change Except.ok (s.findFirst key userId) = .ok (w.findFirst key userId)
        unfold World.findFirst
        rw [related.swaps.find?_eq unique (k := key)
          (p := fun row => row.idempotencyKey = some key ∧ row.userId = userId)
          (fun row wanted => (of_decide_eq_true wanted).1)
          (fun _ row _ wanted => (of_decide_eq_true wanted).2)]
    | createSwap data =>
        have same := related.swaps.taken_eq (free (by rw [done]; rfl))
        simp only [insertedKey?] at same
        simp only [effect, create_eq, same]
        split <;> rfl
    | sendToQueue => rfl
    | _ => cases allowed
  have leaves : x.outcome.isFailed = false → Less userId (effect x w op).2 (effect x s op).2 := by
    intro taking
    cases op with
    | mint onRampSwapId op =>
        cases onRampSwapId with
        | some _ => cases allowed
        | none =>
            have reads : readsOnly op = true := (Option.ite_none_right_eq_some.mp allowed).1
            exact ⟨related.swaps, (readsOnly_effect reads).trans
              (related.mint.trans (readsOnly_effect reads).symm)⟩
    | createSwap data =>
        have owner : data.userId = userId :=
          Option.some.inj ((Option.ite_none_right_eq_some.mp allowed).1.symm.trans mine)
        have same := related.swaps.taken_eq (free taking)
        simp only [insertedKey?] at same
        have fresh : x.freshSwapId ∉ w.swaps := by
          simpa [admissible] using (act_eq_some answered).1
        simp only [effect, create_eq, same]
        split
        · exact related
        · refine ⟨related.swaps.insert_own owner fun old found => ?_, related.mint⟩
          exact absurd (AList.lookup_isSome.mp (by rw [found]; rfl)) fresh
    | findByIdempotencyKey | sendToQueue => exact ⟨related.swaps, related.mint⟩
    | _ => cases allowed
  exact Environment.act_of_related related possible answers leaves answered

/-- Beside the requests of other users, those of one user do what they would do without them,
and name its own swaps.
-/
theorem callers_isolated {swaps less : AList (fun _ : SwapId => OnRampSwap)} {queue : List Message}
    {schedule : List (Nat × Choice)} {c : OnRampConfig} (unique : swapColumns.Unique swaps)
    (apart : swapColumns.Apart userId swaps less)
    (executed : (depositsConfig dep requests swaps queue).run onRampSemantics
      (KeyFree requests userId) schedule = some c)
    : (∃ s, (depositsConfig dep requests less queue).run onRampSemantics Config.anyStep
          (Config.stepsOf (requestsOf requests userId) schedule) = some s
        ∧ Config.SameThreads (requestsOf requests userId) c s
        ∧ swapColumns.Apart userId c.world.swaps s.world.swaps)
      ∧ ∀ i body, requestsOf requests userId i = true → c.value? i = some (.accepted body) →
        ∃ row, c.world.swaps.lookup body.on_ramp_swap_id = some row ∧ row.userId = userId := by
  have start : Config.SameThreads (requestsOf requests userId)
      (depositsConfig dep requests swaps queue) (depositsConfig dep requests less queue) :=
    fun _ _ => rfl
  obtain ⟨kept, s, alone, same, related⟩ := Config.run_stepsOf (J := CallersKept requests)
    (R := Less userId) (fun _ _ _ _ h _ stepped => h.step stepped)
    (fun _ _ _ _ _ h related other stepped => related.of_other h other stepped)
    (fun c w i x op reply w' h related mine free pending answered => by
      obtain ⟨phase', allowed⟩ := h.governed.pending pending reply
      have caller : callerAt requests i = some userId := of_decide_eq_true mine
      refine related.act h.unique allowed ((h.user i).trans caller) (fun taking => ?_) answered
      exact pending ▸ free mine taking)
    executed (callersKept_initial unique) start ⟨apart, rfl⟩
  refine ⟨⟨s, alone, same, related.swaps⟩, fun i body mine answered => ?_⟩
  have named := kept.governed.value answered body rfl
  obtain ⟨row, found, owner⟩ := kept.named i _ named
  have caller : callerAt requests i = some userId := of_decide_eq_true mine
  exact ⟨row, found, Option.some.inj (owner.symm.trans caller)⟩

end AcbuBackend.OnRamp

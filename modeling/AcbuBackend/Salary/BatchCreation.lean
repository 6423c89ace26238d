import AcbuBackend.Effects.Isolation
import AcbuBackend.Runtime.KeyedTables
import AcbuBackend.Salary.Model

/-! `createSalaryBatch` beside the batches of other users.
Its lookup of a raw key is not scoped to the caller. Where no lookup and no insert of a user
meets the key on a batch of another one, the user's requests do what they would do without the
others, and name the user's own batches only.
-/

namespace AcbuBackend.Salary

open Effects Effects.Prog AcbuBackend.Runtime
open Mint (TransactionStatus)

-- Batches with their keys

/-- An item as a batch is created with it. -/
structure NewItem where
  recipientId : Option String
  recipientAddress : String
  amount : ℚ
  status : TransactionStatus := .pending

/-- A row of `salary_batches` as it is created, with its items. -/
structure BatchRow where
  organizationId : Option String
  userId : String
  totalAmount : ℚ
  currency : String
  idempotencyKey : Option String
  status : BatchStatus
  items : List NewItem

/-- The calls of `createSalaryBatch`. `setImmediate` starts the processing of a batch in the
background.
-/
inductive CreationOp
  | findBatchByKey (idempotencyKey : String)
  | createBatch (data : BatchRow)
  | setImmediate (id : BatchId)

abbrev CreationOp.Ret : CreationOp → Type
  | .findBatchByKey _ => Option (BatchId × BatchStatus)
  | .createBatch _ => BatchId
  | .setImmediate _ => Unit

abbrev creationInterface : Interface where
  Op := CreationOp
  Ret := CreationOp.Ret
  Err := JsError

/-- Issues a call of `createSalaryBatch`. -/
abbrev send (op : CreationOp) : Prog creationInterface op.Ret :=
  Prog.await (I := creationInterface) op

/-- The table, and the batches whose processing was started. -/
structure BatchWorld where
  batches : AList (fun _ : BatchId => BatchRow)
  started : List BatchId := []

/-- What the environment answers a call with. -/
structure CreationChoice where
  outcome : Outcome JsError := .done
  freshId : BatchId := ""

/-- `prisma.salaryBatch.findUnique` by key. -/
def BatchWorld.findByKey (w : BatchWorld) (key : String) : Option (BatchId × BatchStatus) :=
  (w.batches.entries.find? (fun e => e.2.idempotencyKey = some key)).map
    (fun e => (e.1, e.2.status))

/-- `prisma.salaryBatch.create` under a fresh id; the idempotency key is unique. -/
def BatchWorld.create (w : BatchWorld) (id : BatchId) (data : BatchRow)
    : Except JsError BatchId × BatchWorld :=
  if data.idempotencyKey.isSome
      ∧ w.batches.entries.any (fun e => e.2.idempotencyKey = data.idempotencyKey)
  then (.error .uniqueConstraint, w)
  else (.ok id, { w with batches := w.batches.insert id data })

/-- What a call that takes place answers, and the world it leaves. -/
def creationEffect (x : CreationChoice) (w : BatchWorld)
    : (op : CreationOp) → Except JsError op.Ret × BatchWorld
  | .findBatchByKey key => (.ok (w.findByKey key), w)
  | .createBatch data => w.create x.freshId data
  | .setImmediate id => (.ok (), { w with started := id :: w.started })

/-- The environment's part of a call: a new id is not in use, and starting a task does not
fail.
-/
def creationAdmissible (op : CreationOp) (x : CreationChoice) (w : BatchWorld) : Bool :=
  match op with
  | .createBatch _ => x.freshId ∉ w.batches
  | .setImmediate _ => x.outcome = .done
  | .findBatchByKey _ => true

def creationEnvironment : Environment creationInterface BatchWorld CreationChoice where
  outcome := CreationChoice.outcome
  effect := creationEffect
  admissible := creationAdmissible

def creationSemantics : Semantics creationInterface BatchWorld CreationChoice :=
  creationEnvironment.semantics

-- createSalaryBatch

/-- `new Decimal(s)`, and how a decimal is written. -/
structure DecimalText where
  parse : String → Except JsError ℚ
  toText : ℚ → String

structure BatchItemParams where
  recipientId : Option String
  recipientAddress : String
  amount : String

structure CreateSalaryBatchParams where
  organizationId : Option String
  userId : String
  totalAmount : Option String
  currency : String
  idempotencyKey : Option String
  items : List BatchItemParams

structure CreateSalaryBatchResult where
  batchId : BatchId
  status : BatchStatus
deriving DecidableEq

/-- The batch a key was used for before, whoever used it. -/
def findExistingBatch (idempotencyKey : Option String)
    : Prog creationInterface (Option (BatchId × BatchStatus)) :=
  match idempotencyKey.filter (fun key => key ≠ "") with
  | none => return none
  | some key => send (.findBatchByKey key)

/-- The total of a request has to be the one of its items. -/
def checkTotal (dec : DecimalText) (totalAmount : Option String) (calculatedTotal : ℚ)
    : Prog creationInterface Unit :=
  match totalAmount.filter (fun total => total ≠ "") with
  | none => return ()
  | some totalAmount => do
      let total ← fromExcept (dec.parse totalAmount)
      ensure (total = calculatedTotal)
        (plainAppError
          s!"Total amount mismatch. Expected {dec.toText calculatedTotal}, got {totalAmount}" 400)

def CreateSalaryBatchParams.row (params : CreateSalaryBatchParams) (amounts : List ℚ)
    : BatchRow where
  organizationId := params.organizationId
  userId := params.userId
  totalAmount := amounts.sum
  currency := if params.currency = "" then "ACBU" else params.currency
  idempotencyKey := params.idempotencyKey
  status := .pending
  items := (params.items.zip amounts).map (fun (item, amount) =>
    { recipientId := item.recipientId, recipientAddress := item.recipientAddress, amount })

def createSalaryBatch (dec : DecimalText) (params : CreateSalaryBatchParams)
    : Prog creationInterface CreateSalaryBatchResult := do
  let existing ← findExistingBatch params.idempotencyKey
  match existing with
  | some (batchId, status) => return { batchId, status }
  | none =>
      let amounts ← fromExcept (params.items.mapM (fun item => dec.parse item.amount))
      checkTotal dec params.totalAmount amounts.sum
      let id ← send (.createBatch (params.row amounts))
      send (.setImmediate id)
      return { batchId := id, status := .pending }

-- What a request reads and writes

def batchColumns : Keyed BatchRow where
  owner := BatchRow.userId
  key := BatchRow.idempotencyKey

/-- The caller of a request, and the batch it may answer with. -/
structure CreationPhase where
  user : Option String
  named : Option BatchId

/-- A request creates batches of its caller. Its lookup may find any. -/
def nextCreation (phase : CreationPhase)
    : (op : CreationOp) → Except JsError op.Ret → Option CreationPhase
  | .findBatchByKey _, .ok (some (id, _)) => some { phase with named := some id }
  | .createBatch data, reply =>
      if phase.user = some data.userId then
        match reply with
        | .ok id => some { phase with named := some id }
        | .error _ => some phase
      else none
  | _, _ => some phase

def creationProtocol : Protocol creationInterface CreationPhase where
  next := nextCreation

theorem wp_findExistingBatch {key : Option String} {phase : CreationPhase}
    : creationProtocol.wp (findExistingBatch key) phase
        (fun found phase' =>
          match found with
          | some (id, _) => phase'.named = some id
          | none => phase' = phase)
        (fun _ _ => True) := by
  unfold findExistingBatch
  cases key.filter (fun key => key ≠ "") with
  | none => rfl
  | some key =>
      refine Protocol.wp_await.mpr ⟨?_, fun _ => ⟨_, rfl, trivial⟩⟩
      rintro (_ | ⟨id, status⟩)
      · exact ⟨_, rfl, rfl⟩
      · exact ⟨_, rfl, rfl⟩

theorem wp_checkTotal {dec : DecimalText} {total : Option String} {calculatedTotal : ℚ}
    {phase : CreationPhase}
    : creationProtocol.wp (checkTotal dec total calculatedTotal) phase
        (fun _ phase' => phase' = phase) (fun _ _ => True) := by
  unfold checkTotal
  split
  · rfl
  · simp

theorem wp_creation (dec : DecimalText) (params : CreateSalaryBatchParams)
    : creationProtocol.wp (createSalaryBatch dec params) ⟨some params.userId, none⟩
        (fun result phase => phase.named = some result.batchId) (fun _ _ => True) := by
  unfold createSalaryBatch
  rw [Protocol.wp_bind]
  apply Protocol.wp_mono wp_findExistingBatch
  · rintro (_ | ⟨id, status⟩) phase found
    · obtain rfl := found
      simp only [Protocol.wp_bind, Protocol.wp_fromExcept, implies_true, and_true]
      intro amounts _
      apply Protocol.wp_mono wp_checkTotal
      · rintro _ _ rfl
        refine Protocol.wp_await.mpr
          ⟨fun id => ⟨_, if_pos rfl, ?_⟩, fun _ => ⟨_, if_pos rfl, trivial⟩⟩
        exact Protocol.wp_await.mpr ⟨fun _ => ⟨_, rfl, rfl⟩, fun _ => ⟨_, rfl, trivial⟩⟩
      · exact fun _ _ _ => trivial
    · exact found
  · exact fun _ _ _ => trivial

-- What an allowed call does

theorem creation_act {i : Nat} {op : CreationOp} {x : CreationChoice} {w w' : BatchWorld}
    {reply : creationInterface.Reply op}
    (h : creationSemantics.act i op x w = some (reply, w'))
    : creationAdmissible op x w = true
      ∧ x.outcome.answer (creationEffect x w op) w = (reply, w') :=
  Environment.act_eq_some h

theorem createBatch_eq {w : BatchWorld} {id : BatchId} {data : BatchRow}
    : w.create id data
      = if batchColumns.taken w.batches data.idempotencyKey then (.error .uniqueConstraint, w)
        else (.ok id, { w with batches := w.batches.insert id data }) := by
  exact if_congr Bool.and_eq_true_iff.symm rfl rfl

/-- The batches a call leaves. -/
inductive CreationStep (x : CreationChoice) (w w' : BatchWorld) : CreationOp → Prop
  | same (op : CreationOp) (batches : w'.batches = w.batches) : CreationStep x w w' op
  | created (data : BatchRow) (fresh : x.freshId ∉ w.batches)
    (free : batchColumns.taken w.batches data.idempotencyKey = false)
    (put : w'.batches = w.batches.insert x.freshId data)
    : CreationStep x w w' (.createBatch data)

variable {phase phase' : CreationPhase} {op : CreationOp} {i : Nat} {x : CreationChoice}
  {w w' s : BatchWorld} {reply : creationInterface.Reply op} {userId : String}

theorem CreationStep.of_act (answered : creationSemantics.act i op x w = some (reply, w'))
    : CreationStep x w w' op := by
  obtain ⟨possible, answer⟩ := creation_act answered
  rcases Outcome.answer_world answer with rfl | left
  · exact .same op rfl
  · cases op with
    | createBatch data =>
        simp only [creationEffect, createBatch_eq] at left
        split at left
        · subst left
          exact .same _ rfl
        · rename_i free
          exact .created data (by simpa [creationAdmissible] using possible) (by simpa using free)
            (congrArg BatchWorld.batches left)
    | findBatchByKey | setImmediate => exact .same _ (by rw [left]; rfl)

theorem CreationStep.kept (h : CreationStep x w w' op) {id : BatchId} {row : BatchRow}
    (found : w.batches.lookup id = some row)
    : w'.batches.lookup id = some row := by
  cases h with
  | same _ batches => rw [batches, found]
  | created data fresh _ put =>
      have different : id ≠ x.freshId := by
        rintro rfl
        exact fresh (AList.lookup_isSome.mp (by rw [found]; rfl))
      rw [put, AList.lookup_insert_ne different, found]

theorem CreationStep.unique (h : CreationStep x w w' op) (unique : batchColumns.Unique w.batches)
    : batchColumns.Unique w'.batches := by
  cases h with
  | same _ batches => rw [batches]; exact unique
  | created data _ free put => rw [put]; exact unique.insert_free free

theorem creation_user (allowed : nextCreation phase op reply = some phase')
    : phase'.user = phase.user := by
  cases op with
  | findBatchByKey =>
      rcases reply with _ | _ | _ <;> rw [← Option.some.inj allowed]
  | createBatch =>
      obtain ⟨-, moved⟩ := Option.ite_none_right_eq_some.mp allowed
      split at moved <;> rw [← Option.some.inj moved]
  | setImmediate => rw [← Option.some.inj allowed]

/-- The key a call looks up or inserts, where it does. -/
def usedKey? (x : CreationChoice) : Option CreationOp → Option String
  | some (.findBatchByKey key) => if x.outcome = .done then some key else none
  | some (.createBatch data) => if x.outcome.isFailed then none else data.idempotencyKey
  | _ => none

/-- A batch that the user is answered with is there and the user's own, where no other user has
the key.
-/
theorem creation_named {id : BatchId} (mine : phase.user = some userId)
    (free : batchColumns.takenByOther userId w.batches (usedKey? x (some op)) = false)
    (allowed : nextCreation phase op reply = some phase')
    (answered : creationSemantics.act i op x w = some (reply, w'))
    (named : phase'.named = some id)
    : phase.named = some id ∨ ∃ row, w'.batches.lookup id = some row ∧ row.userId = userId := by
  cases op with
  | findBatchByKey key =>
      rcases reply with error | _ | ⟨found, status⟩
      · obtain rfl := Option.some.inj allowed
        exact .inl named
      · obtain rfl := Option.some.inj allowed
        exact .inl named
      · obtain rfl := Option.some.inj allowed
        obtain rfl := Option.some.inj named
        obtain ⟨-, answer⟩ := creation_act answered
        obtain ⟨done, read⟩ := Outcome.answer_ok answer
        obtain ⟨shown, rfl⟩ := Prod.mk.inj read
        obtain ⟨e, hit, same⟩ := Option.map_eq_some_iff.mp (Except.ok.inj shown)
        obtain ⟨rfl, -⟩ := Prod.mk.inj same
        have there := AList.mem_lookup_iff.mpr (List.mem_of_find?_eq_some hit)
        have bears : e.2.idempotencyKey = some key := by simpa using List.find?_some hit
        rw [usedKey?, if_pos done] at free
        exact .inr ⟨e.2, there, Keyed.owner_of_bears free rfl there bears⟩
  | createBatch data =>
      obtain ⟨owner, moved⟩ := Option.ite_none_right_eq_some.mp allowed
      split at moved
      · obtain rfl := Option.some.inj moved
        obtain rfl := Option.some.inj named
        obtain ⟨-, answer⟩ := creation_act answered
        obtain ⟨-, made⟩ := Outcome.answer_ok answer
        simp only [creationEffect, createBatch_eq] at made
        split at made
        · cases (Prod.mk.inj made).1
        · obtain ⟨same, rfl⟩ := Prod.mk.inj made
          obtain rfl := Except.ok.inj same
          exact .inr ⟨data, AList.lookup_insert _, Option.some.inj (owner.symm.trans mine)⟩
      · obtain rfl := Option.some.inj moved
        exact .inl named
  | setImmediate =>
      obtain rfl := Option.some.inj allowed
      exact .inl named

-- Runs

abbrev CreationConfig := Config creationInterface CreateSalaryBatchResult BatchWorld

/-- The requests, all before their first call, on a table. -/
def batchesConfig (dec : DecimalText) (requests : List CreateSalaryBatchParams)
    (batches : AList (fun _ : BatchId => BatchRow))
    : CreationConfig :=
  .initial { batches } (requests.map (createSalaryBatch dec))

/-- The caller of request `i`. -/
def callerAt (requests : List CreateSalaryBatchParams) (i : Nat) : Option String :=
  (requests[i]?).map (fun params => params.userId)

def requestsOf (requests : List CreateSalaryBatchParams) (userId : String) (i : Nat) : Bool :=
  callerAt requests i = some userId

/-- No lookup that is answered and no insert that takes effect meets a key of the user on a batch
of another user.
-/
def KeyFree (requests : List CreateSalaryBatchParams) (userId : String) (c : CreationConfig)
    (i : Nat) (x : CreationChoice)
    : Prop :=
  requestsOf requests userId i = true →
    batchColumns.takenByOther userId c.world.batches (usedKey? x (c.pending? i)) = false

instance {requests : List CreateSalaryBatchParams} {userId : String} (c : CreationConfig) (i : Nat)
    (x : CreationChoice)
    : Decidable (KeyFree requests userId c i x) := by
  unfold KeyFree
  infer_instance

def startCreation (requests : List CreateSalaryBatchParams) (i : Nat) : CreationPhase :=
  ⟨callerAt requests i, none⟩

variable {dec : DecimalText} {requests : List CreateSalaryBatchParams}

/-- Every request creates batches of its caller, and the batches the user's requests name are
there and its own.
-/
structure CreationsKept (requests : List CreateSalaryBatchParams) (userId : String)
    (c : CreationConfig)
    : Prop where
  governed : creationProtocol.Governs (startCreation requests)
    (fun _ result phase => phase.named = some result.batchId) (fun _ _ _ => True) c
  user : ∀ i, (creationProtocol.phase (startCreation requests) c i).user = callerAt requests i
  unique : batchColumns.Unique c.world.batches
  named : ∀ i id, requestsOf requests userId i = true →
    (creationProtocol.phase (startCreation requests) c i).named = some id →
    ∃ row, c.world.batches.lookup id = some row ∧ row.userId = userId

theorem creationsKept_initial {batches : AList (fun _ : BatchId => BatchRow)}
    (unique : batchColumns.Unique batches)
    : CreationsKept requests userId (batchesConfig dec requests batches) where
  governed := by
    apply Protocol.governs_initial
    intro i prog found
    obtain ⟨params, at', rfl⟩ := Option.map_eq_some_iff.mp ((List.getElem?_map ..).symm.trans found)
    have start : startCreation requests i = ⟨some params.userId, none⟩ := by
      simp [startCreation, callerAt, at']
    rw [start]
    exact wp_creation dec params
  user i := by
    rw [batchesConfig, Protocol.phase_initial]
    rfl
  unique := unique
  named i id _ named := by
    rw [batchesConfig, Protocol.phase_initial] at named
    cases named

theorem callerAt_of_requestsOf (mine : requestsOf requests userId i = true)
    : callerAt requests i = some userId :=
  of_decide_eq_true mine

theorem CreationsKept.step {c c' : CreationConfig} (h : CreationsKept requests userId c)
    (free : KeyFree requests userId c i x) (stepped : c.step creationSemantics i x = some c')
    : CreationsKept requests userId c' := by
  obtain ⟨op, reply, -, pending, answered, moved, -, others, governed⟩ :=
    h.governed.step_cases stepped
  have world := CreationStep.of_act answered
  have user := creation_user moved
  refine ⟨governed, fun j => ?_, world.unique h.unique, fun j id own named => ?_⟩
  · by_cases mine : j = i
    · subst mine
      exact user.trans (h.user j)
    · rw [(others j mine).1]
      exact h.user j
  · have before : (creationProtocol.phase (startCreation requests) c j).named = some id →
        ∃ row, c'.world.batches.lookup id = some row ∧ row.userId = userId := by
      intro earlier
      obtain ⟨row, found, owner⟩ := h.named j id own earlier
      exact ⟨row, world.kept found, owner⟩
    by_cases mine : j = i
    · subst mine
      have caller := (h.user j).trans (callerAt_of_requestsOf own)
      rcases creation_named caller (pending ▸ free own) moved answered named with earlier | there
      · exact before earlier
      · exact there
    · rw [(others j mine).1] at named
      exact before named

/-- The second world lacks batches of other users at most. -/
def Less (userId : String) (w s : BatchWorld) : Prop :=
  batchColumns.Apart userId w.batches s.batches

theorem Less.of_other {c c' : CreationConfig} (related : Less userId c.world s)
    (h : CreationsKept requests userId c) (other : requestsOf requests userId i = false)
    (stepped : c.step creationSemantics i x = some c')
    : Less userId c'.world s := by
  obtain ⟨op, reply, -, -, answered, moved, -, -, -⟩ := h.governed.step_cases stepped
  unfold Less
  cases CreationStep.of_act answered with
  | same _ batches =>
      rw [batches]
      exact related
  | created data fresh _ put =>
      have owner := (Option.ite_none_right_eq_some.mp moved).1
      rw [h.user i] at owner
      have foreign : data.userId ≠ userId := by
        rintro rfl
        simp [requestsOf, owner] at other
      rw [put]
      refine related.insert_other foreign fun old found => ?_
      exact absurd (AList.lookup_isSome.mp (by rw [found]; rfl)) fresh

theorem Less.act (related : Less userId w s) (unique : batchColumns.Unique w.batches)
    (allowed : nextCreation phase op reply = some phase') (mine : phase.user = some userId)
    (free : batchColumns.takenByOther userId w.batches (usedKey? x (some op)) = false)
    (answered : creationSemantics.act i op x w = some (reply, w'))
    : ∃ s', creationSemantics.act i op x s = some (reply, s') ∧ Less userId w' s' := by
  have possible : creationAdmissible op x w = true → creationAdmissible op x s = true := by
    intro possible
    cases op with
    | createBatch =>
        have fresh : x.freshId ∉ w.batches := by simpa [creationAdmissible] using possible
        exact decide_eq_true (fun there => fresh (Keyed.Apart.mem related there))
    | findBatchByKey => rfl
    | setImmediate => exact possible
  have answers : x.outcome = .done → (creationEffect x s op).1 = (creationEffect x w op).1 := by
    intro done
    cases op with
    | findBatchByKey key =>
        rw [usedKey?, if_pos done] at free
        change Except.ok (s.findByKey key) = .ok (w.findByKey key)
        unfold BatchWorld.findByKey
        rw [Keyed.Apart.find?_eq related unique (k := key)
          (p := fun row => row.idempotencyKey = some key) (fun row => of_decide_eq_true)
          (fun id row there bears => ?_)]
        exact related.owner_of_bears free rfl there (of_decide_eq_true bears)
    | createBatch data =>
        rw [usedKey?, if_neg (by simp [done, Outcome.isFailed])] at free
        simp only [creationEffect, createBatch_eq, Keyed.Apart.taken_eq related free]
        split <;> rfl
    | setImmediate => rfl
  have leaves : x.outcome.isFailed = false →
      Less userId (creationEffect x w op).2 (creationEffect x s op).2 := by
    intro taking
    cases op with
    | createBatch data =>
        have owner : data.userId = userId :=
          Option.some.inj ((Option.ite_none_right_eq_some.mp allowed).1.symm.trans mine)
        have fresh : x.freshId ∉ w.batches := by
          simpa [creationAdmissible] using (creation_act answered).1
        rw [usedKey?, if_neg (by simp [taking])] at free
        simp only [creationEffect, createBatch_eq, Keyed.Apart.taken_eq related free]
        split
        · exact related
        · refine Keyed.Apart.insert_own related owner fun old found => ?_
          exact absurd (AList.lookup_isSome.mp (by rw [found]; rfl)) fresh
    | findBatchByKey | setImmediate => exact related
  exact Environment.act_of_related related possible answers leaves answered

/-- Beside the batches of other users, the requests of one user do what they would do without
them, and name its own batches.
-/
theorem creations_isolated {batches less : AList (fun _ : BatchId => BatchRow)}
    {schedule : List (Nat × CreationChoice)} {c : CreationConfig}
    (unique : batchColumns.Unique batches) (apart : batchColumns.Apart userId batches less)
    (executed : (batchesConfig dec requests batches).run creationSemantics
      (KeyFree requests userId) schedule = some c)
    : (∃ s, (batchesConfig dec requests less).run creationSemantics Config.anyStep
          (Config.stepsOf (requestsOf requests userId) schedule) = some s
        ∧ Config.SameThreads (requestsOf requests userId) c s
        ∧ batchColumns.Apart userId c.world.batches s.world.batches)
      ∧ ∀ i result, requestsOf requests userId i = true → c.value? i = some result →
        ∃ row, c.world.batches.lookup result.batchId = some row ∧ row.userId = userId := by
  have start : Config.SameThreads (requestsOf requests userId) (batchesConfig dec requests batches)
      (batchesConfig dec requests less) :=
    fun _ _ => rfl
  obtain ⟨kept, s, alone, same, related⟩ := Config.run_stepsOf
    (J := CreationsKept requests userId) (R := Less userId)
    (fun _ _ _ _ h free stepped => h.step free stepped)
    (fun _ _ _ _ _ h related other stepped => related.of_other h other stepped)
    (fun c w i x op reply w' h related mine free pending answered => by
      obtain ⟨phase', allowed⟩ := h.governed.pending pending reply
      exact related.act h.unique allowed ((h.user i).trans (callerAt_of_requestsOf mine))
        (pending ▸ free mine) answered)
    executed (creationsKept_initial unique) start apart
  exact ⟨⟨s, alone, same, related⟩, fun i result mine answered =>
    kept.named i _ mine (kept.governed.value answered)⟩

end AcbuBackend.Salary

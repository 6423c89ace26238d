import AcbuBackend.Effects.Isolation
import AcbuBackend.Runtime.KeyedTables
import AcbuBackend.Transfer.TransferService

/-! `createTransfer` beside the transfers of other users.
Its lookups are scoped to the sender, but a raw key is unique in the whole table. Where no
insert of a user meets the key on a row of another one, the user's transfers are what they would
be without the others, and name the user's own rows only.
-/

namespace AcbuBackend.Transfer

open Effects Effects.Prog AcbuBackend.Runtime
open Mint (TxId TransactionStatus)

variable {dep : Deployment}

def transferEnvironment : Environment transferInterface World Choice where
  outcome := Choice.outcome
  effect := effect
  admissible := admissible

def transferSemantics : Semantics transferInterface World Choice :=
  transferEnvironment.semantics

def transferColumns : Keyed TransferRow where
  owner := TransferRow.userId
  key := TransferRow.idempotencyKey

-- What a transfer reads and writes under its sender

/-- The sender of a transfer, and the row it may answer with. -/
structure SenderPhase where
  user : Option String
  named : Option TxId

/-- A transfer looks up and creates rows of its sender, and updates the row it has created. -/
def nextSender (phase : SenderPhase) : (op : TransferOp) → Except JsError op.Ret
    → Option SenderPhase
  | .findTransfer _ userId, reply =>
      if phase.user = some userId then
        match reply with
        | .ok (some (id, _)) => some { phase with named := some id }
        | _ => some phase
      else none
  | .createTransaction data, reply =>
      if phase.user = some data.userId then
        match reply with
        | .ok id => some { phase with named := some id }
        | .error _ => some phase
      else none
  | .updateTransaction id _, _ => if phase.named = some id then some phase else none
  | _, _ => some phase

def senderProtocol : Protocol transferInterface SenderPhase where
  next := nextSender

section

variable {userId : String} {id : TxId} {options : CreateTransferOptions} {order : TransferOrder}

theorem wp_findSent {key : Option String}
    : senderProtocol.wp (findExisting key userId) ⟨some userId, none⟩
        (fun found phase =>
          match found with
          | some (id, _) => phase.named = some id
          | none => phase = ⟨some userId, none⟩)
        (fun _ _ => True) := by
  unfold findExisting
  cases key.filter (fun key => key ≠ "") with
  | none => rfl
  | some key =>
      refine Protocol.wp_await.mpr ⟨?_, fun _ => ⟨_, if_pos rfl, trivial⟩⟩
      rintro (_ | ⟨id, status⟩)
      · exact ⟨_, if_pos rfl, rfl⟩
      · exact ⟨_, if_pos rfl, rfl⟩

theorem wp_createOrFind
    : senderProtocol.wp (createOrFind order) ⟨some order.params.senderUserId, none⟩
        (fun created phase =>
          match created with
          | .inl id => phase = ⟨some order.params.senderUserId, some id⟩
          | .inr (id, _) => phase.named = some id)
        (fun _ _ => True) := by
  unfold createOrFind
  simp only [Protocol.wp_catchWith, Protocol.wp_bind, Protocol.wp_await, Protocol.wp_pure]
  refine ⟨fun id => ⟨_, if_pos rfl, rfl⟩, fun createError => ⟨_, if_pos rfl, ?_⟩⟩
  cases order.params.idempotencyKey.filter (fun key => key ≠ "") with
  | none => trivial
  | some key =>
      cases createError with
      | app _ | error _ => trivial
      | uniqueConstraint =>
          simp only [Protocol.wp_bind]
          refine Protocol.wp_await.mpr ⟨?_, fun _ => ⟨_, if_pos rfl, trivial⟩⟩
          rintro (_ | ⟨id, status⟩)
          · exact ⟨_, if_pos rfl, trivial⟩
          · exact ⟨_, if_pos rfl, rfl⟩

theorem wp_settleTransfer
    : senderProtocol.wp (settleTransfer options order id) ⟨some userId, some id⟩
        (fun _ phase => phase.named = some id) (fun _ _ => True) := by
  unfold settleTransfer
  split
  · simp [senderProtocol, nextSender]
  · rw [Protocol.wp_ite]
    refine ⟨fun _ => ?_, fun _ => rfl⟩
    rw [Protocol.wp_bind]
    refine Protocol.wp_await.mpr ⟨fun secretKey => ⟨_, rfl, ?_⟩, fun _ => ⟨_, rfl, trivial⟩⟩
    cases secretKey.filter (fun key => key ≠ "") with
    | none => rfl
    | some secretKey => simp [submitTransfer, senderProtocol, nextSender]

theorem wp_placeTransfer
    : senderProtocol.wp (placeTransfer options order) ⟨some order.params.senderUserId, none⟩
        (fun result phase => phase.named = some result.transactionId) (fun _ _ => True) := by
  unfold placeTransfer
  rw [Protocol.wp_bind]
  apply Protocol.wp_mono wp_createOrFind
  · rintro (id | ⟨id, status⟩) phase named
    · obtain rfl := named
      simp only [Protocol.wp_bind, Protocol.wp_swallow, Protocol.wp_await, Protocol.wp_pure]
      refine ⟨fun _ => ⟨_, rfl, ?_⟩, fun _ => ⟨_, rfl, ?_⟩⟩
      · exact wp_settleTransfer
      · exact wp_settleTransfer
    · exact named
  · exact fun _ _ _ => trivial

theorem wp_checkTransfer {params : CreateTransferParams} {sender : User} {amount : ℚ}
    {phase : SenderPhase}
    : senderProtocol.wp (checkTransfer dep params options sender amount) phase
        (fun order phase' => order.params = params ∧ phase' = phase) (fun _ _ => True) := by
  simp [checkTransfer, reserveWalletVersion, senderProtocol, nextSender]

end

theorem wp_sender (params : CreateTransferParams) (options : CreateTransferOptions)
    : senderProtocol.wp (createTransfer dep params options) ⟨some params.senderUserId, none⟩
        (fun result phase => phase.named = some result.transactionId) (fun _ _ => True) := by
  unfold createTransfer
  simp only [Protocol.wp_bind, Protocol.wp_orThrow, Protocol.wp_ensure, implies_true, and_true]
  intro amount _
  refine Protocol.wp_await.mpr ⟨fun found => ⟨_, rfl, fun sender _ _ => ?_⟩,
    fun _ => ⟨_, rfl, trivial⟩⟩
  apply Protocol.wp_mono wp_findSent
  · rintro (_ | ⟨id, status⟩) phase found
    · obtain rfl := found
      rw [Protocol.wp_bind]
      apply Protocol.wp_mono wp_checkTransfer
      · rintro order _ ⟨rfl, rfl⟩
        exact wp_placeTransfer
      · exact fun _ _ _ => trivial
    · exact found
  · exact fun _ _ _ => trivial

-- What an allowed call does

theorem act_eq_some {i : Nat} {op : TransferOp} {x : Choice} {w w' : World}
    {reply : transferInterface.Reply op}
    (h : transferSemantics.act i op x w = some (reply, w'))
    : admissible op x w = true ∧ x.outcome.answer (effect x w op) w = (reply, w') :=
  Environment.act_eq_some h

theorem create_eq {w : World} {id : TxId} {data : TransferRow}
    : w.create id data
      = if transferColumns.taken w.transfers data.idempotencyKey then (.error .uniqueConstraint, w)
        else (.ok id, { w with transfers := w.transfers.insert id data }) := by
  exact if_congr Bool.and_eq_true_iff.symm rfl rfl

/-- The transfers a call leaves. -/
inductive SenderStep (x : Choice) (w w' : World) : TransferOp → Prop
  | same (op : TransferOp) (transfers : w'.transfers = w.transfers) : SenderStep x w w' op
  | created (data : TransferRow) (fresh : x.freshId ∉ w.transfers)
    (free : transferColumns.taken w.transfers data.idempotencyKey = false)
    (put : w'.transfers = w.transfers.insert x.freshId data)
    : SenderStep x w w' (.createTransaction data)
  | updated (id : TxId) (data : TransferUpdate) (row : TransferRow)
    (found : w.transfers.lookup id = some row)
    (put : w'.transfers = w.transfers.insert id (row.apply data))
    : SenderStep x w w' (.updateTransaction id data)

variable {phase phase' : SenderPhase} {op : TransferOp} {i : Nat} {x : Choice} {w w' s : World}
  {reply : transferInterface.Reply op} {userId : String}

theorem SenderStep.of_act (answered : transferSemantics.act i op x w = some (reply, w'))
    : SenderStep x w w' op := by
  obtain ⟨possible, answer⟩ := act_eq_some answered
  rcases Outcome.answer_world answer with rfl | left
  · exact .same op rfl
  · cases op with
    | createTransaction data =>
        simp only [effect, create_eq] at left
        split at left
        · subst left
          exact .same _ rfl
        · rename_i free
          exact .created data (by simpa [admissible] using possible) (by simpa using free)
            (congrArg World.transfers left)
    | updateTransaction id data =>
        simp only [effect, World.update] at left
        split at left
        · subst left
          exact .same _ rfl
        · rename_i row found
          exact .updated id data row found (congrArg World.transfers left)
    | _ => exact .same _ (by rw [left]; rfl)

theorem SenderStep.owner (h : SenderStep x w w' op) {id : TxId} {row : TransferRow}
    (found : w.transfers.lookup id = some row)
    : ∃ row', w'.transfers.lookup id = some row' ∧ row'.userId = row.userId := by
  cases h with
  | same _ transfers => exact ⟨row, by rw [transfers, found], rfl⟩
  | created data fresh _ put =>
      have different : id ≠ x.freshId := by
        rintro rfl
        exact fresh (AList.lookup_isSome.mp (by rw [found]; rfl))
      exact ⟨row, by rw [put, AList.lookup_insert_ne different, found], rfl⟩
  | updated other data old before put =>
      by_cases same : id = other
      · subst same
        obtain rfl := Option.some.inj (found.symm.trans before)
        exact ⟨row.apply data, by rw [put, AList.lookup_insert], rfl⟩
      · exact ⟨row, by rw [put, AList.lookup_insert_ne same, found], rfl⟩

theorem SenderStep.unique (h : SenderStep x w w' op) (unique : transferColumns.Unique w.transfers)
    : transferColumns.Unique w'.transfers := by
  cases h with
  | same _ transfers => rw [transfers]; exact unique
  | created data _ free put => rw [put]; exact unique.insert_free free
  | updated id data row found put => rw [put]; exact unique.insert_same found rfl

theorem sender_user (allowed : nextSender phase op reply = some phase')
    : phase'.user = phase.user := by
  cases op with
  | findTransfer | createTransaction =>
      obtain ⟨-, moved⟩ := Option.ite_none_right_eq_some.mp allowed
      split at moved <;> rw [← Option.some.inj moved]
  | updateTransaction =>
      obtain ⟨-, moved⟩ := Option.ite_none_right_eq_some.mp allowed
      rw [← Option.some.inj moved]
  | _ => rw [← Option.some.inj allowed]

/-- A row is named after it was found or created, and is there with the user it was looked up
or created for.
-/
theorem sender_named {id : TxId} (allowed : nextSender phase op reply = some phase')
    (answered : transferSemantics.act i op x w = some (reply, w'))
    (named : phase'.named = some id)
    : phase.named = some id
      ∨ ∃ row, w'.transfers.lookup id = some row ∧ phase.user = some row.userId := by
  cases op with
  | findTransfer key asked =>
      obtain ⟨mine, moved⟩ := Option.ite_none_right_eq_some.mp allowed
      split at moved
      · obtain rfl := Option.some.inj moved
        obtain rfl := Option.some.inj named
        obtain ⟨-, answer⟩ := act_eq_some answered
        obtain ⟨-, read⟩ := Outcome.answer_ok answer
        obtain ⟨first, rfl⟩ := Prod.mk.inj read
        obtain ⟨e, found, same⟩ := Option.map_eq_some_iff.mp (Except.ok.inj first)
        obtain ⟨rfl, -⟩ := Prod.mk.inj same
        have wanted := List.find?_some found
        simp only [Bool.and_eq_true, decide_eq_true_eq] at wanted
        refine .inr ⟨e.2, AList.mem_lookup_iff.mpr (List.mem_of_find?_eq_some found), ?_⟩
        rw [mine, wanted.2]
      · obtain rfl := Option.some.inj moved
        exact .inl named
  | createTransaction data =>
      obtain ⟨mine, moved⟩ := Option.ite_none_right_eq_some.mp allowed
      split at moved
      · obtain rfl := Option.some.inj moved
        obtain rfl := Option.some.inj named
        obtain ⟨-, answer⟩ := act_eq_some answered
        obtain ⟨-, made⟩ := Outcome.answer_ok answer
        simp only [effect, create_eq] at made
        split at made
        · cases (Prod.mk.inj made).1
        · obtain ⟨same, rfl⟩ := Prod.mk.inj made
          obtain rfl := Except.ok.inj same
          exact .inr ⟨data, AList.lookup_insert _, mine⟩
      · obtain rfl := Option.some.inj moved
        exact .inl named
  | updateTransaction =>
      obtain ⟨-, moved⟩ := Option.ite_none_right_eq_some.mp allowed
      obtain rfl := Option.some.inj moved
      exact .inl named
  | _ =>
      obtain rfl := Option.some.inj allowed
      exact .inl named

-- Runs

/-- A call of `createTransfer`. -/
abbrev TransferRequest := CreateTransferParams × CreateTransferOptions

abbrev TransferConfig := Config transferInterface CreateTransferResult World

/-- The calls, all before their first step, on a table. -/
def transfersConfig (dep : Deployment) (requests : List TransferRequest)
    (transfers : AList (fun _ : TxId => TransferRow))
    : TransferConfig :=
  .initial { transfers } (requests.map (fun req => createTransfer dep req.1 req.2))

/-- The sender of request `i`. -/
def senderAt (requests : List TransferRequest) (i : Nat) : Option String :=
  (requests[i]?).map (fun req => req.1.senderUserId)

def requestsOf (requests : List TransferRequest) (userId : String) (i : Nat) : Bool :=
  senderAt requests i = some userId

def insertedKey? : Option TransferOp → Option String
  | some (.createTransaction data) => data.idempotencyKey
  | _ => none

/-- No insert of the user that takes effect meets its key on a transfer of another user. -/
def KeyFree (requests : List TransferRequest) (userId : String) (c : TransferConfig) (i : Nat)
    (x : Choice)
    : Prop :=
  requestsOf requests userId i = true → x.outcome.isFailed = false →
    transferColumns.takenByOther userId c.world.transfers (insertedKey? (c.pending? i)) = false

instance {requests : List TransferRequest} {userId : String} (c : TransferConfig) (i : Nat)
    (x : Choice)
    : Decidable (KeyFree requests userId c i x) := by
  unfold KeyFree
  infer_instance

def startSender (requests : List TransferRequest) (i : Nat) : SenderPhase :=
  ⟨senderAt requests i, none⟩

variable {requests : List TransferRequest}

/-- Every transfer keeps to its sender's rows, and those it names are there. -/
structure SendersKept (requests : List TransferRequest) (c : TransferConfig) : Prop where
  governed : senderProtocol.Governs (startSender requests)
    (fun _ result phase => phase.named = some result.transactionId) (fun _ _ _ => True) c
  user : ∀ i, (senderProtocol.phase (startSender requests) c i).user = senderAt requests i
  unique : transferColumns.Unique c.world.transfers
  named : ∀ i id, (senderProtocol.phase (startSender requests) c i).named = some id →
    ∃ row, c.world.transfers.lookup id = some row ∧ senderAt requests i = some row.userId

theorem sendersKept_initial {transfers : AList (fun _ : TxId => TransferRow)}
    (unique : transferColumns.Unique transfers)
    : SendersKept requests (transfersConfig dep requests transfers) where
  governed := by
    apply Protocol.governs_initial
    intro i prog found
    obtain ⟨req, at', rfl⟩ := Option.map_eq_some_iff.mp ((List.getElem?_map ..).symm.trans found)
    have start : startSender requests i = ⟨some req.1.senderUserId, none⟩ := by
      simp [startSender, senderAt, at']
    rw [start]
    exact wp_sender req.1 req.2
  user i := by
    rw [transfersConfig, Protocol.phase_initial]
    rfl
  unique := unique
  named i id named := by
    rw [transfersConfig, Protocol.phase_initial] at named
    cases named

theorem SendersKept.step {c c' : TransferConfig} (h : SendersKept requests c)
    (stepped : c.step transferSemantics i x = some c')
    : SendersKept requests c' := by
  obtain ⟨op, reply, -, -, answered, moved, -, others, governed⟩ := h.governed.step_cases stepped
  have world := SenderStep.of_act answered
  have user := sender_user moved
  refine ⟨governed, fun j => ?_, world.unique h.unique, fun j id named => ?_⟩
  · by_cases mine : j = i
    · subst mine
      exact user.trans (h.user j)
    · rw [(others j mine).1]
      exact h.user j
  · have before : (senderProtocol.phase (startSender requests) c j).named = some id →
        ∃ row, c'.world.transfers.lookup id = some row ∧ senderAt requests j = some row.userId := by
      intro earlier
      obtain ⟨row, found, owner⟩ := h.named j id earlier
      obtain ⟨row', found', same⟩ := world.owner found
      exact ⟨row', found', same ▸ owner⟩
    by_cases mine : j = i
    · subst mine
      rcases sender_named moved answered named with earlier | ⟨row, found, owner⟩
      · exact before earlier
      · exact ⟨row, found, (h.user j).symm.trans owner⟩
    · rw [(others j mine).1] at named
      exact before named

/-- The second world lacks transfers of other users at most. -/
def Less (userId : String) (w s : World) : Prop :=
  transferColumns.Apart userId w.transfers s.transfers

theorem Less.of_other {c c' : TransferConfig} (related : Less userId c.world s)
    (h : SendersKept requests c) (other : requestsOf requests userId i = false)
    (stepped : c.step transferSemantics i x = some c')
    : Less userId c'.world s := by
  obtain ⟨op, reply, -, -, answered, moved, -, -, -⟩ := h.governed.step_cases stepped
  have foreign : ∀ user, senderAt requests i = some user → user ≠ userId := by
    rintro user sender rfl
    simp [requestsOf, sender] at other
  unfold Less
  cases SenderStep.of_act answered with
  | same _ transfers =>
      rw [transfers]
      exact related
  | created data fresh _ put =>
      have owner := (Option.ite_none_right_eq_some.mp moved).1
      rw [h.user i] at owner
      rw [put]
      refine related.insert_other (foreign _ owner) fun old found => ?_
      exact absurd (AList.lookup_isSome.mp (by rw [found]; rfl)) fresh
  | updated id data row found put =>
      have named := (Option.ite_none_right_eq_some.mp moved).1
      obtain ⟨row', found', owner⟩ := h.named i id named
      obtain rfl := Option.some.inj (found'.symm.trans found)
      rw [put]
      refine related.insert_other (foreign _ owner) fun old found => ?_
      obtain rfl := Option.some.inj (found'.symm.trans found)
      exact ⟨foreign _ owner, rfl⟩

theorem Less.act (related : Less userId w s) (unique : transferColumns.Unique w.transfers)
    (allowed : nextSender phase op reply = some phase') (mine : phase.user = some userId)
    (owned : ∀ id, phase.named = some id →
      ∃ row, w.transfers.lookup id = some row ∧ row.userId = userId)
    (free : x.outcome.isFailed = false →
      transferColumns.takenByOther userId w.transfers (insertedKey? (some op)) = false)
    (answered : transferSemantics.act i op x w = some (reply, w'))
    : ∃ s', transferSemantics.act i op x s = some (reply, s') ∧ Less userId w' s' := by
  have possible : admissible op x w = true → admissible op x s = true := by
    intro possible
    cases op with
    | createTransaction =>
        have fresh : x.freshId ∉ w.transfers := by simpa [admissible] using possible
        exact decide_eq_true (fun there => fresh (Keyed.Apart.mem related there))
    | _ => rfl
  -- an update is of a row the user has in both tables
  have sameRow : ∀ id data, op = .updateTransaction id data →
      ∃ row, w.transfers.lookup id = some row ∧ s.transfers.lookup id = some row
        ∧ row.userId = userId := by
    rintro id data rfl
    obtain ⟨row, found, owner⟩ := owned id (Option.ite_none_right_eq_some.mp allowed).1
    exact ⟨row, found, (related.own id row owner).mpr found, owner⟩
  have answers : x.outcome = .done → (effect x s op).1 = (effect x w op).1 := by
    intro done
    cases op with
    | findTransfer key asked =>
        obtain rfl : userId = asked :=
          Option.some.inj (mine.symm.trans (Option.ite_none_right_eq_some.mp allowed).1)
        change Except.ok (s.findTransfer key userId) = .ok (w.findTransfer key userId)
        unfold World.findTransfer
        have wanted : ∀ row : TransferRow,
            (row.idempotencyKey = some key && row.userId = userId) = true →
            row.idempotencyKey = some key ∧ row.userId = userId := by simp
        rw [Keyed.Apart.find?_eq related unique (k := key)
          (p := fun row => row.idempotencyKey = some key && row.userId = userId)
          (fun row first => (wanted row first).1) (fun _ row _ first => (wanted row first).2)]
    | createTransaction data =>
        have same := Keyed.Apart.taken_eq related (free (by rw [done]; rfl))
        simp only [insertedKey?] at same
        simp only [effect, create_eq, same]
        split <;> rfl
    | updateTransaction id data =>
        obtain ⟨row, found, foundLess, -⟩ := sameRow id data rfl
        simp only [effect, World.update, found, foundLess]
    | _ => rfl
  have leaves : x.outcome.isFailed = false → Less userId (effect x w op).2 (effect x s op).2 := by
    intro taking
    cases op with
    | createTransaction data =>
        have owner : data.userId = userId :=
          Option.some.inj ((Option.ite_none_right_eq_some.mp allowed).1.symm.trans mine)
        have same := Keyed.Apart.taken_eq related (free taking)
        simp only [insertedKey?] at same
        have fresh : x.freshId ∉ w.transfers := by
          simpa [admissible] using (act_eq_some answered).1
        simp only [effect, create_eq, same]
        split
        · exact related
        · refine Keyed.Apart.insert_own related owner fun old found => ?_
          exact absurd (AList.lookup_isSome.mp (by rw [found]; rfl)) fresh
    | updateTransaction id data =>
        obtain ⟨row, found, foundLess, owner⟩ := sameRow id data rfl
        simp only [effect, World.update, found, foundLess]
        refine Keyed.Apart.insert_own related owner fun old found' => ?_
        obtain rfl := Option.some.inj (found.symm.trans found')
        exact owner
    | _ => exact related
  exact Environment.act_of_related related possible answers leaves answered

/-- Beside the transfers of other users, those of one user are what they would be without them,
and name its own rows.
-/
theorem senders_isolated {transfers less : AList (fun _ : TxId => TransferRow)}
    {schedule : List (Nat × Choice)} {c : TransferConfig}
    (unique : transferColumns.Unique transfers)
    (apart : transferColumns.Apart userId transfers less)
    (executed : (transfersConfig dep requests transfers).run transferSemantics
      (KeyFree requests userId) schedule = some c)
    : (∃ s, (transfersConfig dep requests less).run transferSemantics Config.anyStep
          (Config.stepsOf (requestsOf requests userId) schedule) = some s
        ∧ Config.SameThreads (requestsOf requests userId) c s
        ∧ transferColumns.Apart userId c.world.transfers s.world.transfers)
      ∧ ∀ i result, requestsOf requests userId i = true → c.value? i = some result →
        ∃ row, c.world.transfers.lookup result.transactionId = some row ∧ row.userId = userId := by
  have start : Config.SameThreads (requestsOf requests userId)
      (transfersConfig dep requests transfers) (transfersConfig dep requests less) :=
    fun _ _ => rfl
  have senderOf : ∀ i, requestsOf requests userId i = true → senderAt requests i = some userId :=
    fun i mine => of_decide_eq_true mine
  obtain ⟨kept, s, alone, same, related⟩ := Config.run_stepsOf (J := SendersKept requests)
    (R := Less userId) (fun _ _ _ _ h _ stepped => h.step stepped)
    (fun _ _ _ _ _ h related other stepped => related.of_other h other stepped)
    (fun c w i x op reply w' h related mine free pending answered => by
      obtain ⟨phase', allowed⟩ := h.governed.pending pending reply
      have sender := senderOf i mine
      refine related.act h.unique allowed ((h.user i).trans sender) (fun id named => ?_)
        (fun taking => pending ▸ free mine taking) answered
      obtain ⟨row, found, owner⟩ := h.named i id named
      exact ⟨row, found, Option.some.inj (owner.symm.trans sender)⟩)
    executed (sendersKept_initial unique) start apart
  refine ⟨⟨s, alone, same, related⟩, fun i result mine answered => ?_⟩
  obtain ⟨row, found, owner⟩ := kept.named i _ (kept.governed.value answered)
  exact ⟨row, found, Option.some.inj (owner.symm.trans (senderOf i mine))⟩

end AcbuBackend.Transfer

import AcbuBackend.Bills.BillsProtocol
import AcbuBackend.Burn.RefusedBurns
import AcbuBackend.Effects.Exclusive

/-! Terminal statuses of a bill payment.
A reconciliation, the dispatch and the failure of a payment write their status over whatever
they find. Terminal statuses last where requests settle on a status one at a time, and each on
one that may follow.
-/

namespace AcbuBackend.Bills

open Effects AcbuBackend.Runtime Burn
open Mint (TxId TransactionStatus)

/-- The transaction state machine. Nothing under `src/` consults it. -/
def ALLOWED_TRANSITIONS : TransactionStatus → List TransactionStatus
  | .pending => [.processing, .failed]
  | .processing => [.completed, .failed]
  | .completed => []
  | .failed => []
  | .refunded => []

def isTerminalStatus (status : TransactionStatus) : Bool :=
  (ALLOWED_TRANSITIONS status).length = 0

variable {setting : Setting} {dep : Deployment}

/-- What an update makes of the status it finds: a failed or refunded payment stays so, and a
completed one is at most refunded.
-/
structure RowUpdate.Respects (update : RowUpdate) : Prop where
  failed : update.before = .failed → update.data.status = .failed
  refunded : update.before = .refunded → update.data.status = .refunded
  completed : update.before = .completed →
    update.data.status = .completed ∨ update.data.status = .refunded

/-- Every update of the transaction has respected the status it found. -/
def TerminalRespected (w : World) (id : TxId) : Prop :=
  ∀ update ∈ w.updates, update.id = id → update.Respects

/-- Whether a status may be written over the current one: over a terminal one only the same
again, or a refund over a completion.
-/
def mayFollow (current next : TransactionStatus) : Bool :=
  !isTerminalStatus current || next = current || (current = .completed && next = .refunded)

theorem respects_iff {update : RowUpdate}
    : update.Respects ↔ mayFollow update.before update.data.status = true := by
  constructor
  · rintro ⟨failed, refunded, completed⟩
    cases before : update.before with
    | pending | processing => rfl
    | failed =>
        rw [failed before]
        rfl
    | refunded =>
        rw [refunded before]
        rfl
    | completed =>
        rcases completed before with same | refund
        · rw [same]
          rfl
        · rw [refund]
          rfl
  · intro may
    constructor
    · intro before
      rw [before] at may
      simpa [mayFollow, isTerminalStatus, ALLOWED_TRANSITIONS] using may
    · intro before
      rw [before] at may
      simpa [mayFollow, isTerminalStatus, ALLOWED_TRANSITIONS] using may
    · intro before
      rw [before] at may
      simpa [mayFollow, isTerminalStatus, ALLOWED_TRANSITIONS] using may

-- The updates of a run

/-- The update a call makes when it takes effect. -/
def World.updateOf (w : World) : BillsOp → Option RowUpdate
  | .updateTransaction id data =>
      (w.transactions.lookup id).map (fun row => { id, before := row.status, data })
  | _ => none

theorem updates_of_act {i : Nat} {op : BillsOp} {x : Choice} {w w' : World}
    {reply : billsInterface.Reply op}
    (h : (billsSemantics setting).act i op x w = some (reply, w'))
    : w'.updates = (if x.outcome.isFailed then [] else (w.updateOf op).toList) ++ w.updates := by
  obtain ⟨-, answered⟩ := Environment.act_eq_some h
  have effective : (effect setting x w op).2.updates = (w.updateOf op).toList ++ w.updates := by
    cases op with
    | updateTransaction id data =>
        simp only [effect, World.update, World.updateOf]
        split
        · rename_i absent
          simp [absent]
        · rename_i row found
          simp [found]
    | burn op => cases op <;> rfl
    | payBill request =>
        simp only [effect, World.updateOf]
        split <;> rfl
    | _ => rfl
  change x.outcome.answer _ _ = _ at answered
  cases outcome : x.outcome with
  | failed _ =>
      rw [outcome] at answered
      exact (congrArg World.updates (congrArg Prod.snd answered)).symm
  | done | lost _ =>
      rw [outcome] at answered
      exact (congrArg World.updates (congrArg Prod.snd answered)).symm.trans effective

/-- No step writes a status over one of the transaction that it may not follow. -/
def KeepsTerminal (id : TxId) (c : BillsConfig) (i : Nat) (x : Choice) : Prop :=
  x.outcome.isFailed = false →
    ((c.pending? i).bind c.world.updateOf).all (fun update =>
      update.id = id → mayFollow update.before update.data.status = true) = true

instance (id : TxId) (c : BillsConfig) (i : Nat) (x : Choice)
    : Decidable (KeepsTerminal id c i x) :=
  inferInstanceAs (Decidable (_ → _))

theorem terminalRespected_of_step {c c' : BillsConfig} {i : Nat} {x : Choice} {id : TxId}
    (stepped : c.step (billsSemantics setting) i x = some c')
    : TerminalRespected c'.world id ↔ TerminalRespected c.world id ∧ KeepsTerminal id c i x := by
  obtain ⟨op, next, past, reply, world, found, answered, rfl⟩ := Config.step_cases stepped
  have pending : c.pending? i = some op := by simp [Config.pending?, found]
  have updates := updates_of_act answered
  simp only [TerminalRespected, KeepsTerminal, updates, pending, List.mem_append]
  cases failed : x.outcome.isFailed with
  | true => simp
  | false =>
      cases made : c.world.updateOf op with
      | none => simp [made]
      | some update =>
          simp only [Option.bind_some, made, Option.all_some, decide_eq_true_eq, forall_const]
          constructor
          · intro respected
            refine ⟨fun earlier member => respected earlier (.inr member), fun same => ?_⟩
            exact respects_iff.mp (respected update (.inl (by simp)) same)
          · rintro ⟨respected, may⟩ later (new | member) same
            · obtain rfl : later = update := by simpa using new
              exact respects_iff.mpr (may same)
            · exact respected later member same

-- Requests that settle in order

/-- A request is about to write a status of the transaction. -/
def Stage.settling (stage : Stage) (id : TxId) : Prop :=
  stage.settled.any (fun settled => settled.1 = id) = true

instance (stage : Stage) (id : TxId) : Decidable (stage.settling id) :=
  inferInstanceAs (Decidable (_ = true))

theorem Stage.settling_iff {stage : Stage} {id : TxId}
    : stage.settling id ↔ ∃ status, stage.settled = some (id, status) := by
  unfold Stage.settling
  rcases stage.settled with _ | ⟨other, status⟩
  · simp
  · simp [eq_comm]

/-- The status of the transaction, if it has one, may be followed by `status`. -/
def World.admits (w : World) (id : TxId) (status : TransactionStatus) : Prop :=
  ∀ current, w.statusOf id = some current → mayFollow current status = true

instance (w : World) (id : TxId) (status : TransactionStatus) : Decidable (w.admits id status) :=
  match h : w.statusOf id with
  | none => .isTrue (fun _ found => nomatch h.symm.trans found)
  | some current =>
      decidable_of_iff (mayFollow current status = true)
        ⟨fun may _ found => Option.some.inj (h.symm.trans found) ▸ may, fun may => may current h⟩

/-- A request only settles on a status for the transaction when no other request has one to
write, and on one that may follow the status the transaction then has.
-/
def SettlesInOrder (setting : Setting) (requests : List BillsRequest) (id : TxId) (c : BillsConfig)
    (i : Nat) (x : Choice)
    : Prop :=
  ∀ c', c.step (billsSemantics setting) i x = some c' →
    ∀ status, (stageOf requests c' i).settled = some (id, status) →
      (stageOf requests c i).settled = some (id, status)
      ∨ c'.world.admits id status
        ∧ billsProtocol.Alone (startOf requests) Stage.settling c i id

instance (setting : Setting) (requests : List BillsRequest) (id : TxId) (c : BillsConfig) (i : Nat)
    (x : Choice)
    : Decidable (SettlesInOrder setting requests id c i x) :=
  match taken : c.step (billsSemantics setting) i x with
  | none => .isTrue (fun _ stepped => nomatch taken.symm.trans stepped)
  | some c' =>
      match settles : (stageOf requests c' i).settled with
      | none =>
          .isTrue (by
            rintro _ stepped status settled
            obtain rfl := Option.some.inj (taken.symm.trans stepped)
            cases settles.symm.trans settled)
      | some (other, status) =>
          decidable_of_iff
            (other = id → (stageOf requests c i).settled = some (id, status)
              ∨ c'.world.admits id status
                ∧ billsProtocol.Alone (startOf requests) Stage.settling c i id)
            (by
              constructor
              · rintro allowed _ stepped status' settled
                obtain rfl := Option.some.inj (taken.symm.trans stepped)
                obtain ⟨rfl, rfl⟩ := Prod.mk.inj (Option.some.inj (settles.symm.trans settled))
                exact allowed rfl
              · rintro allowed rfl
                exact allowed c' taken status settles)

/-- One request at a time is about to write a status of the transaction. -/
abbrev OneWriter (requests : List BillsRequest) (c : BillsConfig) (id : TxId) : Prop :=
  billsProtocol.Exclusive (startOf requests) Stage.settling (fun _ _ => False) (fun _ _ => 0) c id

/-- The status a live request is about to write is the only one, and may follow. -/
structure InOrder (requests : List BillsRequest) (id : TxId) (c : BillsConfig) : Prop where
  writer : OneWriter requests c id
  admitted : ∀ i, c.live i = true → ∀ status,
    (stageOf requests c i).settled = some (id, status) → c.world.admits id status

theorem settled_of_update {stage stage' : Stage} {id : TxId} {data : TransactionUpdate}
    {reply : Except JsError Unit}
    (moved : stage.next (.updateTransaction id data) reply = some stage')
    : stage.settled = some (id, data.status) := by
  simp only [Stage.next] at moved
  split at moved
  · rename_i allowed
    exact allowed.1
  · cases moved

theorem InOrder.admits_step {requests : List BillsRequest} {id : TxId} {c c' : BillsConfig}
    {i j : Nat} {x : Choice} {op : BillsOp} {reply : billsInterface.Reply op}
    {status : TransactionStatus} (h : InOrder requests id c) (live : c.live i = true)
    (answered : (billsSemantics setting).act i op x c.world = some (reply, c'.world))
    (moved : Stage.next (stageOf requests c i) op reply = some (stageOf requests c' i))
    (liveJ : c.live j = true) (settled : (stageOf requests c j).settled = some (id, status))
    : c'.world.admits id status := by
  intro current found
  rcases statusOf_of_act answered id with same | ⟨data, rfl, written⟩ | ⟨data, rfl, -, created⟩
  · exact h.admitted j liveJ status settled current (same ▸ found)
  · -- the writer is the request itself, which writes the status it has settled on
    have writer := settled_of_update moved
    obtain rfl : j = i := h.writer.single j i liveJ live (Stage.settling_iff.mpr ⟨status, settled⟩)
      (Stage.settling_iff.mpr ⟨_, writer⟩)
    obtain rfl : status = data.status := by
      rw [settled] at writer
      exact (Prod.mk.inj (Option.some.inj writer)).2
    obtain rfl := Option.some.inj (written.symm.trans found)
    simp [mayFollow]
  · have pending : data.status = .pending := by
      simp only [Stage.next] at moved
      split at moved
      · rename_i allowed
        exact allowed.2.2
      · cases moved
    obtain rfl := Option.some.inj (created.symm.trans found)
    rw [pending]
    rfl

theorem InOrder.step {requests : List BillsRequest} {id : TxId} {c c' : BillsConfig} {i : Nat}
    {x : Choice} (governed : billsProtocol.Governs (startOf requests) (fun _ _ _ => True)
      (fun _ _ _ => True) c)
    (h : InOrder requests id c) (allowed : SettlesInOrder setting requests id c i x)
    (stepped : c.step (billsSemantics setting) i x = some c')
    : InOrder requests id c' := by
  obtain ⟨op, reply, live, -, answered, moved, -, others, -⟩ := governed.step_cases stepped
  have settles := allowed c' stepped
  constructor
  · refine h.writer.step (fun _ absurd => absurd.elim) live
      (fun j different => ⟨(others j different).1, (others j different).2.1⟩) ⟨?_, ?_, .inl rfl⟩
    · intro mine
      obtain ⟨status, settled⟩ := Stage.settling_iff.mp mine
      rcases settles status settled with before | ⟨-, alone⟩
      · exact .inl (Stage.settling_iff.mpr ⟨status, before⟩)
      · exact .inr ⟨rfl, alone⟩
    · exact fun absurd => absurd.elim
  · intro j liveJ status settled
    by_cases mine : j = i
    · subst mine
      rcases settles status settled with before | ⟨admitted, -⟩
      · exact h.admits_step live answered moved live before
      · exact admitted
    · obtain ⟨same, sameLive, -⟩ := others j mine
      rw [sameLive] at liveJ
      exact h.admits_step live answered moved liveJ
        ((congrArg Stage.settled same).symm.trans settled)

theorem InOrder.keepsTerminal {requests : List BillsRequest} {id : TxId} {c : BillsConfig} {i : Nat}
    {op : BillsOp} {reply : billsInterface.Reply op} {stage' : Stage} (h : InOrder requests id c)
    (live : c.live i = true) (pending : c.pending? i = some op)
    (moved : Stage.next (stageOf requests c i) op reply = some stage') (x : Choice)
    : KeepsTerminal id c i x := by
  intro _
  rw [pending, Option.bind_some]
  cases made : c.world.updateOf op with
  | none => rfl
  | some update =>
      simp only [Option.all_some, decide_eq_true_eq]
      rintro rfl
      cases op with
      | updateTransaction other data =>
          obtain ⟨row, found, rfl⟩ := Option.map_eq_some_iff.mp made
          exact h.admitted i live data.status (settled_of_update moved) row.status
            (by simp [World.statusOf, found])
      | _ => cases made

/-- In a run whose requests settle in order, the terminal statuses of the transaction are
respected.
-/
theorem terminalRespected (setting : Setting) (dep : Deployment) (requests : List BillsRequest)
    (burn : Burn.World) (transactions : AList (fun _ : TxId => Transaction))
    (createdAt : TxId → Instant) (burnedAt : BurnId → Instant) (c : BillsConfig) (id : TxId)
    (reached : Config.Reaches (billsSemantics setting) (SettlesInOrder setting requests id)
      (initialConfig dep requests (.start burn transactions createdAt burnedAt)) c)
    : TerminalRespected c.world id := by
  have unsettled : ∀ i, (startOf requests i).settled = none := by
    intro i
    unfold startOf
    rcases requests[i]? with _ | request
    · rfl
    · cases request <;> rfl
  have start : InOrder requests id
      (initialConfig dep requests (.start burn transactions createdAt burnedAt)) := by
    have idle : ∀ i, (stageOf requests
        (initialConfig dep requests (.start burn transactions createdAt burnedAt)) i).settled
          = none := by
      intro i
      rw [stageOf, initialConfig, Protocol.phase_initial]
      exact unsettled i
    refine ⟨⟨?_, ?_, Nat.zero_le 1⟩, ?_⟩
    · intro i j _ _ first
      obtain ⟨status, settled⟩ := Stage.settling_iff.mp first
      cases (idle i).symm.trans settled
    · exact fun _ _ absurd => absurd.elim
    · intro i _ status settled
      cases (idle i).symm.trans settled
  refine (governs_initialConfig.invariant
    (J := fun c => InOrder requests id c ∧ TerminalRespected c.world id) ⟨start, ?_⟩ ?_
    reached).2.2
  · intro update absent
    cases absent
  · intro c c' i x governed kept allowed stepped
    obtain ⟨op, reply, live, pending, -, moved, -⟩ := governed.step_cases stepped
    exact ⟨kept.1.step governed allowed stepped, (terminalRespected_of_step stepped).mpr
      ⟨kept.2, kept.1.keepsTerminal live pending moved x⟩⟩

-- A payment of 1000 naira

def sampleSetting : Setting where
  startOf := fun _ _ => 0
  organizationOf := fun _ => none

def sampleDeployment : Deployment where
  burn := Burn.sampleDeployment
  billsProvider := "simulated"

def sampleProduct : BillsCatalogProduct where
  id := "topup"
  name := "Airtime Top-up"
  currency := "NGN"
  minAmount := 100
  maxAmount := 10000

def sampleBiller : BillsCatalogBiller where
  id := "mtn-airtime"
  name := "MTN Airtime"
  products := [sampleProduct]

def samplePayment : BillPaymentRequest where
  userId := some "user"
  organizationId := none
  audience := none
  billerId := "mtn-airtime"
  productId := "topup"
  customerReference := "08012345678"
  amount := 1000

/-- An event of the partner about the payment. -/
def sampleEvent (status : BillsWebhookStatus) : BillsWebhookEvent where
  provider := "simulated"
  transactionId := "t1"
  providerReference := "bill_1"
  status := status
  amount := 1000
  currency := "NGN"

/-- The partner takes the payment on and reports it completed; a refund is reported too. -/
def sampleChoice (outcome : Outcome JsError := .done) : Choice where
  toBurnChoice := { Burn.sampleChoice 100 with outcome, freshId := "t1" }
  catalog := [sampleBiller]
  payment :=
    { provider := "simulated", providerReference := "bill_1", dispatchStatus := .processing
      reconciliationEvent := some (sampleEvent .completed) }
  refund :=
    { provider := "simulated", providerReference := "bill_1"
      reconciliationEvent := sampleEvent .refunded }

def connectionLost : JsError := .error "connection lost"

/-- Empty tables before the first request. -/
def sampleWorld : World :=
  .start (.start ∅ ∅) ∅ (fun _ => 0) (fun _ => 0)

/-- The statuses written, the newest first, each with the one it was written over. -/
def World.statusChanges (w : World) : List (TransactionStatus × TransactionStatus) :=
  w.updates.map (fun update => (update.before, update.data.status))

/-- A payment is completed, and refunded afterwards. -/
theorem terminalRespected_refunded
    : ∃ c, Config.Reaches (billsSemantics sampleSetting) (SettlesInOrder sampleSetting
          [.pay samplePayment, .refund { transactionId := "t1" }] "t1")
          (initialConfig sampleDeployment [.pay samplePayment, .refund { transactionId := "t1" }]
            sampleWorld) c
        ∧ c.world.statusChanges
          = [(.completed, .refunded), (.processing, .completed), (.pending, .processing)]
        ∧ TerminalRespected c.world "t1" := by
  have executed :
      ((initialConfig sampleDeployment [.pay samplePayment, .refund { transactionId := "t1" }]
          sampleWorld).run (billsSemantics sampleSetting)
        (SettlesInOrder sampleSetting [.pay samplePayment, .refund { transactionId := "t1" }] "t1")
        (List.replicate 15 (0, sampleChoice) ++ List.replicate 6 (1, sampleChoice))).map
        (fun c => c.world.statusChanges)
      = some [(.completed, .refunded), (.processing, .completed), (.pending, .processing)] := by
    decide +kernel
  obtain ⟨c, reached, changes⟩ := Config.reaches_of_run executed
  exact ⟨c, reached, changes, terminalRespected _ _ _ _ _ _ _ c "t1" reached⟩

theorem not_terminalRespected_of_any {w : World} {id : TxId}
    (found : w.updates.any (fun update =>
      update.id = id && !mayFollow update.before update.data.status) = true)
    : ¬ TerminalRespected w id := by
  intro respected
  obtain ⟨update, made, refused⟩ := List.any_eq_true.mp found
  simp only [Bool.and_eq_true, decide_eq_true_eq, Bool.not_eq_true'] at refused
  have may := respects_iff.mp (respected update made refused.1)
  rw [refused.2] at may
  cases may

/-- The completion of a payment cannot be announced: the payment is marked failed. -/
theorem not_terminalRespected_failed
    : ∃ c, Config.Reaches (billsSemantics sampleSetting) Config.anyStep
          (initialConfig sampleDeployment [.pay samplePayment] sampleWorld) c
        ∧ ¬ TerminalRespected c.world "t1" := by
  have executed :
      ((initialConfig sampleDeployment [.pay samplePayment] sampleWorld).run
        (billsSemantics sampleSetting) Config.anyStep
        (List.replicate 14 (0, sampleChoice) ++ [(0, sampleChoice (.failed connectionLost))]
          ++ List.replicate 1 (0, sampleChoice))).map
        (fun c => c.world.updates.any (fun update =>
          update.id = "t1" && !mayFollow update.before update.data.status)) = some true := by
    decide +kernel
  obtain ⟨c, reached, found⟩ := Config.reaches_of_run executed
  exact ⟨c, reached, not_terminalRespected_of_any found⟩

end AcbuBackend.Bills

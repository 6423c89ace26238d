import AcbuBackend.Bills.TerminalStatus

/-! What the partner has done and what the table says of it.
A refund reads a completed row and then asks the partner; a payment marks its row failed when
anything in its `try` throws, also after the partner has taken the payment on.
-/

namespace AcbuBackend.Bills

open Effects AcbuBackend.Runtime Burn
open Mint (TxId TransactionStatus)

variable {setting : Setting} {dep : Deployment} {requests : List BillsRequest}

/-- The partner has refunded the transaction at most once, and has not taken a payment on that
`payBill` has marked failed.
-/
structure PartnerAgrees (w : World) (id : TxId) : Prop where
  refundedOnce : w.refundsFor id ≤ 1
  failedUnpaid : ∀ update ∈ w.updates, update.id = id → update.data.ofFailure = true →
    id ∉ w.accepted

-- What a call does to the partner

theorem accepted_of_act {i : Nat} {op : BillsOp} {x : Choice} {w w' : World}
    {reply : billsInterface.Reply op}
    (h : (billsSemantics setting).act i op x w = some (reply, w'))
    : w'.accepted = w.accepted
      ∨ ∃ request, op = .payBill request ∧ x.payment.accepted = true
          ∧ w'.accepted = request.transactionId :: w.accepted := by
  obtain ⟨-, answered⟩ := Environment.act_eq_some h
  rcases Outcome.answer_world answered with rfl | left
  · exact .inl rfl
  · have left : w' = (effect setting x w op).2 := left
    rw [left]
    cases op with
    | payBill request =>
        simp only [effect]
        split
        · rename_i taken
          exact .inr ⟨request, rfl, taken, rfl⟩
        · exact .inl rfl
    | burn op => exact .inl (by cases op <;> rfl)
    | updateTransaction id data =>
        refine .inl ?_
        simp only [effect, World.update]
        split <;> rfl
    | _ => exact .inl rfl

theorem refundsFor_of_act {i : Nat} {op : BillsOp} {x : Choice} {w w' : World}
    {reply : billsInterface.Reply op}
    (h : (billsSemantics setting).act i op x w = some (reply, w')) (id : TxId)
    : w'.refundsFor id = w.refundsFor id
      ∨ w'.refundsFor id = w.refundsFor id + 1
        ∧ ∃ request, op = .refundBill request ∧ request.transactionId = id := by
  obtain ⟨-, answered⟩ := Environment.act_eq_some h
  rcases Outcome.answer_world answered with rfl | left
  · exact .inl rfl
  · have left : w' = (effect setting x w op).2 := left
    rw [left]
    cases op with
    | refundBill request =>
        by_cases same : request.transactionId = id
        · exact .inr ⟨by simp [effect, World.refundsFor, same], request, rfl, same⟩
        · exact .inl (by simp [effect, World.refundsFor, same])
    | burn op => exact .inl (by cases op <;> rfl)
    | payBill request =>
        refine .inl ?_
        simp only [effect]
        split <;> rfl
    | updateTransaction other data =>
        refine .inl ?_
        simp only [effect, World.update]
        split <;> rfl
    | _ => exact .inl rfl

/-- No row is ever removed. -/
theorem mem_of_act {i : Nat} {op : BillsOp} {x : Choice} {w w' : World}
    {reply : billsInterface.Reply op}
    (h : (billsSemantics setting).act i op x w = some (reply, w')) {id : TxId}
    (stored : (w.statusOf id).isSome = true)
    : (w'.statusOf id).isSome = true := by
  rcases statusOf_of_act h id with same | ⟨data, -, written⟩ | ⟨data, -, -, created⟩
  · rw [same]
    exact stored
  · rw [written]
    rfl
  · rw [created]
    rfl

-- Refunds

/-- The request is about to ask the partner for a refund of the transaction. -/
def Stage.holdsRefund (stage : Stage) (id : TxId) : Prop :=
  stage.refunding = some id

instance (stage : Stage) (id : TxId) : Decidable (stage.holdsRefund id) :=
  inferInstanceAs (Decidable (_ = _))

/-- A refund only finds a row completed that was not refunded, and that no other refund has
found.
-/
def RefundsOnce (requests : List BillsRequest) (c : BillsConfig) (i : Nat) (x : Choice) : Prop :=
  match c.pending? i with
  | some (.findTransaction id) =>
      (stageOf requests c i).refunder = true → x.outcome = .done →
        (c.world.transactions.lookup id).any Transaction.refundable = true →
        c.world.refundsFor id = 0
        ∧ billsProtocol.Alone (startOf requests) Stage.holdsRefund c i id
  | _ => True

instance (requests : List BillsRequest) (c : BillsConfig) (i : Nat) (x : Choice)
    : Decidable (RefundsOnce requests c i x) := by
  unfold RefundsOnce
  split <;> infer_instance

/-- What a call does to the refund a request is about to ask for. -/
inductive RefundMove (stage : Stage) : Event billsInterface → Stage → Prop
  | other (event : Event billsInterface) (stage' : Stage)
      (unasked : ∀ request, event.op ≠ .refundBill request)
      (kept : stage'.refunding = stage.refunding)
      : RefundMove stage event stage'
  | found (id : TxId) (found : Option Transaction) (refunder : stage.refunder = true)
      (stage' : Stage)
      (read : stage'.refunding = if found.any Transaction.refundable then some id else none)
      : RefundMove stage ⟨.findTransaction id, .ok found⟩ stage'
  | asked (request : PartnerBillRefundRequest) (reply : Except JsError PartnerBillRefundResponse)
      (holds : stage.refunding = some request.transactionId) (stage' : Stage)
      (ended : stage'.refunding = none)
      : RefundMove stage ⟨.refundBill request, reply⟩ stage'

theorem RefundMove.of_next {stage stage' : Stage} {op : BillsOp} {reply : billsInterface.Reply op}
    (h : stage.next op reply = some stage')
    : RefundMove stage ⟨op, reply⟩ stage' := by
  cases op with
  | refundBill request =>
      simp only [Stage.next] at h
      split at h
      · rename_i holds
        obtain rfl := Option.some.inj h
        exact .asked request reply holds _ (by cases reply <;> rfl)
      · cases h
  | findTransaction id =>
      obtain rfl := Option.some.inj h
      cases reply with
      | error _ => exact .other _ _ (by simp) rfl
      | ok found =>
          by_cases refunder : stage.refunder = true
          · exact .found id found refunder _ (by simp [Stage.afterFind, refunder])
          · refine .other _ _ (by simp) ?_
            simp only [Stage.afterFind, if_neg refunder]
            split <;> rfl
  | createTransaction data =>
      simp only [Stage.next] at h
      split at h
      · split at h <;> (obtain rfl := Option.some.inj h; exact .other _ _ (by simp) rfl)
      · cases h
  | payBill request =>
      simp only [Stage.next] at h
      split at h
      · obtain rfl := Option.some.inj h
        exact .other _ _ (by simp) (by cases reply <;> rfl)
      · cases h
  | updateTransaction id data =>
      simp only [Stage.next] at h
      split at h
      · obtain rfl := Option.some.inj h
        refine .other _ _ (by simp) ?_
        unfold Stage.afterUpdate
        split
        · rfl
        · cases reply <;> rfl
      · cases h
  | burn _ | getCatalog =>
      obtain rfl := Option.some.inj h
      exact .other _ _ (by simp) rfl
  | createWebhook _ _ | logAudit _ _ | enqueueWebhook _ _ =>
      obtain rfl := Option.some.inj h
      exact .other _ _ (by simp) (by cases reply <;> rfl)

theorem exclusiveRefund {c c' : BillsConfig} {i : Nat} {x : Choice} {op : BillsOp}
    {reply : billsInterface.Reply op} (pending : c.pending? i = some op)
    (allowed : RefundsOnce requests c i x)
    (answered : (billsSemantics setting).act i op x c.world = some (reply, c'.world))
    (moved : Stage.next (stageOf requests c i) op reply = some (stageOf requests c' i)) (id : TxId)
    : billsProtocol.ExclusiveStep (startOf requests) Stage.holdsRefund Stage.holdsRefund
        World.refundsFor c c' i id := by
  have counted := refundsFor_of_act answered id
  have move := RefundMove.of_next moved
  simp only [RefundsOnce, pending] at allowed
  have before : billsProtocol.phase (startOf requests) c i = stageOf requests c i := rfl
  have after : billsProtocol.phase (startOf requests) c' i = stageOf requests c' i := rfl
  generalize stageOf requests c' i = stage' at move after
  cases move with
  | other _ _ unasked kept =>
      have same : c'.world.refundsFor id = c.world.refundsFor id := by
        rcases counted with same | ⟨-, request, asked, -⟩
        · exact same
        · exact absurd asked (unasked request)
      constructor
      · rw [after, before]
        exact fun holds => .inl (kept.symm.trans holds)
      · rw [after, before]
        exact fun holds => ⟨same, .inl (kept.symm.trans holds)⟩
      · exact .inl same
  | found other found refunder _ read =>
      have same : c'.world.refundsFor id = c.world.refundsFor id := by
        rcases counted with same | ⟨-, request, asked, -⟩
        · exact same
        · cases asked
      have entered : stage'.holdsRefund id → c.world.refundsFor id = 0
          ∧ billsProtocol.Alone (startOf requests) Stage.holdsRefund c i id := by
        intro holds
        rw [Stage.holdsRefund, read] at holds
        split at holds
        · rename_i refundable
          obtain rfl := Option.some.inj holds
          obtain ⟨done, taken⟩ := Outcome.answer_ok (Environment.act_eq_some answered).2
          have stored : c.world.transactions.lookup other = found :=
            Except.ok.inj (congrArg Prod.fst taken)
          exact allowed refunder done (by rw [stored]; exact refundable)
        · cases holds
      constructor
      · rw [after]
        exact fun holds => .inr (entered holds)
      · rw [after]
        exact fun holds => ⟨same, .inr (entered holds)⟩
      · exact .inl same
  | asked request _ holds _ ended =>
      constructor
      · rw [after]
        intro still
        cases ended.symm.trans still
      · rw [after]
        intro still
        cases ended.symm.trans still
      · rcases counted with same | ⟨added, _, asked, own⟩
        · exact .inl same
        · cases asked
          refine .inr ⟨added, .inl ?_⟩
          rw [before, ← own]
          exact holds

-- Payments

/-- Once the partner takes a payment on, its answer arrives and nothing in the `try` of the
payment throws any more.
-/
def AcceptanceStands (setting : Setting) (requests : List BillsRequest) (c : BillsConfig) (i : Nat)
    (x : Choice)
    : Prop :=
  match c.step (billsSemantics setting) i x with
  | none => True
  | some c' =>
      ((c.pending? i).any (fun op => match op with | .payBill _ => true | _ => false) = true →
        x.payment.accepted = true → x.outcome.isLost = false)
      ∧ ((stageOf requests c i).accepted = true → (stageOf requests c' i).thrown = false)

instance (setting : Setting) (requests : List BillsRequest) (c : BillsConfig) (i : Nat) (x : Choice)
    : Decidable (AcceptanceStands setting requests c i x) := by
  unfold AcceptanceStands
  split <;> infer_instance

/-- What a call does to the row of a payment and to the partner's acceptance of it. -/
inductive OrderMove (stage : Stage) : Event billsInterface → Stage → Prop
  | other (event : Event billsInterface) (stage' : Stage)
      (unpaid : ∀ request, event.op ≠ .payBill request)
      (unmarked : ∀ id data, event.op = .updateTransaction id data → data.ofFailure = false)
      (order : stage'.order = stage.order) (accepted : stage'.accepted = stage.accepted)
      : OrderMove stage event stage'
  | created (data : Transaction) (id : TxId) (first : stage.order = none)
      : OrderMove stage ⟨.createTransaction data, .ok id⟩ { stage with order := some id }
  | paid (request : PartnerBillPaymentRequest)
      (reply : Except JsError PartnerBillPaymentResponse)
      (own : stage.order = some request.transactionId) (unpaid : stage.accepted = false)
      (unthrown : stage.thrown = false)
      : OrderMove stage ⟨.payBill request, reply⟩ (stage.afterPay request.transactionId reply)
  | marked (id : TxId) (data : TransactionUpdate) (reply : Except JsError Unit)
      (failure : data.ofFailure = true) (thrown : stage.thrown = true)
      (own : stage.order = some id)
      : OrderMove stage ⟨.updateTransaction id data, reply⟩ (stage.afterUpdate data reply)

theorem OrderMove.of_next {stage stage' : Stage} {op : BillsOp} {reply : billsInterface.Reply op}
    (h : stage.next op reply = some stage')
    : OrderMove stage ⟨op, reply⟩ stage' := by
  cases op with
  | createTransaction data =>
      simp only [Stage.next] at h
      split at h
      · rename_i first
        split at h
        · obtain rfl := Option.some.inj h
          exact .other _ _ (by simp) (by simp) rfl rfl
        · obtain rfl := Option.some.inj h
          exact .created data _ first.1
      · cases h
  | payBill request =>
      simp only [Stage.next] at h
      split at h
      · rename_i own
        obtain rfl := Option.some.inj h
        exact .paid request reply own.1 own.2.1 own.2.2
      · cases h
  | updateTransaction id data =>
      simp only [Stage.next] at h
      split at h
      · rename_i allowed
        obtain ⟨-, thrown, own⟩ := allowed
        obtain rfl := Option.some.inj h
        cases failure : data.ofFailure with
        | true => exact .marked id data reply failure (thrown.symm.trans failure) (own failure)
        | false =>
            refine .other _ _ (by simp) ?_ ?_ ?_
            · rintro _ _ ⟨⟩
              exact failure
            · simp only [Stage.afterUpdate, failure, Bool.false_eq_true, if_false]
              cases reply <;> rfl
            · simp only [Stage.afterUpdate, failure, Bool.false_eq_true, if_false]
              cases reply <;> rfl
      · cases h
  | refundBill request =>
      simp only [Stage.next] at h
      split at h
      · obtain rfl := Option.some.inj h
        exact .other _ _ (by simp) (by simp) (by cases reply <;> rfl) (by cases reply <;> rfl)
      · cases h
  | findTransaction id =>
      obtain rfl := Option.some.inj h
      have kept : (stage.afterFind id reply).order = stage.order
          ∧ (stage.afterFind id reply).accepted = stage.accepted := by
        cases reply with
        | error _ => exact ⟨rfl, rfl⟩
        | ok found =>
            simp only [Stage.afterFind]
            split
            · exact ⟨rfl, rfl⟩
            · split <;> exact ⟨rfl, rfl⟩
      exact .other _ _ (by simp) (by simp) kept.1 kept.2
  | burn _ | getCatalog =>
      obtain rfl := Option.some.inj h
      exact .other _ _ (by simp) (by simp) rfl rfl
  | createWebhook _ _ | logAudit _ _ | enqueueWebhook _ _ =>
      obtain rfl := Option.some.inj h
      exact .other _ _ (by simp) (by simp) (by cases reply <;> rfl) (by cases reply <;> rfl)

theorem mem_updates_of_act {i : Nat} {op : BillsOp} {x : Choice} {w w' : World}
    {reply : billsInterface.Reply op}
    (h : (billsSemantics setting).act i op x w = some (reply, w')) {update : RowUpdate}
    (made : update ∈ w'.updates)
    : update ∈ w.updates ∨ w.updateOf op = some update := by
  rw [updates_of_act h] at made
  rcases List.mem_append.mp made with new | old
  · refine .inr ?_
    split at new
    · cases new
    · exact Option.mem_toList.mp new
  · exact .inl old

theorem told_of_accepted {i : Nat} {request : PartnerBillPaymentRequest} {x : Choice} {w w' : World}
    {reply : Except JsError PartnerBillPaymentResponse}
    (answered : (billsSemantics setting).act i (.payBill request) x w = some (reply, w'))
    (kept : x.payment.accepted = true → x.outcome.isLost = false)
    : w'.accepted = w.accepted ∨ reply = .ok x.payment ∧ x.payment.accepted = true
        ∧ w'.accepted = request.transactionId :: w.accepted := by
  rcases accepted_of_act answered with same | ⟨_, asked, taken, added⟩
  · exact .inl same
  · cases asked
    obtain ⟨-, result⟩ := Environment.act_eq_some answered
    change x.outcome.answer _ _ = _ at result
    cases outcome : x.outcome with
    | failed _ =>
        rw [outcome] at result
        obtain rfl := congrArg Prod.snd result
        exact .inl rfl
    | lost _ =>
        rw [outcome] at kept
        cases kept taken
    | done =>
        rw [outcome] at result
        exact .inr ⟨(congrArg Prod.fst result).symm, taken, added⟩

/-- The rows of the payments under way, and what is marked failed: a payment has a row of its
own, which is neither marked nor taken on before the partner has said so, and no payment that
was taken on is about to be marked.
-/
structure OrdersAgree (stages : Nat → Stage) (w : World) : Prop where
  single : ∀ i j id, (stages i).order = some id → (stages j).order = some id → i = j
  stored : ∀ i id, (stages i).order = some id → (w.statusOf id).isSome = true
  unaccepted : ∀ i id, (stages i).order = some id → (stages i).accepted = false → id ∉ w.accepted
  stands : ∀ i, (stages i).accepted = true → (stages i).thrown = false
  unmarked : ∀ i id, (stages i).order = some id →
    ∀ update ∈ w.updates, update.id = id → update.data.ofFailure = false
  known : ∀ id ∈ w.accepted, (w.statusOf id).isSome = true
  recorded : ∀ update ∈ w.updates, (w.statusOf update.id).isSome = true
  failedUnpaid : ∀ update ∈ w.updates, update.data.ofFailure = true → update.id ∉ w.accepted

section

variable {stages stages' : Nat → Stage} {w w' : World} {i : Nat}

/-- A step that is none of a payment's. -/
theorem OrdersAgree.other (h : OrdersAgree stages w)
    (order : ∀ j, (stages' j).order = (stages j).order)
    (accepted : ∀ j, (stages' j).accepted = (stages j).accepted)
    (stands : ∀ j, (stages' j).accepted = true → (stages' j).thrown = false)
    (stored : ∀ id, (w.statusOf id).isSome = true → (w'.statusOf id).isSome = true)
    (unpaid : w'.accepted = w.accepted)
    (updates : ∀ update ∈ w'.updates, update ∈ w.updates
      ∨ update.data.ofFailure = false ∧ (w.statusOf update.id).isSome = true)
    : OrdersAgree stages' w' := by
  constructor
  · intro i j id first second
    exact h.single i j id ((order i).symm.trans first) ((order j).symm.trans second)
  · exact fun j id own => stored id (h.stored j id ((order j).symm.trans own))
  · intro j id own before
    rw [unpaid]
    exact h.unaccepted j id ((order j).symm.trans own) ((accepted j).symm.trans before)
  · exact stands
  · intro j id own update made theirs
    rcases updates update made with old | ⟨plain, -⟩
    · exact h.unmarked j id ((order j).symm.trans own) update old theirs
    · exact plain
  · intro id member
    rw [unpaid] at member
    exact stored id (h.known id member)
  · intro update made
    rcases updates update made with old | ⟨-, row⟩
    · exact stored _ (h.recorded update old)
    · exact stored _ row
  · intro update made failure
    rw [unpaid]
    rcases updates update made with old | ⟨plain, -⟩
    · exact h.failedUnpaid update old failure
    · rw [plain] at failure
      cases failure

theorem OrdersAgree.created {id : TxId} (h : OrdersAgree stages w)
    (same : ∀ j, j ≠ i → stages' j = stages j) (order : (stages' i).order = some id)
    (stands : (stages' i).accepted = true → (stages' i).thrown = false)
    (stored : ∀ id, (w.statusOf id).isSome = true → (w'.statusOf id).isSome = true)
    (fresh : w.statusOf id = none) (row : (w'.statusOf id).isSome = true)
    (unpaid : w'.accepted = w.accepted) (updates : w'.updates = w.updates)
    : OrdersAgree stages' w' := by
  have unused : ∀ {other}, (w.statusOf other).isSome = true → other ≠ id := by
    rintro other there rfl
    rw [fresh] at there
    cases there
  have others : ∀ j other, (stages' j).order = some other →
      j = i ∧ other = id ∨ j ≠ i ∧ (stages j).order = some other := by
    intro j other own
    by_cases mine : j = i
    · subst mine
      exact .inl ⟨rfl, Option.some.inj (own.symm.trans order)⟩
    · exact .inr ⟨mine, (congrArg Stage.order (same j mine)).symm.trans own⟩
  constructor
  · intro j l other first second
    rcases others j other first with ⟨rfl, rfl⟩ | ⟨-, before⟩
    · rcases others l other second with ⟨rfl, -⟩ | ⟨-, before⟩
      · rfl
      · exact absurd rfl (unused (h.stored l other before))
    · rcases others l other second with ⟨-, rfl⟩ | ⟨-, before'⟩
      · exact absurd rfl (unused (h.stored j other before))
      · exact h.single j l other before before'
  · intro j other own
    rcases others j other own with ⟨-, rfl⟩ | ⟨-, before⟩
    · exact row
    · exact stored other (h.stored j other before)
  · intro j other own before
    rw [unpaid]
    rcases others j other own with ⟨-, rfl⟩ | ⟨different, owned⟩
    · exact fun member => unused (h.known other member) rfl
    · exact h.unaccepted j other owned ((congrArg Stage.accepted (same j different)).symm.trans
        before)
  · intro j
    by_cases mine : j = i
    · subst mine
      exact stands
    · rw [same j mine]
      exact h.stands j
  · intro j other own update made theirs
    rw [updates] at made
    rcases others j other own with ⟨-, rfl⟩ | ⟨-, before⟩
    · exact absurd theirs (unused (h.recorded update made))
    · exact h.unmarked j other before update made theirs
  · intro other member
    rw [unpaid] at member
    exact stored other (h.known other member)
  · intro update made
    rw [updates] at made
    exact stored _ (h.recorded update made)
  · intro update made
    rw [updates] at made
    rw [unpaid]
    exact h.failedUnpaid update made

theorem OrdersAgree.paid {id : TxId} (h : OrdersAgree stages w)
    (same : ∀ j, j ≠ i → stages' j = stages j) (own : (stages i).order = some id)
    (order : (stages' i).order = some id) (unpaid : (stages i).accepted = false)
    (stands : (stages' i).accepted = true → (stages' i).thrown = false)
    (stored : ∀ id, (w.statusOf id).isSome = true → (w'.statusOf id).isSome = true)
    (taken : w'.accepted = w.accepted
      ∨ (stages' i).accepted = true ∧ w'.accepted = id :: w.accepted)
    (updates : w'.updates = w.updates)
    : OrdersAgree stages' w' := by
  have orders : ∀ j other, (stages' j).order = some other → (stages j).order = some other := by
    intro j other owned
    by_cases mine : j = i
    · subst mine
      exact own.trans (order.symm.trans owned)
    · exact (congrArg Stage.order (same j mine)).symm.trans owned
  have members : ∀ other ∈ w'.accepted, other = id ∧ (stages' i).accepted = true
      ∨ other ∈ w.accepted := by
    intro other member
    rcases taken with kept | ⟨told, added⟩
    · exact .inr (kept ▸ member)
    · rw [added] at member
      rcases List.mem_cons.mp member with rfl | old
      · exact .inl ⟨rfl, told⟩
      · exact .inr old
  constructor
  · exact fun j l other first second => h.single j l other (orders j other first)
      (orders l other second)
  · exact fun j other owned => stored other (h.stored j other (orders j other owned))
  · intro j other owned before member
    rcases members other member with ⟨rfl, told⟩ | old
    · obtain rfl := h.single j i other (orders j other owned) own
      rw [told] at before
      cases before
    · by_cases mine : j = i
      · subst mine
        exact h.unaccepted j other (orders j other owned) unpaid old
      · exact h.unaccepted j other (orders j other owned)
          ((congrArg Stage.accepted (same j mine)).symm.trans before) old
  · intro j
    by_cases mine : j = i
    · subst mine
      exact stands
    · rw [same j mine]
      exact h.stands j
  · intro j other owned update made theirs
    rw [updates] at made
    exact h.unmarked j other (orders j other owned) update made theirs
  · intro other member
    rcases members other member with ⟨rfl, -⟩ | old
    · exact stored other (h.stored i other own)
    · exact stored other (h.known other old)
  · intro update made
    rw [updates] at made
    exact stored _ (h.recorded update made)
  · intro update made failure member
    rw [updates] at made
    rcases members update.id member with ⟨same, -⟩ | old
    · have plain := h.unmarked i id own update made same
      rw [failure] at plain
      cases plain
    · exact h.failedUnpaid update made failure old

theorem OrdersAgree.marked {id : TxId} (h : OrdersAgree stages w)
    (same : ∀ j, j ≠ i → stages' j = stages j) (own : (stages i).order = some id)
    (thrown : (stages i).thrown = true) (order : (stages' i).order = none)
    (stands : (stages' i).accepted = true → (stages' i).thrown = false)
    (stored : ∀ id, (w.statusOf id).isSome = true → (w'.statusOf id).isSome = true)
    (unpaid : w'.accepted = w.accepted)
    (updates : ∀ update ∈ w'.updates, update ∈ w.updates ∨ update.id = id)
    : OrdersAgree stages' w' := by
  have others : ∀ j other, (stages' j).order = some other →
      j ≠ i ∧ (stages j).order = some other := by
    intro j other owned
    by_cases mine : j = i
    · subst mine
      cases order.symm.trans owned
    · exact ⟨mine, (congrArg Stage.order (same j mine)).symm.trans owned⟩
  have refused : id ∉ w.accepted := by
    apply h.unaccepted i id own
    by_contra taken
    have stood := h.stands i (by simpa using taken)
    rw [thrown] at stood
    cases stood
  constructor
  · intro j l other first second
    exact h.single j l other (others j other first).2 (others l other second).2
  · exact fun j other owned => stored other (h.stored j other (others j other owned).2)
  · intro j other owned before
    obtain ⟨different, owned⟩ := others j other owned
    rw [unpaid]
    exact h.unaccepted j other owned ((congrArg Stage.accepted (same j different)).symm.trans
      before)
  · intro j
    by_cases mine : j = i
    · subst mine
      exact stands
    · rw [same j mine]
      exact h.stands j
  · intro j other owned update made theirs
    obtain ⟨different, owned⟩ := others j other owned
    rcases updates update made with old | mine
    · exact h.unmarked j other owned update old theirs
    · obtain rfl : other = id := theirs.symm.trans mine
      exact absurd (h.single j i other owned own) different
  · intro other member
    rw [unpaid] at member
    exact stored other (h.known other member)
  · intro update made
    rcases updates update made with old | mine
    · exact stored _ (h.recorded update old)
    · rw [mine]
      exact stored id (h.stored i id own)
  · intro update made failure
    rw [unpaid]
    rcases updates update made with old | mine
    · exact h.failedUnpaid update old failure
    · rw [mine]
      exact refused

end

theorem OrdersAgree.step {c c' : BillsConfig} {i : Nat} {x : Choice}
    (governed : billsProtocol.Governs (startOf requests) (fun _ _ _ => True)
      (fun _ _ _ => True) c)
    (h : OrdersAgree (stageOf requests c) c.world)
    (allowed : AcceptanceStands setting requests c i x)
    (stepped : c.step (billsSemantics setting) i x = some c')
    : OrdersAgree (stageOf requests c') c'.world := by
  obtain ⟨op, reply, -, pending, answered, moved, -, others, -⟩ := governed.step_cases stepped
  have same : ∀ j, j ≠ i → stageOf requests c' j = stageOf requests c j := fun j different =>
    (others j different).1
  simp only [AcceptanceStands, stepped, pending, Option.any_some] at allowed
  have stored : ∀ id, (c.world.statusOf id).isSome = true → (c'.world.statusOf id).isSome = true :=
    fun _ before => mem_of_act answered before
  have made : ∀ update, update ∈ c'.world.updates →
      update ∈ c.world.updates ∨ c.world.updateOf op = some update :=
    fun _ => mem_updates_of_act answered
  have move := OrderMove.of_next moved
  change OrderMove (stageOf requests c i) _ (stageOf requests c' i) at move
  have moved : (stageOf requests c i).next op reply = some (stageOf requests c' i) := moved
  generalize mine : stageOf requests c' i = stage' at move moved allowed
  cases move with
  | other _ _ unpaid unmarked order accepted =>
      have kept : c'.world.accepted = c.world.accepted := by
        rcases accepted_of_act answered with kept | ⟨request, asked, -⟩
        · exact kept
        · exact absurd asked (unpaid request)
      refine h.other ?_ ?_ ?_ stored kept ?_
      · intro j
        by_cases own : j = i
        · subst own
          rw [mine, order]
        · rw [same j own]
      · intro j
        by_cases own : j = i
        · subst own
          rw [mine, accepted]
        · rw [same j own]
      · intro j
        by_cases own : j = i
        · subst own
          rw [mine]
          exact fun taken => allowed.2 (accepted.symm.trans taken)
        · rw [same j own]
          exact h.stands j
      · intro update member
        rcases made update member with old | new
        · exact .inl old
        · cases op with
          | updateTransaction id data =>
              obtain ⟨row, found, rfl⟩ := Option.map_eq_some_iff.mp new
              exact .inr ⟨unmarked id data rfl, by simp [World.statusOf, found]⟩
          | _ => cases new
  | created data id first =>
      obtain ⟨possible, taken⟩ := Environment.act_eq_some answered
      obtain ⟨-, left⟩ := Outcome.answer_ok taken
      have fresh : x.freshId ∉ c.world.transactions := by
        simpa [billsEnvironment, admissible] using possible
      obtain rfl : x.freshId = id := Except.ok.inj (congrArg Prod.fst left)
      have world : c.world.create x.freshId x.time data = c'.world := congrArg Prod.snd left
      refine h.created same (congrArg Stage.order mine) ?_ stored ?_ ?_ ?_ ?_
      · rw [mine]
        exact fun taken => allowed.2 taken
      · simp [World.statusOf, AList.lookup_eq_none.mpr fresh]
      · simp [← world, World.create, World.statusOf]
      · rw [← world]
        rfl
      · rw [← world]
        rfl
  | paid request answer own unpaid unthrown =>
      have told := told_of_accepted answered (fun taken => allowed.1 rfl taken)
      have updates : c'.world.updates = c.world.updates := by
        rw [updates_of_act answered]
        simp [World.updateOf]
      have order : (stageOf requests c' i).order = some request.transactionId := by
        rw [mine, ← own]
        cases answer <;> rfl
      refine h.paid same own order unpaid ?_ stored ?_ updates
      · rw [mine]
        cases answer with
        | error _ =>
            intro taken
            cases unpaid.symm.trans taken
        | ok _ => exact fun _ => unthrown
      · rcases told with kept | ⟨rfl, taken, added⟩
        · exact .inl kept
        · exact .inr ⟨(congrArg Stage.accepted mine).trans taken, added⟩
  | marked id data _ failure thrown own =>
      have kept : c'.world.accepted = c.world.accepted := by
        rcases accepted_of_act answered with kept | ⟨request, asked, -⟩
        · exact kept
        · cases asked
      have ended : stageOf requests c' i
          = { stageOf requests c i with order := none, thrown := false, settled := none } := by
        rw [mine]
        exact if_pos failure
      refine h.marked same own thrown (congrArg Stage.order ended) ?_ stored kept ?_
      · intro _
        rw [ended]
      · intro update member
        rcases made update member with old | new
        · exact .inl old
        · obtain ⟨row, -, rfl⟩ := Option.map_eq_some_iff.mp new
          exact .inr rfl

/-- The partner and the table agree in a run in which refunds only find a row that no other
has refunded or is about to, and no payment throws that the partner has taken on.
-/
theorem partnerAgrees (setting : Setting) (dep : Deployment) (requests : List BillsRequest)
    (burn : Burn.World) (transactions : AList (fun _ : TxId => Transaction))
    (createdAt : TxId → Instant) (burnedAt : BurnId → Instant) (c : BillsConfig)
    (reached : Config.Reaches (billsSemantics setting)
      (fun c i x => RefundsOnce requests c i x ∧ AcceptanceStands setting requests c i x)
      (initialConfig dep requests (.start burn transactions createdAt burnedAt)) c)
    (id : TxId)
    : PartnerAgrees c.world id := by
  have idle : ∀ i, stageOf requests
      (initialConfig dep requests (.start burn transactions createdAt burnedAt)) i
        = startOf requests i := fun i => by
    rw [stageOf, initialConfig, Protocol.phase_initial]
  have start : ∀ i, (startOf requests i).order = none ∧ (startOf requests i).accepted = false
      ∧ (startOf requests i).refunding = none := by
    intro i
    unfold startOf
    rcases requests[i]? with _ | request
    · exact ⟨rfl, rfl, rfl⟩
    · cases request <;> exact ⟨rfl, rfl, rfl⟩
  constructor
  · have once : billsProtocol.Exclusive (startOf requests) Stage.holdsRefund Stage.holdsRefund
        World.refundsFor c id := by
      refine Protocol.Governs.atMostOnce (fun _ holds => holds) governs_initialConfig ?_ rfl ?_
        reached
      · intro i holds
        rw [initialConfig, Protocol.phase_initial] at holds
        cases (start i).2.2.symm.trans holds
      · intro c c' i x governed allowed stepped
        obtain ⟨op, reply, -, pending, answered, moved, -⟩ := governed.step_cases stepped
        exact exclusiveRefund pending allowed.1 answered moved id
    exact once.once
  · have agrees := (governs_initialConfig.invariant
      (J := fun c => OrdersAgree (stageOf requests c) c.world) ?_ ?_ reached).2
    · rintro update made rfl
      exact agrees.failedUnpaid update made
    · constructor
      · intro i j other first
        rw [idle, (start i).1] at first
        cases first
      · intro i other own
        rw [idle, (start i).1] at own
        cases own
      · intro i other own
        rw [idle, (start i).1] at own
        cases own
      · intro i taken
        rw [idle, (start i).2.1] at taken
        cases taken
      · intro i other own
        rw [idle, (start i).1] at own
        cases own
      · intro other member
        cases member
      · intro update member
        cases member
      · intro update member
        cases member
    · intro c c' i x governed agrees allowed stepped
      exact agrees.step governed allowed.2 stepped

-- Refunds of the payment of 1000 naira

/-- The payment of the samples, and two refunds of it. -/
def refundedTwice : List BillsRequest :=
  [.pay samplePayment, .refund { transactionId := "t1" }, .refund { transactionId := "t1" }]

/-- The second refund comes after the first, and is refused. -/
theorem partnerAgrees_refunded
    : ∃ c, Config.Reaches (billsSemantics sampleSetting)
          (fun c i x => RefundsOnce refundedTwice c i x
            ∧ AcceptanceStands sampleSetting refundedTwice c i x)
          (initialConfig sampleDeployment refundedTwice sampleWorld) c
        ∧ c.world.refundsFor "t1" = 1
        ∧ PartnerAgrees c.world "t1" := by
  have executed :
      ((initialConfig sampleDeployment refundedTwice sampleWorld).run (billsSemantics sampleSetting)
        (fun c i x => RefundsOnce refundedTwice c i x
          ∧ AcceptanceStands sampleSetting refundedTwice c i x)
        (List.replicate 15 (0, sampleChoice) ++ List.replicate 6 (1, sampleChoice)
          ++ [(2, sampleChoice)])).map
        (fun c => c.world.refundsFor "t1") = some 1 := by
    decide +kernel
  obtain ⟨c, reached, refunded⟩ := Config.reaches_of_run executed
  exact ⟨c, reached, refunded, partnerAgrees _ _ _ _ _ _ _ c reached "t1"⟩

/-- Both refunds read the row before the partner is asked. -/
theorem not_partnerAgrees_refunds
    : ∃ c, Config.Reaches (billsSemantics sampleSetting) Config.anyStep
          (initialConfig sampleDeployment refundedTwice sampleWorld) c
        ∧ ¬ PartnerAgrees c.world "t1" := by
  have executed :
      ((initialConfig sampleDeployment refundedTwice sampleWorld).run (billsSemantics sampleSetting)
        Config.anyStep
        (List.replicate 15 (0, sampleChoice)
          ++ [(1, sampleChoice), (2, sampleChoice), (1, sampleChoice), (2, sampleChoice)])).map
        (fun c => c.world.refundsFor "t1") = some 2 := by
    decide +kernel
  obtain ⟨c, reached, refunded⟩ := Config.reaches_of_run executed
  refine ⟨c, reached, fun agrees => ?_⟩
  have once := agrees.refundedOnce
  omega

end AcbuBackend.Bills

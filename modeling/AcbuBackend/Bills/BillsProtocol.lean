import AcbuBackend.Bills.BillsService

/-! The calls of the bills service, request by request.
A request settles on a status and then writes it: a reconciliation when it has recorded its
event, a payment when the partner has answered or a call of its `try` has thrown.
-/

namespace AcbuBackend.Bills

open Effects AcbuBackend.Runtime Burn
open Mint (TxId TransactionStatus)

variable {dep : Deployment}

/-- An update by the `catch` of `payBill`: it has a reason and is about no event. -/
def TransactionUpdate.ofFailure (data : TransactionUpdate) : Bool :=
  data.rateSnapshot.failure_reason.isSome && data.rateSnapshot.webhook_status.isNone

/-- A row `refundBillPayment` goes on with. -/
def Transaction.refundable (row : Transaction) : Bool :=
  row.type = "bill_payment" && (row.recipientAddress.filter (fun ref => ref ≠ "")).isSome
    && row.status = .completed

/-- How far a request has come: the row of its payment, whether the partner has taken it on,
whether its `try` has thrown, the status it is about to write, whether it is a refund before
its lookup, and the row it is about to have refunded.
-/
structure Stage where
  order : Option TxId := none
  accepted : Bool := false
  thrown : Bool := false
  settled : Option (TxId × TransactionStatus) := none
  refunder : Bool := false
  refunding : Option TxId := none

namespace Stage

/-- A call has thrown. A payment is about to be marked failed. -/
def throw (stage : Stage) : Stage :=
  { stage with
    thrown := stage.order.isSome
    settled := stage.order.map (fun id => (id, .failed)) }

/-- After a lookup: a row that is no bill payment makes its caller throw. -/
def afterFind (stage : Stage) (id : TxId) : Except JsError (Option Transaction) → Stage
  | .error _ => stage.throw
  | .ok found =>
      if stage.refunder then
        { stage with
          refunder := false
          refunding := if found.any Transaction.refundable then some id else none }
      else if found.any (fun row => row.type = "bill_payment") then stage
      else stage.throw

def afterPay (stage : Stage) (id : TxId) : Except JsError PartnerBillPaymentResponse → Stage
  | .error _ => stage.throw
  | .ok response =>
      { stage with
        accepted := response.accepted
        settled := some (id, response.dispatchStatus.toStatus) }

def afterRecord (stage : Stage) (event : BillsWebhookEvent) : Except JsError Unit → Stage
  | .error _ => stage.throw
  | .ok _ =>
      { stage with
        settled := some (event.transactionId, getTransactionStatusFromWebhook event.status) }

/-- After an update. The `catch` of a payment ends with its update. -/
def afterUpdate (stage : Stage) (data : TransactionUpdate) (reply : Except JsError Unit) : Stage :=
  if data.ofFailure then { stage with order := none, thrown := false, settled := none }
  else
    match reply with
    | .error _ => stage.throw
    | .ok _ => { stage with settled := none }

def afterCall {α : Type} (stage : Stage) : Except JsError α → Stage
  | .error _ => stage.throw
  | .ok _ => stage

def next (stage : Stage) : (op : BillsOp) → billsInterface.Reply op → Option Stage
  | .burn _, _ | .getCatalog, _ => some stage
  | .createTransaction data, reply =>
      if stage.order = none ∧ data.type = "bill_payment" ∧ data.status = .pending then
        match reply with
        | .error _ => some stage
        | .ok id => some { stage with order := some id }
      else none
  | .payBill request, reply =>
      if stage.order = some request.transactionId ∧ stage.accepted = false ∧ stage.thrown = false
      then some (stage.afterPay request.transactionId reply) else none
  | .refundBill request, reply =>
      if stage.refunding = some request.transactionId
      then some ({ stage with refunding := none }.afterCall reply) else none
  | .findTransaction id, reply => some (stage.afterFind id reply)
  | .createWebhook _ event, reply => some (stage.afterRecord event reply)
  | .updateTransaction id data, reply =>
      if stage.settled = some (id, data.status) ∧ data.ofFailure = stage.thrown
        ∧ (data.ofFailure = true → stage.order = some id)
      then some (stage.afterUpdate data reply) else none
  | .logAudit .., reply | .enqueueWebhook .., reply => some (stage.afterCall reply)

end Stage

def billsProtocol : Protocol billsInterface Stage where
  next := Stage.next

def BillsRequest.start : BillsRequest → Stage
  | .refund _ => { refunder := true }
  | _ => {}

-- The requests keep to the protocol

section

variable {stage : Stage}

theorem wp_call {op : BillsOp} {Q : op.Ret → Stage → Prop} {E : JsError → Stage → Prop}
    (moves : ∀ reply, billsProtocol.next stage op reply = some (stage.afterCall reply))
    (hQ : ∀ value, Q value stage) (hE : ∀ error, E error stage.throw)
    : billsProtocol.wp (issue op) stage Q E :=
  Protocol.wp_await.mpr
    ⟨fun value => ⟨stage, moves _, hQ value⟩, fun error => ⟨stage.throw, moves _, hE error⟩⟩

theorem wp_burnCalls {α : Type} {prog : Prog burnInterface α}
    : billsProtocol.wp (prog.within burnCalls) stage (fun _ stage' => stage' = stage)
        (fun _ stage' => stage' = stage) :=
  Protocol.wp_within_of_ignored (fun _ _ => rfl)

/-- A reconciliation is over when it has written the status of its event; where it throws, a
payment it is part of throws.
-/
theorem wp_reconcileBillsWebhook {event : BillsWebhookEvent} (unsettled : stage.settled = none)
    (unthrown : stage.thrown = false) (reader : stage.refunder = false)
    : billsProtocol.wp (reconcileBillsWebhook event) stage
        (fun _ stage' => stage' = stage) (fun _ stage' => stage' = stage.throw) := by
  have audited : billsProtocol.wp
      (do
        issue (.logAudit event.transactionId s!"bill_payment_{event.status.text}")
        notifyEvent event
        return getTransactionStatusFromWebhook event.status)
      stage (fun _ stage' => stage' = stage) (fun _ stage' => stage' = stage.throw) := by
    simp only [Protocol.wp_bind]
    refine wp_call (fun _ => rfl) (fun _ => ?_) (fun _ => rfl)
    unfold notifyEvent
    cases event.status with
    | completed | failed => exact wp_call (fun _ => rfl) (fun _ => rfl) (fun _ => rfl)
    | refunded => rfl
  unfold reconcileBillsWebhook
  rw [Protocol.wp_bind]
  refine Protocol.wp_await.mpr ⟨fun found => ⟨_, rfl, ?_⟩, fun error => ⟨_, rfl, rfl⟩⟩
  simp only [Stage.afterFind, reader, Bool.false_eq_true, if_false]
  unfold billPayment
  rw [Protocol.wp_bind, Protocol.wp_orThrow]
  constructor
  · intro row paid
    obtain ⟨rfl, type⟩ := Option.filter_eq_some_iff.mp paid
    simp only [Option.any_some, type, if_true]
    rw [Protocol.wp_bind]
    refine Protocol.wp_await.mpr ⟨fun _ => ⟨_, rfl, ?_⟩, fun _ => ⟨_, rfl, rfl⟩⟩
    rw [Protocol.wp_bind]
    have restored : { stage with thrown := false, settled := none } = stage := by
      rw [← unsettled, ← unthrown]
    refine Protocol.wp_await.mpr ⟨fun _ => ⟨stage, ?_, audited⟩, fun _ => ⟨stage.throw, ?_, rfl⟩⟩
    all_goals
      simp [billsProtocol, Stage.next, Stage.afterRecord, Stage.afterUpdate, reconciliation,
        TransactionUpdate.ofFailure, unthrown, restored, Stage.throw]
  · intro missing
    have other : found.any (fun row => row.type = "bill_payment") = false := by
      cases found with
      | none => rfl
      | some row => simpa using missing
    simp [other]

theorem wp_failOrder {order : BillOrder} {id : TxId} {error : JsError}
    (ordered : stage.order = some id)
    : billsProtocol.wp (failOrder order id error) stage.throw (fun _ _ => True)
        (fun _ _ => True) := by
  have written : ∀ reply, billsProtocol.next stage.throw
    (.updateTransaction id (order.failed error)) reply
      = some { stage.throw with order := none, thrown := false, settled := none } := by
    intro reply
    simp [billsProtocol, Stage.next, Stage.throw, ordered, BillOrder.failed, BillOrder.snapshot,
      TransactionUpdate.ofFailure, Stage.afterUpdate]
  unfold failOrder
  simp only [Protocol.wp_bind]
  refine Protocol.wp_await.mpr ⟨fun _ => ⟨_, written _, ?_⟩, fun _ => ⟨_, written _, trivial⟩⟩
  refine wp_call (fun _ => rfl) (fun _ => ?_) (fun _ => trivial)
  exact wp_call (fun _ => rfl) (fun _ => trivial) (fun _ => trivial)

theorem wp_dispatchOrder {order : BillOrder} {id : TxId}
    : billsProtocol.wp (dispatchOrder order id) { order := some id } (fun _ _ => True)
        (fun _ stage' => ∃ stage : Stage, stage.order = some id ∧ stage' = stage.throw) := by
  unfold dispatchOrder
  rw [Protocol.wp_bind]
  refine Protocol.wp_await.mpr ⟨fun response => ⟨_, if_pos ⟨rfl, rfl, rfl⟩, ?_⟩,
    fun error => ⟨_, if_pos ⟨rfl, rfl, rfl⟩, _, rfl, rfl⟩⟩
  have written : ∀ reply, billsProtocol.next
      (Stage.afterPay { order := some id } id (.ok response))
      (.updateTransaction id (order.dispatched response)) reply
        = some (Stage.afterCall { order := some id, accepted := response.accepted } reply) := by
    intro reply
    cases reply <;>
      simp [billsProtocol, Stage.next, Stage.afterPay, Stage.afterUpdate, BillOrder.dispatched,
        BillOrder.snapshot, TransactionUpdate.ofFailure, Stage.afterCall, Stage.throw]
  rw [Protocol.wp_bind]
  refine Protocol.wp_await.mpr ⟨fun _ => ⟨_, written _, ?_⟩, fun _ => ⟨_, written _, _, rfl, rfl⟩⟩
  rw [Protocol.wp_bind]
  unfold reconcileAnswer
  cases response.reconciliationEvent with
  | none => trivial
  | some event =>
      rw [Protocol.wp_bind]
      apply Protocol.wp_mono (wp_reconcileBillsWebhook rfl rfl rfl)
      · exact fun _ _ _ => trivial
      · rintro _ _ rfl
        exact ⟨_, rfl, rfl⟩

theorem wp_placeOrder {order : BillOrder}
    : billsProtocol.wp (placeOrder order) {} (fun _ _ => True) (fun _ _ => True) := by
  unfold placeOrder
  simp only [Protocol.wp_bind]
  refine Protocol.wp_await.mpr ⟨fun id => ⟨{ order := some id }, rfl, ?_⟩,
    fun _ => ⟨{}, rfl, trivial⟩⟩
  refine wp_call (fun _ => rfl) (fun _ => ?_) (fun _ => trivial)
  rw [Protocol.wp_catchWith]
  apply Protocol.wp_mono wp_dispatchOrder
  · exact fun _ _ _ => trivial
  · rintro error _ ⟨stage, ordered, rfl⟩
    exact wp_failOrder ordered

theorem wp_payBill {request : BillPaymentRequest}
    : billsProtocol.wp (payBill dep request) {} (fun _ _ => True) (fun _ _ => True) := by
  unfold payBill resolveCatalogSelection checkAmount
  simp only [Protocol.wp_bind, Protocol.wp_fromExcept, Protocol.wp_ensure, Protocol.wp_orThrow,
    Protocol.wp_pure, implies_true, and_true]
  intro provider _
  refine Protocol.wp_await.mpr ⟨fun catalog => ⟨{}, rfl, ?_⟩, fun _ => ⟨{}, rfl, trivial⟩⟩
  intro biller _ product _ _ _
  apply Protocol.wp_mono wp_burnCalls
  · rintro paused _ rfl _
    apply Protocol.wp_mono wp_burnCalls
    · rintro _ _ rfl
      exact wp_placeOrder
    · exact fun _ _ _ => trivial
  · exact fun _ _ _ => trivial

theorem wp_refundBillPayment {request : BillsRefundRequest}
    : billsProtocol.wp (refundBillPayment request) { refunder := true }
        (fun _ _ => True) (fun _ _ => True) := by
  unfold refundBillPayment billPayment
  simp only [Protocol.wp_bind]
  refine Protocol.wp_await.mpr ⟨fun found => ⟨_, rfl, ?_⟩, fun _ => ⟨_, rfl, trivial⟩⟩
  simp only [Protocol.wp_orThrow, Protocol.wp_ensure, Protocol.wp_fromExcept, implies_true,
    and_true]
  intro row paid providerReference address completed _ _
  obtain ⟨rfl, type⟩ := Option.filter_eq_some_iff.mp paid
  have refundable : row.refundable = true := by
    simp only [Transaction.refundable, address, Option.isSome_some, Bool.and_true, completed, type]
  have asked : ∀ reply, billsProtocol.next
      (Stage.afterFind { refunder := true } request.transactionId (.ok (some row)))
      (.refundBill (refundRequest request row providerReference)) reply
        = some (Stage.afterCall {} reply) := by
    intro reply
    simp [billsProtocol, Stage.next, Stage.afterFind, refundable, refundRequest]
  refine Protocol.wp_await.mpr ⟨fun response => ⟨_, asked _, ?_⟩, fun _ => ⟨_, asked _, trivial⟩⟩
  apply Protocol.wp_mono (wp_reconcileBillsWebhook rfl rfl rfl)
  · exact fun _ _ _ => trivial
  · exact fun _ _ _ => trivial

theorem wp_handle {request : BillsRequest}
    : billsProtocol.wp (handle dep request) request.start (fun _ _ => True) (fun _ _ => True) := by
  cases request with
  | pay request => exact wp_payBill
  | refund request => exact wp_refundBillPayment
  | webhook event =>
      unfold handle
      rw [Protocol.wp_bind]
      apply Protocol.wp_mono (wp_reconcileBillsWebhook rfl rfl rfl)
      · exact fun _ _ _ => trivial
      · exact fun _ _ _ => trivial
  | burn request =>
      unfold handle
      rw [Protocol.wp_bind]
      apply Protocol.wp_mono wp_burnCalls
      · exact fun _ _ _ => trivial
      · exact fun _ _ _ => trivial

end

-- Runs

def startOf (requests : List BillsRequest) (i : Nat) : Stage :=
  (requests[i]?).elim {} BillsRequest.start

/-- How far request `i` has come. -/
def stageOf (requests : List BillsRequest) (c : BillsConfig) (i : Nat) : Stage :=
  billsProtocol.phase (startOf requests) c i

theorem governs_initialConfig {requests : List BillsRequest} {world : World}
    : billsProtocol.Governs (startOf requests) (fun _ _ _ => True) (fun _ _ _ => True)
        (initialConfig dep requests world) := by
  apply Protocol.governs_initial
  intro i prog found
  rw [List.getElem?_map] at found
  obtain ⟨request, member, rfl⟩ := Option.map_eq_some_iff.mp found
  simp only [startOf, member, Option.elim_some]
  exact wp_handle

theorem statusOf_of_act {setting : Setting} {i : Nat} {op : BillsOp} {x : Choice} {w w' : World}
    {reply : billsInterface.Reply op}
    (h : (billsSemantics setting).act i op x w = some (reply, w')) (id : TxId)
    : w'.statusOf id = w.statusOf id
      ∨ (∃ data, op = .updateTransaction id data ∧ w'.statusOf id = some data.status)
      ∨ ∃ data, op = .createTransaction data ∧ w.statusOf id = none
          ∧ w'.statusOf id = some data.status := by
  obtain ⟨possible, answered⟩ := Environment.act_eq_some h
  rcases Outcome.answer_world answered with rfl | left
  · exact .inl rfl
  · have left : w' = (effect setting x w op).2 := left
    rw [left]
    cases op with
    | updateTransaction other data =>
        simp only [effect, World.update]
        split
        · exact .inl rfl
        · by_cases same : id = other
          · subst same
            exact .inr (.inl ⟨data, rfl, by simp [World.statusOf, Transaction.apply]⟩)
          · exact .inl (by simp [World.statusOf, AList.lookup_insert_ne same])
    | createTransaction data =>
        have fresh : x.freshId ∉ w.transactions := by
          simpa [billsEnvironment, admissible] using possible
        by_cases same : id = x.freshId
        · subst same
          refine .inr (.inr ⟨data, rfl, ?_, ?_⟩)
          · simp [World.statusOf, AList.lookup_eq_none.mpr fresh]
          · simp [World.statusOf, effect, World.create]
        · exact .inl (by simp [World.statusOf, effect, World.create, AList.lookup_insert_ne same])
    | burn op => exact .inl (by cases op <;> rfl)
    | payBill request =>
        refine .inl ?_
        simp only [effect]
        split <;> rfl
    | _ => exact .inl rfl

end AcbuBackend.Bills

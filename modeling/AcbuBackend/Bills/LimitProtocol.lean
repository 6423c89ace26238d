import AcbuBackend.Bills.BillsService
import AcbuBackend.Burn.RefusedBurns

/-! The requests that withdraw, as far as limits are concerned.
A payment asks for its sums, is cleared by them, records its row and from then on writes over
that row only. A burn is refused before it has recorded anything.
-/

namespace AcbuBackend.Bills

open Effects AcbuBackend.Runtime Burn
open Mint (TxId TransactionStatus)

/-- A request of `burnAcbu` or `payBill`. -/
inductive Withdrawal
  | burnAcbu (request : BurnRequest)
  | payBill (request : BillPaymentRequest)

def Withdrawal.toRequest : Withdrawal → BillsRequest
  | .burnAcbu request => .burn request
  | .payBill request => .pay request

/-- The audience whose limits are checked. -/
def BillPaymentRequest.audienceOf (request : BillPaymentRequest) : String :=
  (request.audience.filter (fun audience => audience ≠ "")).getD "retail"

/-- The actor whose withdrawals a check sums up. -/
def BillPaymentRequest.actor (request : BillPaymentRequest) : ActorWhere :=
  buildActorWhere request.userId request.organizationId

def withdrawalCap (config : LimitConfig) : Window → ℚ
  | .startOfDay => config.withdrawalSingleCurrencyDailyUsd
  | .startOfMonth => config.withdrawalSingleCurrencyMonthlyUsd

-- Checks

/-- What a limit check has been told: the limits, the rate, and for each window what has been
withdrawn, with the currency this was asked for.
-/
structure LimitCheck where
  limits : Option LimitsSnapshot := none
  daily : Option (Option String × ℚ) := none
  monthly : Option (Option String × ℚ) := none
  rate : Option ℚ := none

namespace LimitCheck

def told (check : LimitCheck) : Window → Option (Option String × ℚ)
  | .startOfDay => check.daily
  | .startOfMonth => check.monthly

def tell (check : LimitCheck) (window : Window) (answer : Option String × ℚ) : LimitCheck :=
  match window with
  | .startOfDay => { check with daily := some answer }
  | .startOfMonth => { check with monthly := some answer }

def clearsWindow (check : LimitCheck) (config : LimitConfig) (rate amount : ℚ)
    (currency : Option String) (window : Window)
    : Bool :=
  (check.told window).any (fun told =>
    told.1 = currency && (told.2 + amount) * rate ≤ withdrawalCap config window)

def clears (check : LimitCheck) (request : BillPaymentRequest) (currency : Option String) : Bool :=
  (check.limits.bind (fun limits => limits.audience? request.audienceOf)).any (fun config =>
    check.rate.any (fun rate =>
      check.clearsWindow config rate request.amount currency .startOfDay
      && check.clearsWindow config rate request.amount currency .startOfMonth))

/-- After a call of the check of `request`; its sums are over the actor of the request. -/
def next (check : LimitCheck) (request : BillPaymentRequest)
    : (op : BurnOp) → burnInterface.Reply op → Option LimitCheck
  | .getReserveStatus, _ => some check
  | .getLimitsSnapshot, .ok limits => some { check with limits := some limits }
  | .getLimitsSnapshot, .error _ => some check
  | .sumAcbuAmountBurned window currency actor, reply =>
      if actor = request.actor then
        match reply with
        | .ok sum => some (check.tell window (currency, sum))
        | .error _ => some check
      else none
  | .getAcbuUsdRate, .ok rate => some { check with rate := some rate }
  | .getAcbuUsdRate, .error _ => some check
  | _, _ => none

end LimitCheck

def checkProtocol (request : BillPaymentRequest) : Protocol burnInterface LimitCheck where
  next check op reply := check.next request op reply

-- Rows

/-- A row that was recorded: whether no update has taken it out of the sums, the transaction
the partner's event is about, and the organisation that its lookup has found.
-/
structure Entry where
  id : TxId
  organizationId : Option String
  live : Bool := true
  event : Option TxId := none
  read : Option (Option String) := none

namespace Entry

/-- An update of the row itself, or of the row the partner's event is about. -/
def writes (entry : Entry) (id : TxId) (data : TransactionUpdate) : Bool :=
  (id = entry.id && data.rateSnapshot.organizationId = entry.organizationId)
  || (entry.event = some id && entry.read = some data.rateSnapshot.organizationId)

def afterPay (entry : Entry) : Except JsError PartnerBillPaymentResponse → Entry
  | .ok response => { entry with event := response.reconciliationEvent.map (·.transactionId) }
  | .error _ => entry

/-- After the lookup of a reconciliation. -/
def afterFind (entry : Entry) : Except JsError (Option Transaction) → Entry
  | .ok (some row) => { entry with read := some row.rateSnapshot.organizationId }
  | _ => entry

def next (entry : Entry) : (op : BillsOp) → billsInterface.Reply op → Option Entry
  | .payBill request, reply =>
      if request.transactionId = entry.id then some (entry.afterPay reply) else none
  | .findTransaction id, reply =>
      if entry.event = some id then some (entry.afterFind reply) else none
  | .updateTransaction id data, _ =>
      if entry.writes id data = true ∧ (counted data.status = true → entry.live = true) then
        some { entry with live := counted data.status }
      else none
  | .createWebhook .., _ | .logAudit .., _ | .enqueueWebhook .., _ => some entry
  | _, _ => none

end Entry

def BillPaymentRequest.records (request : BillPaymentRequest) (data : Transaction) : Bool :=
  data.userId = request.userId && data.organizationId = none
  && data.rateSnapshot.organizationId = request.organizationId
  && data.acbuAmountBurned = some request.amount && data.status = .pending

/-- How far a request is: it only reads, it has not recorded its payment, or it has. -/
inductive LimitStage
  | reading
  | paying (request : BillPaymentRequest) (check : LimitCheck)
  | recorded (entry : Entry)

def LimitStage.next : LimitStage → (op : BillsOp) → billsInterface.Reply op → Option LimitStage
  | .reading, .burn op, reply => (readingProtocol.next () op reply).map (fun _ => .reading)
  | .paying request check, .burn op, reply => (check.next request op reply).map (.paying request)
  | .paying request check, .getCatalog, _ => some (.paying request check)
  | .paying request check, .createTransaction data, reply =>
      if request.records data = true ∧ check.clears request data.localCurrency = true then
        match reply with
        | .ok id => some (.recorded { id, organizationId := request.organizationId })
        | .error _ => some (.paying request check)
      else none
  | .recorded entry, op, reply => (entry.next op reply).map .recorded
  | _, _, _ => none

def limitProtocol : Protocol billsInterface LimitStage where
  next := LimitStage.next

def Withdrawal.start : Withdrawal → LimitStage
  | .burnAcbu _ => .reading
  | .payBill request => .paying request {}

-- The requests keep to the protocol

variable {dep : Deployment} {request : BillPaymentRequest} {check : LimitCheck}

theorem wp_checkCall {op : BurnOp} {Q : op.Ret → LimitCheck → Prop}
    {E : JsError → LimitCheck → Prop}
    (hQ : ∀ value, ∃ check', check.next request op (.ok value) = some check' ∧ Q value check')
    (hE : ∀ error, ∃ check', check.next request op (.error error) = some check' ∧ E error check')
    : (checkProtocol request).wp (perform op) check Q E :=
  Protocol.wp_await.mpr ⟨hQ, hE⟩

theorem wp_pausedCheck {currency : String}
    : (checkProtocol request).wp (isCurrencyWithdrawalPaused currency) check
        (fun _ _ => True) (fun _ _ => True) := by
  unfold isCurrencyWithdrawalPaused
  rw [Protocol.wp_bind]
  refine wp_checkCall (fun status => ⟨check, rfl, ?_⟩) (fun _ => ⟨check, rfl, trivial⟩)
  cases status.find? (fun c => c.currency = currency) with
  | none => trivial
  | some curr =>
      rw [Protocol.wp_ite]
      refine ⟨fun _ => trivial, fun _ => ?_⟩
      rw [Protocol.wp_bind]
      exact wp_checkCall (fun _ => ⟨_, rfl, trivial⟩) (fun _ => ⟨_, rfl, trivial⟩)

theorem wp_checkWithdrawalLimits {burn : Burn.Deployment} {currency : Option String}
    : (checkProtocol request).wp
        (checkWithdrawalLimits burn request.audienceOf request.amount currency request.userId
          request.organizationId)
        check (fun _ check' => check'.clears request currency = true) (fun _ _ => True) := by
  unfold checkWithdrawalLimits
  have own : ∀ (window : Window) (check : LimitCheck) (reply : Except JsError ℚ),
      check.next request (.sumAcbuAmountBurned window currency
        (buildActorWhere request.userId request.organizationId)) reply
      = match reply with
        | .ok sum => some (check.tell window (currency, sum))
        | .error _ => some check := by
    intro window check reply
    cases reply <;> exact if_pos rfl
  rw [Protocol.wp_bind]
  refine wp_checkCall (fun limits => ⟨_, rfl, ?_⟩) (fun _ => ⟨_, rfl, trivial⟩)
  rw [Protocol.wp_bind]
  refine wp_checkCall (fun daily => ⟨_, own _ _ _, ?_⟩) (fun _ => ⟨_, own _ _ _, trivial⟩)
  rw [Protocol.wp_bind]
  refine wp_checkCall (fun monthly => ⟨_, own _ _ _, ?_⟩) (fun _ => ⟨_, own _ _ _, trivial⟩)
  rw [Protocol.wp_bind]
  refine wp_checkCall (fun rate => ⟨_, rfl, ?_⟩) (fun _ => ⟨_, rfl, trivial⟩)
  simp only [ensureWithinCap, Protocol.wp_bind, Protocol.wp_orThrow, Protocol.wp_ensure,
    decide_eq_true_eq, implies_true, and_true]
  intro config configured withinDay withinMonth
  simp [LimitCheck.clears, LimitCheck.clearsWindow, LimitCheck.tell, LimitCheck.told, configured,
    withdrawalCap, withinDay, withinMonth]

theorem wp_checkWithin {α : Type} {prog : Prog burnInterface α} {Q : α → LimitCheck → Prop}
    (h : (checkProtocol request).wp prog check Q (fun _ _ => True))
    : limitProtocol.wp (prog.within burnCalls) (.paying request check)
        (fun value stage => ∃ check', stage = .paying request check' ∧ Q value check')
        (fun _ _ => True) := by
  have moved := Protocol.wp_within (R := limitProtocol) (ι := burnCalls)
    (fun (check : LimitCheck) stage => stage = LimitStage.paying request check)
    (by
      rintro check check' _ op reply rfl moved
      have same : burnCalls.reply op reply = reply := by cases reply <;> rfl
      rw [same] at moved
      exact ⟨.paying request check', congrArg (Option.map (LimitStage.paying request)) moved, rfl⟩)
    h rfl
  exact Protocol.wp_mono moved (fun _ _ known => known) (fun _ _ _ => trivial)

/-- The request has recorded the row `id` in the name of an organisation. -/
def LimitStage.holds (id : TxId) (organizationId : Option String) (stage : LimitStage) : Prop :=
  ∃ entry, stage = .recorded entry ∧ entry.id = id ∧ entry.organizationId = organizationId

variable {id : TxId} {organizationId : Option String} {entry : Entry}

theorem wp_keptCall {op : BillsOp} {Q : op.Ret → LimitStage → Prop}
    {E : JsError → LimitStage → Prop}
    (kept : ∀ reply, entry.next op reply = some entry) (hQ : ∀ value, Q value (.recorded entry))
    (hE : ∀ error, E error (.recorded entry))
    : limitProtocol.wp (issue op) (.recorded entry) Q E :=
  Protocol.wp_await.mpr
    ⟨fun value => ⟨_, congrArg (Option.map LimitStage.recorded) (kept _), hQ value⟩,
      fun error => ⟨_, congrArg (Option.map LimitStage.recorded) (kept _), hE error⟩⟩

theorem wp_ownUpdate {other : TxId} {data : TransactionUpdate} {Q : Unit → LimitStage → Prop}
    {E : JsError → LimitStage → Prop} (writes : entry.writes other data = true)
    (still : counted data.status = true → entry.live = true)
    (hQ : Q () (.recorded { entry with live := counted data.status }))
    (hE : ∀ error, E error (.recorded { entry with live := counted data.status }))
    : limitProtocol.wp (issue (.updateTransaction other data)) (.recorded entry) Q E := by
  have moved : ∀ reply : Except JsError Unit, limitProtocol.next (.recorded entry)
      (.updateTransaction other data) reply
        = some (.recorded { entry with live := counted data.status }) :=
    fun _ => congrArg (Option.map LimitStage.recorded) (if_pos ⟨writes, still⟩)
  exact Protocol.wp_await.mpr ⟨fun _ => ⟨_, moved _, hQ⟩, fun error => ⟨_, moved _, hE error⟩⟩

theorem wp_reconcileOwn {event : BillsWebhookEvent} (live : entry.live = true)
    (about : entry.event = some event.transactionId)
    : limitProtocol.wp (reconcileBillsWebhook event) (.recorded entry)
        (fun _ stage => stage.holds entry.id entry.organizationId)
        (fun _ stage => stage.holds entry.id entry.organizationId) := by
  have found : ∀ reply, limitProtocol.next (.recorded entry)
    (.findTransaction event.transactionId) reply
      = some (.recorded (entry.afterFind reply)) :=
    fun _ => congrArg (Option.map LimitStage.recorded) (if_pos about)
  unfold reconcileBillsWebhook
  rw [Protocol.wp_bind]
  refine Protocol.wp_await.mpr ⟨fun row => ⟨_, found _, ?_⟩,
    fun _ => ⟨_, found _, entry, rfl, rfl, rfl⟩⟩
  unfold billPayment
  rw [Protocol.wp_bind, Protocol.wp_orThrow]
  constructor
  · intro row paid
    obtain ⟨rfl, -⟩ := Option.filter_eq_some_iff.mp paid
    rw [Protocol.wp_bind]
    refine wp_keptCall (fun _ => rfl) (fun _ => ?_) (fun _ => ⟨_, rfl, rfl, rfl⟩)
    rw [Protocol.wp_bind]
    refine wp_ownUpdate ?_ (fun _ => live) ?_ (fun _ => ⟨_, rfl, rfl, rfl⟩)
    · simp [Entry.writes, Entry.afterFind, about, reconciliation]
    · rw [Protocol.wp_bind]
      refine wp_keptCall (fun _ => rfl) (fun _ => ?_) (fun _ => ⟨_, rfl, rfl, rfl⟩)
      rw [Protocol.wp_bind]
      unfold notifyEvent
      cases event.status with
      | completed | failed =>
          exact wp_keptCall (fun _ => rfl) (fun _ => ⟨_, rfl, rfl, rfl⟩)
            (fun _ => ⟨_, rfl, rfl, rfl⟩)
      | refunded => exact ⟨_, rfl, rfl, rfl⟩
  · intro _
    cases row with
    | none => exact ⟨_, rfl, rfl, rfl⟩
    | some row => exact ⟨_, rfl, rfl, rfl⟩

variable {order : BillOrder}

theorem wp_dispatchOwn
    : limitProtocol.wp (dispatchOrder order id)
        (.recorded { id, organizationId := order.request.organizationId })
        (fun _ _ => True) (fun _ stage => stage.holds id order.request.organizationId) := by
  have asked : ∀ reply, limitProtocol.next
      (.recorded { id, organizationId := order.request.organizationId })
      (.payBill (order.partnerRequest id)) reply
        = some (.recorded
            (Entry.afterPay { id, organizationId := order.request.organizationId } reply)) :=
    fun _ => congrArg (Option.map LimitStage.recorded) (if_pos rfl)
  unfold dispatchOrder
  rw [Protocol.wp_bind]
  refine Protocol.wp_await.mpr ⟨fun response => ⟨_, asked _, ?_⟩,
    fun _ => ⟨_, asked _, _, rfl, rfl, rfl⟩⟩
  rw [Protocol.wp_bind]
  have standing : counted (order.dispatched response).status = true := by
    unfold BillOrder.dispatched DispatchStatus.toStatus
    cases response.dispatchStatus <;> rfl
  refine wp_ownUpdate ?_ (fun _ => rfl) ?_ (fun _ => ⟨_, rfl, rfl, rfl⟩)
  · simp [Entry.writes, Entry.afterPay, BillOrder.dispatched, BillOrder.snapshot]
  · rw [Protocol.wp_bind]
    unfold reconcileAnswer
    cases event : response.reconciliationEvent with
    | none => trivial
    | some event =>
        rw [Protocol.wp_bind]
        apply Protocol.wp_mono (wp_reconcileOwn standing (by simp [Entry.afterPay, event]))
        · exact fun _ _ _ => trivial
        · exact fun _ _ known => known

theorem wp_failOwn {error : JsError} {stage : LimitStage}
    (own : stage.holds id order.request.organizationId)
    : limitProtocol.wp (failOrder order id error) stage (fun _ _ => True) (fun _ _ => True) := by
  obtain ⟨entry, rfl, rfl, named⟩ := own
  unfold failOrder
  rw [Protocol.wp_bind]
  refine wp_ownUpdate ?_ (fun standing => by cases standing) ?_ (fun _ => trivial)
  · simp [Entry.writes, BillOrder.failed, BillOrder.snapshot, named]
  · rw [Protocol.wp_bind]
    refine wp_keptCall (fun _ => rfl) (fun _ => ?_) (fun _ => trivial)
    rw [Protocol.wp_bind]
    exact wp_keptCall (fun _ => rfl) (fun _ => trivial) (fun _ => trivial)

theorem wp_placeCleared (cleared : check.clears order.request (some order.product.currency) = true)
    : limitProtocol.wp (placeOrder order) (.paying order.request check) (fun _ _ => True)
        (fun _ _ => True) := by
  have own : order.request.records order.pendingRow = true := by
    simp [BillPaymentRequest.records, BillOrder.pendingRow, BillOrder.snapshot]
  unfold placeOrder
  rw [Protocol.wp_bind]
  refine Protocol.wp_await.mpr
    ⟨fun id => ⟨_, if_pos ⟨own, cleared⟩, ?_⟩, fun _ => ⟨_, if_pos ⟨own, cleared⟩, trivial⟩⟩
  rw [Protocol.wp_bind]
  refine wp_keptCall (fun _ => rfl) (fun _ => ?_) (fun _ => trivial)
  rw [Protocol.wp_catchWith]
  exact Protocol.wp_mono wp_dispatchOwn (fun _ _ _ => trivial) (fun _ _ own => wp_failOwn own)

theorem wp_payChecked
    : limitProtocol.wp (payBill dep request) (.paying request {}) (fun _ _ => True)
        (fun _ _ => True) := by
  unfold payBill resolveCatalogSelection checkAmount
  simp only [Protocol.wp_bind, Protocol.wp_fromExcept, Protocol.wp_ensure, Protocol.wp_orThrow,
    Protocol.wp_pure, implies_true, and_true]
  intro provider _
  refine Protocol.wp_await.mpr ⟨fun catalog => ⟨_, rfl, ?_⟩, fun _ => ⟨_, rfl, trivial⟩⟩
  intro biller _ product _ _ _
  apply Protocol.wp_mono (wp_checkWithin wp_pausedCheck)
  · rintro paused _ ⟨check, rfl, -⟩ _
    apply Protocol.wp_mono (wp_checkWithin wp_checkWithdrawalLimits)
    · rintro _ _ ⟨cleared, rfl, passed⟩
      exact wp_placeCleared passed
    · exact fun _ _ _ => trivial
  · exact fun _ _ _ => trivial

theorem wp_burnRefused {request : BurnRequest}
    : limitProtocol.wp ((burnAcbu dep.burn request).within burnCalls) .reading (fun _ _ => False)
        (fun _ _ => True) := by
  have moved := Protocol.wp_within (R := limitProtocol) (ι := burnCalls)
    (fun (_ : Unit) stage => stage = LimitStage.reading)
    (by
      rintro _ _ _ op reply rfl moved
      have same : burnCalls.reply op reply = reply := by cases reply <;> rfl
      rw [same] at moved
      exact ⟨.reading, congrArg (Option.map fun _ => LimitStage.reading) moved, rfl⟩)
    (@wp_burnAcbu dep.burn request) rfl
  exact Protocol.wp_mono moved (fun _ _ ⟨_, _, absurd⟩ => absurd) (fun _ _ _ => trivial)

theorem wp_withdrawal {withdrawal : Withdrawal}
    : limitProtocol.wp (handle dep withdrawal.toRequest) withdrawal.start (fun _ _ => True)
        (fun _ _ => True) := by
  cases withdrawal with
  | burnAcbu request =>
      exact Protocol.wp_bind.mpr
        (Protocol.wp_mono wp_burnRefused (fun _ _ absurd => absurd.elim) (fun _ _ _ => trivial))
  | payBill request => exact wp_payChecked

end AcbuBackend.Bills

import AcbuBackend.Bulk.Accounting

/-! Completed transfers and the payments behind them.
Transfers are written by `createTransfer` and by bulk transfers, over the same table. A client may
also pay by itself, and name the hash of its payment in its request.
-/

namespace AcbuBackend.Bulk

open Effects Effects.Prog AcbuBackend.Runtime
open Mint (TxId TransactionStatus)
open Transfer (TransferOp TransferRow TransferUpdate TransferOrder CreateTransferParams
  CreateTransferOptions createTransfer transferInterface)

-- The two services

/-- The calls of the two services, and the payment of a client by itself. -/
inductive PaymentOp
  | transfer (op : TransferOp)
  | bulk (op : BulkOp)
  | payDirectly

abbrev PaymentOp.Ret : PaymentOp → Type
  | .transfer op => op.Ret
  | .bulk op => op.Ret
  | .payDirectly => String

abbrev paymentInterface : Interface where
  Op := PaymentOp
  Ret := PaymentOp.Ret
  Err := JsError

/-- The tables of the services, and the hashes of the payments that clients have made by themselves.
-/
structure Ledger where
  tables : World
  direct : List String := []

def Ledger.accepted (w : Ledger) (hash : String) : Bool :=
  hash ∈ w.direct || hash ∈ w.tables.transfers.payments.map Prod.snd

structure PaymentChoice where
  outcome : Outcome JsError := .done
  transfer : Transfer.Choice := {}
  bulk : Choice := {}
  hash : String := ""

def paymentEffect (x : PaymentChoice) (w : Ledger)
    : (op : PaymentOp) → Except JsError op.Ret × Ledger
  | .transfer op =>
      ((Transfer.effect x.transfer w.tables.transfers op).1,
        { w with
          tables :=
            { w.tables with transfers := (Transfer.effect x.transfer w.tables.transfers op).2 } })
  | .bulk op => ((effect x.bulk w.tables op).1, { w with tables := (effect x.bulk w.tables op).2 })
  | .payDirectly => (.ok x.hash, { w with direct := x.hash :: w.direct })

def paymentEnvironment : Environment paymentInterface Ledger PaymentChoice where
  outcome := PaymentChoice.outcome
  effect := paymentEffect
  admissible op x w :=
    match op with
    | .transfer op => Transfer.admissible op x.transfer w.tables.transfers
    | .bulk op => admissible op { x.bulk with outcome := x.outcome } w.tables
    | .payDirectly => true

def paymentSemantics : Semantics paymentInterface Ledger PaymentChoice :=
  paymentEnvironment.semantics

/-- A transfer, a bulk transfer, or a client that pays by itself. -/
inductive Request
  | transfer (dep : Transfer.Deployment) (params : CreateTransferParams)
    (options : CreateTransferOptions)
  | bulk (dep : Deployment) (params : ProcessBulkTransferParams)
    (options : ProcessBulkTransferOptions)
  | direct

def transferCalls : Inclusion transferInterface paymentInterface where
  op := .transfer
  value _ := id
  error := id
  throws := id

def bulkCalls : Inclusion bulkInterface paymentInterface where
  op := .bulk
  value _ := id
  error := id
  throws := id

def Request.prog : Request → Prog paymentInterface Unit
  | .transfer dep params options => do
      let _ ← (createTransfer dep params options).within transferCalls
      return ()
  | .bulk dep params options => do
      let _ ← (processBulkTransfer dep params options).within bulkCalls
      return ()
  | .direct => do
      let _ ← Prog.await (I := paymentInterface) .payDirectly
      return ()

abbrev PaymentConfig := Config paymentInterface Unit Ledger

-- What is claimed, and when

/-- Every completed transfer carries the hash of a payment that the network has accepted. -/
def Ledger.Paid (w : Ledger) : Prop :=
  ∀ id row, w.tables.transfers.transfers.lookup id = some row → row.status = .completed →
    ∃ hash, row.blockchainTxHash = some hash ∧ w.accepted hash = true

def Request.submitted : Request → Option String
  | .transfer _ _ options => options.submittedBlockchainTxHash.filter (fun hash => hash ≠ "")
  | _ => none

def submittedAt (requests : List Request) (i : Nat) : Option String :=
  (requests[i]?).bind Request.submitted

def keyTaken (w : Ledger) (data : TransferRow) : Bool :=
  data.idempotencyKey.isSome
    && w.tables.transfers.transfers.entries.any (fun e => e.2.idempotencyKey = data.idempotencyKey)

/-- Whether a call leaves the transfers paid for: a bulk transfer writes no row, and a transfer that
names a payment of its client is completed only when the network has accepted that payment.
-/
def paysFirst (submitted : Option String) (w : Ledger) (x : PaymentChoice) : PaymentOp → Bool
  | .bulk (.createTransaction _ data) => x.outcome.isFailed || keyTaken w data
  | .transfer (.updateTransaction ..) => submitted.all w.accepted
  | _ => true

/-- The steps that leave the transfers paid for. -/
def PaysFirst (requests : List Request) (c : PaymentConfig) (i : Nat) (x : PaymentChoice) : Prop :=
  (c.pending? i).all (paysFirst (submittedAt requests i) c.world x) = true

instance (requests : List Request) (c : PaymentConfig) (i : Nat) (x : PaymentChoice)
    : Decidable (PaysFirst requests c i x) :=
  inferInstanceAs (Decidable (_ = true))

-- What a transfer may write

/-- The hashes that a request may complete its row with: the one its client names, and that of its
payment.
-/
structure Hashes where
  submitted : Option String
  paid : Option String := none

/-- An update that completes a row writes one of the hashes. -/
def Hashes.Covers (hashes : Hashes) (data : TransferUpdate) : Prop :=
  data.status = .completed →
    ∃ hash, data.blockchainTxHash = some hash
      ∧ (hashes.submitted = some hash ∨ hashes.paid = some hash)

open Classical in
/-- A transfer creates no completed row, and completes one with a hash of its own. -/
noncomputable def transferProtocol : Protocol transferInterface Hashes where
  next hashes op :=
    match op with
    | .createTransaction data => fun _ => if data.status = .completed then none else some hashes
    | .updateTransaction _ data => fun _ => if hashes.Covers data then some hashes else none
    | .submitStellarPayment .. => fun reply =>
        match reply with
        | .ok hash => some { hashes with paid := some hash }
        | .error _ => some hashes
    | _ => fun _ => some hashes

/-- The calls that write no row and make no payment. -/
def silent : TransferOp → Bool
  | .createTransaction _ | .updateTransaction .. | .submitStellarPayment .. => false
  | _ => true

theorem transferProtocol_silent {op : TransferOp} {hashes : Hashes} (quiet : silent op = true)
    : transferProtocol.Ignores hashes op := by
  intro reply
  cases op with
  | createTransaction | updateTransaction | submitStellarPayment => exact (nomatch quiet)
  | _ => rfl

section

variable {hashes : Hashes} {order : TransferOrder} {options : CreateTransferOptions} {id : TxId}

theorem wp_silent {op : TransferOp} {Q : op.Ret → Hashes → Prop} {E : JsError → Hashes → Prop}
    (quiet : silent op = true) (value : ∀ reply, Q reply hashes) (error : ∀ e, E e hashes)
    : transferProtocol.wp (Transfer.issue op) hashes Q E :=
  Protocol.wp_await.mpr ⟨fun reply => ⟨hashes, transferProtocol_silent quiet _, value reply⟩,
    fun e => ⟨hashes, transferProtocol_silent quiet _, error e⟩⟩

theorem wp_checkTransfer {dep : Transfer.Deployment} {params : CreateTransferParams}
    {sender : Transfer.User}
    {amount : ℚ} {Q : TransferOrder → Hashes → Prop} (value : ∀ order, Q order hashes)
    : transferProtocol.wp (Transfer.checkTransfer dep params options sender amount) hashes Q
        (fun _ _ => True) := by
  unfold Transfer.checkTransfer Transfer.reserveWalletVersion
  refine Protocol.wp_bind.mpr (Protocol.wp_bind.mpr
    (Protocol.wp_orThrow.mpr ⟨fun version _ => ?_, fun _ => trivial⟩))
  refine Protocol.wp_bind.mpr (wp_silent rfl (fun count => ?_) fun _ => trivial)
  refine Protocol.wp_ensure.mpr ⟨fun _ => ?_, fun _ => trivial⟩
  refine Protocol.wp_bind.mpr (wp_silent rfl (fun reported => ?_) fun _ => trivial)
  refine Protocol.wp_bind.mpr (Protocol.wp_ensure.mpr ⟨fun _ => ?_, fun _ => trivial⟩)
  refine Protocol.wp_bind.mpr (wp_silent rfl (fun resolved => ?_) fun _ => trivial)
  refine Protocol.wp_bind.mpr (Protocol.wp_orThrow.mpr
    ⟨fun recipientAddress _ => ?_, fun _ => trivial⟩)
  refine Protocol.wp_bind.mpr (Protocol.wp_ensure.mpr ⟨fun _ => ?_, fun _ => trivial⟩)
  exact Protocol.wp_bind.mpr (Protocol.wp_ensure.mpr ⟨fun _ => value _, fun _ => trivial⟩)

theorem wp_findExisting {key : Option String} {userId : String}
    {Q : Option (TxId × TransactionStatus) → Hashes → Prop} (value : ∀ found, Q found hashes)
    : transferProtocol.wp (Transfer.findExisting key userId) hashes Q (fun _ _ => True) := by
  unfold Transfer.findExisting
  split
  · exact value none
  · exact wp_silent rfl value fun _ => trivial

theorem wp_update {data : TransferUpdate} {Q : Unit → Hashes → Prop} {E : JsError → Hashes → Prop}
    (covers : hashes.Covers data) (value : Q () hashes) (error : ∀ e, E e hashes)
    : transferProtocol.wp (Transfer.issue (.updateTransaction id data)) hashes Q E :=
  Protocol.wp_await.mpr ⟨fun _ => ⟨hashes, if_pos covers, value⟩,
    fun e => ⟨hashes, if_pos covers, error e⟩⟩

theorem next_createTransaction {data : TransferRow}
    {reply : transferInterface.Reply (.createTransaction data)}
    (incomplete : data.status ≠ .completed)
    : transferProtocol.next hashes (.createTransaction data) reply = some hashes :=
  if_neg incomplete

theorem wp_audit {action : String} {Q : Unit → Hashes → Prop} {E : JsError → Hashes → Prop}
    (value : Q () hashes)
    : transferProtocol.wp (swallow (Transfer.issue (.logAudit id action))) hashes Q E :=
  Protocol.wp_swallow.mpr (wp_silent rfl (fun _ => value) fun _ => value)

theorem wp_createOrFind {Q : TxId ⊕ (TxId × TransactionStatus) → Hashes → Prop}
    (value : ∀ created, Q created hashes)
    : transferProtocol.wp (Transfer.createOrFind order) hashes Q (fun _ _ => True) := by
  have incomplete : order.pendingRow.status ≠ .completed := fun absurd => nomatch absurd
  refine Protocol.wp_catchWith.mpr (Protocol.wp_bind.mpr (Protocol.wp_await.mpr ⟨?_, ?_⟩))
  · exact fun created => ⟨hashes, next_createTransaction incomplete, value _⟩
  · intro error
    refine ⟨hashes, next_createTransaction incomplete, ?_⟩
    split
    · refine Protocol.wp_bind.mpr (wp_silent rfl (fun found => ?_) fun _ => trivial)
      cases found with
      | none => trivial
      | some found => exact value _
    · trivial

theorem wp_submitTransfer {secretKey : String}
    : transferProtocol.wp (Transfer.submitTransfer order id secretKey) hashes (fun _ _ => True)
        (fun _ _ => True) := by
  have recover : ∀ err hashes, transferProtocol.wp
      (do
        Transfer.issue (.updateTransaction id { status := .failed })
        swallow (Transfer.issue (.logAudit id "transfer_failed"))
        if Transfer.isFeeSurge err then fail err else return TransactionStatus.failed)
      hashes (fun _ _ => True) (fun _ _ => True) := by
    intro err hashes
    refine Protocol.wp_bind.mpr (wp_update (fun completed => nomatch completed) ?_ fun _ => trivial)
    refine Protocol.wp_bind.mpr (wp_audit ?_)
    split <;> trivial
  refine Protocol.wp_catchWith.mpr (Protocol.wp_bind.mpr (Protocol.wp_await.mpr ⟨?_, ?_⟩))
  · intro hash
    refine ⟨_, rfl, ?_⟩
    refine Protocol.wp_bind.mpr (wp_update (fun _ => ⟨hash, rfl, .inr rfl⟩) ?_
      fun err => recover err _)
    exact Protocol.wp_bind.mpr (wp_audit trivial)
  · exact fun err => ⟨_, rfl, recover err _⟩

theorem wp_settleTransfer
    (names : hashes.submitted = options.submittedBlockchainTxHash.filter (fun hash => hash ≠ ""))
    : transferProtocol.wp (Transfer.settleTransfer options order id) hashes (fun _ _ => True)
        (fun _ _ => True) := by
  unfold Transfer.settleTransfer
  split
  · rename_i hash named
    refine Protocol.wp_bind.mpr (wp_update (fun _ => ⟨hash, rfl, .inl (names.trans named)⟩) ?_
      fun _ => trivial)
    exact Protocol.wp_bind.mpr (wp_audit trivial)
  · split
    · refine Protocol.wp_bind.mpr (wp_silent rfl (fun secretKey => ?_) fun _ => trivial)
      dsimp only
      split
      · exact wp_submitTransfer
      · trivial
    · trivial

theorem wp_createTransfer {dep : Transfer.Deployment} {params : CreateTransferParams}
    (names : hashes.submitted = options.submittedBlockchainTxHash.filter (fun hash => hash ≠ ""))
    : transferProtocol.wp (createTransfer dep params options) hashes (fun _ _ => True)
        (fun _ _ => True) := by
  unfold createTransfer
  refine Protocol.wp_bind.mpr (Protocol.wp_orThrow.mpr ⟨fun amount _ => ?_, fun _ => trivial⟩)
  refine Protocol.wp_bind.mpr (wp_silent rfl (fun found => ?_) fun _ => trivial)
  refine Protocol.wp_bind.mpr (Protocol.wp_orThrow.mpr ⟨fun sender _ => ?_, fun _ => trivial⟩)
  refine Protocol.wp_bind.mpr (Protocol.wp_ensure.mpr ⟨fun _ => ?_, fun _ => trivial⟩)
  refine Protocol.wp_bind.mpr (wp_findExisting fun existing => ?_)
  cases existing with
  | some existing => trivial
  | none =>
      refine Protocol.wp_bind.mpr (wp_checkTransfer fun order => ?_)
      refine Protocol.wp_bind.mpr (wp_createOrFind fun created => ?_)
      cases created with
      | inr existing => trivial
      | inl id =>
          refine Protocol.wp_bind.mpr (wp_audit ?_)
          exact Protocol.wp_bind.mpr (Protocol.wp_mono (wp_settleTransfer names)
            (fun _ _ _ => trivial)
            fun _ _ _ => trivial)

end

-- Both services

/-- The calls of bulk transfers and direct payments are not restricted. -/
noncomputable def paymentProtocol : Protocol paymentInterface Hashes where
  next hashes op :=
    match op with
    | .transfer op => fun reply => transferProtocol.next hashes op reply
    | .bulk _ | .payDirectly => fun _ => some hashes

def startHashes (requests : List Request) (i : Nat) : Hashes where
  submitted := submittedAt requests i

theorem wp_request {request : Request} {hashes : Hashes}
    (names : hashes.submitted = request.submitted)
    : paymentProtocol.wp request.prog hashes (fun _ _ => True) (fun _ _ => True) := by
  cases request with
  | transfer dep params options =>
      refine Protocol.wp_bind.mpr (Protocol.wp_mono
        (Protocol.wp_within (R := paymentProtocol) (· = ·) ?_
        (wp_createTransfer names) rfl) (fun _ _ _ => trivial) fun _ _ _ => trivial)
      rintro hashes hashes' _ op (error | value) rfl moved
      · exact ⟨hashes', moved, rfl⟩
      · exact ⟨hashes', moved, rfl⟩
  | bulk dep params options =>
      exact Protocol.wp_bind.mpr (Protocol.wp_mono (Protocol.wp_within_of_ignored fun _ _ => rfl)
        (fun _ _ _ => trivial) fun _ _ _ => trivial)
  | direct =>
      exact Protocol.wp_bind.mpr (Protocol.wp_await.mpr ⟨fun _ => ⟨hashes, rfl, trivial⟩,
        fun _ => ⟨hashes, rfl, trivial⟩⟩)

-- One call

section

variable {i : Nat} {op : PaymentOp} {x : PaymentChoice} {w w' : Ledger}
    {reply : paymentInterface.Reply op}
  {hashes hashes' : Hashes} {hash : String}

theorem accepted_of_act (acted : paymentSemantics.act i op x w = some (reply, w'))
    (accepted : w.accepted hash = true)
    : w'.accepted hash = true := by
  rcases Outcome.answer_world (Environment.act_eq_some acted).2 with rfl | left
  · exact accepted
  · rw [left]
    unfold Ledger.accepted at accepted ⊢
    cases op with
    | transfer op =>
        have kept : hash ∈ w.tables.transfers.payments.map Prod.snd →
            hash ∈ (Transfer.effect x.transfer w.tables.transfers op).2.payments.map Prod.snd := by
          intro member
          cases op with
          | createTransaction data =>
              change hash ∈ (w.tables.transfers.create x.transfer.freshId data).2.payments.map
                Prod.snd
              unfold Transfer.World.create
              split <;> exact member
          | updateTransaction id data =>
              change hash ∈ (w.tables.transfers.update id data).2.payments.map Prod.snd
              unfold Transfer.World.update
              split <;> exact member
          | submitStellarPayment => exact List.mem_cons_of_mem _ member
          | _ => exact member
        rw [Bool.or_eq_true, decide_eq_true_eq, decide_eq_true_eq] at accepted ⊢
        exact accepted.imp_right kept
    | bulk op =>
        have kept : (effect x.bulk w.tables op).2.transfers.payments
            = w.tables.transfers.payments := by
          cases op with
          | updateJob id data =>
              change (w.tables.updateJob id data).2.transfers.payments = _
              unfold World.updateJob
              split <;> rfl
          | createTransaction organizationId data =>
              change (w.tables.createTransaction x.bulk.freshId organizationId
                data).2.transfers.payments = _
              unfold World.createTransaction Transfer.World.create
              split
              · rfl
              · rename_i created
                split at created
                · cases created
                · obtain ⟨-, rfl⟩ := Prod.mk.inj created
                  rfl
          | _ => rfl
        change (decide (hash ∈ w.direct)
          || decide (hash ∈ (effect x.bulk w.tables op).2.transfers.payments.map Prod.snd)) = true
        rw [kept]
        exact accepted
    | payDirectly =>
        rw [Bool.or_eq_true, decide_eq_true_eq, decide_eq_true_eq] at accepted ⊢
        exact accepted.imp_left (List.mem_cons_of_mem _)

theorem hashes_of_act (moved : paymentProtocol.next hashes op reply = some hashes')
    (acted : paymentSemantics.act i op x w = some (reply, w'))
    : hashes'.submitted = hashes.submitted
      ∧ (hashes'.paid = hashes.paid ∨ ∃ hash, hashes'.paid = some hash
      ∧ w'.accepted hash = true) := by
  cases op with
  | bulk | payDirectly =>
      obtain rfl := Option.some.inj moved
      exact ⟨rfl, .inl rfl⟩
  | transfer op =>
      cases op with
      | createTransaction data =>
          obtain ⟨-, same⟩ := Option.ite_none_left_eq_some.mp moved
          obtain rfl := Option.some.inj same
          exact ⟨rfl, .inl rfl⟩
      | updateTransaction id data =>
          obtain ⟨-, same⟩ := Option.ite_none_right_eq_some.mp moved
          obtain rfl := Option.some.inj same
          exact ⟨rfl, .inl rfl⟩
      | submitStellarPayment secretKey recipient amount id =>
          cases reply with
          | error e =>
              obtain rfl := Option.some.inj moved
              exact ⟨rfl, .inl rfl⟩
          | ok hash =>
              obtain rfl := Option.some.inj moved
              refine ⟨rfl, .inr ⟨hash, rfl, ?_⟩⟩
              obtain ⟨same, left⟩ := Prod.mk.inj (Outcome.answer_ok
                (Environment.act_eq_some acted).2).2
              obtain rfl := Except.ok.inj same
              rw [← left]
              unfold Ledger.accepted
              rw [Bool.or_eq_true, decide_eq_true_eq, decide_eq_true_eq]
              exact .inr List.mem_cons_self
      | _ =>
          obtain rfl := Option.some.inj moved
          exact ⟨rfl, .inl rfl⟩

abbrev Ledger.row? (w : Ledger) (id : TxId) : Option TransferRow :=
  w.tables.transfers.transfers.lookup id

theorem paid_of_rows (paid : w.Paid) (kept : ∀ hash,
    w.accepted hash = true → w'.accepted hash = true)
    (rows : ∀ id row, w'.row? id = some row → row.status = .completed →
      w.row? id = some row ∨ ∃ hash, row.blockchainTxHash = some hash ∧ w'.accepted hash = true)
    : w'.Paid := by
  intro id row found completed
  rcases rows id row found completed with old | written
  · obtain ⟨hash, carries, accepted⟩ := paid id row old completed
    exact ⟨hash, carries, kept hash accepted⟩
  · exact written

theorem row_of_create {transfers : Transfer.World} {freshId id : TxId} {data row : TransferRow}
    (incomplete : data.status ≠ .completed)
    (found : (transfers.create freshId data).2.transfers.lookup id = some row)
    (completed : row.status = .completed)
    : transfers.transfers.lookup id = some row := by
  unfold Transfer.World.create at found
  split at found
  · exact found
  · by_cases same : id = freshId
    · subst same
      obtain rfl := Option.some.inj ((AList.lookup_insert _).symm.trans found)
      exact absurd completed incomplete
    · exact (AList.lookup_insert_ne same).symm.trans found

theorem row_of_update {transfers : Transfer.World} {updated id : TxId} {data : TransferUpdate}
    {row : TransferRow}
    (found : (transfers.update updated data).2.transfers.lookup id = some row)
    (completed : row.status = .completed)
    : transfers.transfers.lookup id = some row
      ∨ data.status = .completed ∧ ∀ hash,
        data.blockchainTxHash = some hash → row.blockchainTxHash = some hash := by
  unfold Transfer.World.update at found
  split at found
  · exact .inl found
  · by_cases same : id = updated
    · subst same
      obtain rfl := Option.some.inj ((AList.lookup_insert _).symm.trans found)
      refine .inr ⟨completed, fun hash carries => ?_⟩
      rw [TransferRow.apply, carries]
      rfl
    · exact .inl ((AList.lookup_insert_ne same).symm.trans found)

theorem rows_of_bulk {op : BulkOp} (first : paysFirst hashes.submitted w x (.bulk op) = true)
    (took : x.outcome.isFailed = false)
    : (effect x.bulk w.tables op).2.transfers.transfers = w.tables.transfers.transfers := by
  cases op with
  | updateJob id data =>
      change (w.tables.updateJob id data).2.transfers.transfers = _
      unfold World.updateJob
      split <;> rfl
  | createTransaction organizationId data =>
      have taken : keyTaken w data = true := by
        have first : (x.outcome.isFailed || keyTaken w data) = true := first
        rw [took] at first
        exact first
      rw [keyTaken, Bool.and_eq_true] at taken
      change (w.tables.createTransaction x.bulk.freshId organizationId
        data).2.transfers.transfers = _
      unfold World.createTransaction Transfer.World.create
      rw [if_pos taken]
  | _ => rfl

theorem paid_of_act (moved : paymentProtocol.next hashes op reply = some hashes')
    (acted : paymentSemantics.act i op x w = some (reply, w'))
    (first : paysFirst hashes.submitted w x op = true)
    (told : ∀ hash, hashes.paid = some hash → w.accepted hash = true) (paid : w.Paid)
    : w'.Paid := by
  have kept : ∀ hash, w.accepted hash = true → w'.accepted hash = true :=
    fun hash => accepted_of_act acted
  refine paid_of_rows paid kept fun id row found completed => ?_
  rcases Outcome.answer_cases (Environment.act_eq_some acted).2 with ⟨-, rfl⟩ | ⟨took, left⟩
  · exact .inl found
  · cases op with
    | payDirectly =>
        rw [left] at found
        exact .inl found
    | bulk op =>
        rw [left] at found
        change (effect x.bulk w.tables op).2.transfers.transfers.lookup id = some row at found
        rw [rows_of_bulk first took] at found
        exact .inl found
    | transfer op =>
        rw [left] at found
        change (Transfer.effect x.transfer w.tables.transfers op).2.transfers.lookup id
          = some row at found
        cases op with
        | createTransaction data =>
            obtain ⟨incomplete, -⟩ := Option.ite_none_left_eq_some.mp moved
            exact .inl (row_of_create incomplete found completed)
        | updateTransaction updated data =>
            obtain ⟨covers, -⟩ := Option.ite_none_right_eq_some.mp moved
            refine (row_of_update found completed).imp_right ?_
            rintro ⟨completes, writes⟩
            obtain ⟨hash, carries, named | learnt⟩ := covers completes
            · have accepted : hashes.submitted.all w.accepted = true := first
              rw [named] at accepted
              exact ⟨hash, writes hash carries, kept hash accepted⟩
            · exact ⟨hash, writes hash carries, kept hash (told hash learnt)⟩
        | _ => exact .inl found

end

-- All runs

/-- Where no bulk transfer writes a row and clients name accepted payments, every completed transfer
carries the hash of a payment that the network has accepted.
-/
theorem completed_transfers_paid (requests : List Request) (w : Ledger) (start : w.Paid)
    (c : PaymentConfig)
    (reached : Config.Reaches paymentSemantics (PaysFirst requests)
      (Config.initial w (requests.map Request.prog)) c)
    : c.world.Paid := by
  have governed : paymentProtocol.Governs (startHashes requests) (fun _ _ _ => True)
    (fun _ _ _ => True)
      (Config.initial w (requests.map Request.prog)) := by
    refine Protocol.governs_initial fun i prog found => ?_
    rw [List.getElem?_map] at found
    obtain ⟨request, there, rfl⟩ := Option.map_eq_some_iff.mp found
    refine wp_request ?_
    rw [startHashes, submittedAt, there]
    rfl
  refine (governed.invariant
    (J := fun c => c.world.Paid ∧ ∀ i,
      (paymentProtocol.phase (startHashes requests) c i).submitted = submittedAt requests i
      ∧ ∀ hash, (paymentProtocol.phase (startHashes requests) c i).paid = some hash
        → c.world.accepted hash = true)
    ⟨start, fun i => ?_⟩ ?_ reached).2.1
  · rw [Protocol.phase_initial]
    exact ⟨rfl, fun hash absurd => nomatch absurd⟩
  · intro c c' i x governed ⟨paid, told⟩ first stepped
    obtain ⟨op, reply, live, pending, acted, moved, past, others, governed'⟩ :=
      governed.step_cases stepped
    rw [PaysFirst, pending, ← (told i).1] at first
    refine ⟨paid_of_act moved acted first (told i).2 paid, fun j => ?_⟩
    by_cases same : j = i
    · subst same
      obtain ⟨submitted, learnt⟩ := hashes_of_act moved acted
      refine ⟨submitted.trans (told j).1, fun hash knows => ?_⟩
      rcases learnt with kept | ⟨hash', new, accepted⟩
      · exact accepted_of_act acted ((told j).2 hash (kept.symm.trans knows))
      · obtain rfl := Option.some.inj (new.symm.trans knows)
        exact accepted
    · rw [(others j same).1]
      exact ⟨(told j).1, fun hash knows => accepted_of_act acted ((told j).2 hash knows)⟩

-- Sample runs

def emptyLedger : Ledger where
  tables := { transfers := { transfers := ∅ } }

/-- What is stored of a transfer, and whether the network has accepted a payment. -/
def readTransfer (id : TxId) (hash : String) (c : PaymentConfig)
    : Option (TransactionStatus × Option String) × Bool :=
  ((c.world.row? id).map (fun row => (row.status, row.blockchainTxHash)), c.world.accepted hash)

def clientHash : String :=
  "5d0d1f5b2a6c4e3f8790a1b2c3d4e5f60718293a4b5c6d7e8f90a1b2c3d4e5f6"

def namedPayment : List Request :=
  [.direct,
    .transfer
      { travelRule := { thresholdAcbu := 1000, enforce := true, mode := "strict" }
        toText := fun _ => "1000" }
      { senderUserId := "user-1", recipient := "@alice", amountAcbu := "5"
        idempotencyKey := some "key-1" }
      { submittedBlockchainTxHash := some clientHash, ifMatch := some "\"3\"" }]

def namedPaymentRun : List (Nat × PaymentChoice) :=
  [(0, { hash := clientHash }),
    (1, { transfer := { user := some { stellarAddress := none, kycStatus := "verified" } } }),
    (1, {}),
    (1, { transfer := { versionMatches := 1 } }),
    (1, { transfer := { balance := "8" } }),
    (1, { transfer := { recipientAddress := some "GBULKRECIPIENT" } }),
    (1, { transfer := { freshId := "tx-1" } }),
    (1, {}), (1, {}), (1, {})]

def bulkRowRun : List (Nat × PaymentChoice) :=
  [(0, { bulk := { freshJob := "job-1" } }), (0, {}), (0, {}),
    (0, { bulk := { user := some { stellarAddress := none, kycStatus := "" } } }),
    (0, { bulk := { freshId := "tx-1" } })]

theorem emptyLedger_paid : emptyLedger.Paid :=
  fun _ _ absurd _ => nomatch absurd

/-- A transfer that names an accepted payment is completed with its hash. -/
theorem completed_transfers_paid_named
    : ∃ c, Config.Reaches paymentSemantics (PaysFirst namedPayment)
          (Config.initial emptyLedger (namedPayment.map Request.prog)) c
        ∧ readTransfer "tx-1" clientHash c = (some (.completed, some clientHash), true)
        ∧ c.world.Paid := by
  have executed : ((Config.initial emptyLedger (namedPayment.map Request.prog)).run paymentSemantics
      (PaysFirst namedPayment) namedPaymentRun).map (readTransfer "tx-1" clientHash)
        = some (some (.completed, some clientHash), true) := by
    decide +kernel
  obtain ⟨c, reached, stored⟩ := Config.reaches_of_run executed
  exact ⟨c, reached, stored, completed_transfers_paid _ _ emptyLedger_paid _ reached⟩

/-- A bulk transfer completes a row for which nobody has paid. -/
theorem bulk_transfer_unpaid
    : ∃ c, Config.Reaches paymentSemantics Config.anyStep
          (Config.initial emptyLedger [Request.prog (.bulk repeatedFile oneRow {})]) c
        ∧ (c.world.row? "tx-1").map (fun row => (row.status, row.blockchainTxHash))
          = some (.completed, none)
        ∧ ¬ c.world.Paid := by
  have executed : ((Config.initial emptyLedger [Request.prog (.bulk repeatedFile oneRow {})]).run
      paymentSemantics Config.anyStep bulkRowRun).map (readTransfer "tx-1" "")
        = some (some (.completed, none), false) := by
    decide +kernel
  obtain ⟨c, reached, stored⟩ := Config.reaches_of_run executed
  have stored := (Prod.mk.inj stored).1
  refine ⟨c, reached, stored, fun paid => ?_⟩
  obtain ⟨row, found, same⟩ := Option.map_eq_some_iff.mp stored
  obtain ⟨completed, unpaid⟩ := Prod.mk.inj same
  obtain ⟨hash, carries, -⟩ := paid "tx-1" row found completed
  cases unpaid.symm.trans carries

end AcbuBackend.Bulk

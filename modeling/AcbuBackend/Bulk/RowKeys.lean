import AcbuBackend.Bulk.BulkTransfer
import AcbuBackend.Effects.Evaluation

/-! Rows of a bulk transfer with one idempotency key.
The fields of a row are joined by bars, which they may contain themselves. So the key of a row tells
the pieces between the bars, but not which field a piece belongs to.
-/

namespace AcbuBackend.Bulk

open Effects Effects.Prog AcbuBackend.Runtime
open Mint (TxId TransactionStatus)
open Transfer (TransferRow)

-- The text of a key

def BulkTransferRowInput.keyFields (row : BulkTransferRowInput) : List String :=
  [row.recipient, row.amount_acbu, row.reference.getD "", row.idempotency_key.getD ""]

def keyPreimage (organizationId : String) (row : BulkTransferRowInput) : String :=
  "|".intercalate (organizationId :: row.keyFields)

theorem rowKey_eq (sha256Hex : String → String) (organizationId : String)
    (row : BulkTransferRowInput)
    : rowKey sha256Hex organizationId row = sha256Hex (keyPreimage organizationId row) :=
  rfl

/-- The fields of a row, cut at every bar. -/
def BulkTransferRowInput.keyPieces (row : BulkTransferRowInput) : List (List Char) :=
  row.keyFields.flatMap (fun field => field.toList.splitOn '|')

theorem splitOn_intercalate_bar {fields : List String} (some_ : fields ≠ [])
    : ("|".intercalate fields).toList.splitOn '|'
      = fields.flatMap (fun field => field.toList.splitOn '|') := by
  rw [String.toList_intercalate]
  induction fields with
  | nil => exact absurd rfl some_
  | cons field rest ih =>
      cases rest with
      | nil => simp
      | cons next rest =>
          have later := ih (List.cons_ne_nil next rest)
          rw [List.map_cons, List.map_cons, List.intercalate_cons_cons, List.flatMap_cons, ← later]
          rw [List.append_assoc]
          exact @List.splitOn_append_cons_self Char _ _ '|' _ _

theorem keyPreimage_eq_iff {organizationId : String} {row other : BulkTransferRowInput}
    : keyPreimage organizationId row = keyPreimage organizationId other
      ↔ row.keyPieces = other.keyPieces := by
  have cut : ∀ row, (keyPreimage organizationId row).toList.splitOn '|'
      = organizationId.toList.splitOn '|' ++ row.keyPieces := by
    intro row
    rw [keyPreimage, splitOn_intercalate_bar (List.cons_ne_nil _ _), List.flatMap_cons]
    rfl
  constructor
  · intro same
    have pieces := congrArg (fun text : String => text.toList.splitOn '|') same
    rw [cut, cut] at pieces
    exact List.append_cancel_left pieces
  · intro same
    have pieces := (cut row).trans ((congrArg _ same).trans (cut other).symm)
    have joined := congrArg (['|'].intercalate ·) pieces
    rw [List.intercalate_splitOn, List.intercalate_splitOn] at joined
    exact String.toList_inj.mp joined

-- Skipped rows

/-- Every transfer that is there stays as it is. -/
def World.Extends (w w' : World) : Prop :=
  ∀ id row, w.transfers.transfers.lookup id = some row → w'.transfers.transfers.lookup id = some row

variable {w w' : World} {i rowIndex : Nat} {key : String} {id : TxId} {transfer : TransferRow}

theorem extends_of_act {op : BulkOp} {x : Choice} {reply : bulkInterface.Reply op}
    (answered : bulkSemantics.act i op x w = some (reply, w'))
    : w.Extends w' := by
  obtain ⟨possible, answered⟩ := Environment.act_eq_some answered
  rcases Outcome.answer_world answered with rfl | left
  · exact fun _ _ found => found
  · intro id row found
    rw [left]
    cases op with
    | createTransaction organizationId data =>
        have fresh : x.freshId ∉ w.transfers.transfers := of_decide_eq_true possible
        change (w.createTransaction x.freshId organizationId data).2.transfers.transfers.lookup id
          = some row
        unfold World.createTransaction Transfer.World.create
        split
        · rename_i created
          split at created
          · exact found
          · cases created
        · rename_i created
          split at created
          · cases created
          · obtain ⟨-, rfl⟩ := Prod.mk.inj created
            have other : id ≠ x.freshId := by
              rintro rfl
              exact fresh (AList.lookup_isSome.mp (by rw [found]; rfl))
            exact (AList.lookup_insert_ne other).trans found
    | updateJob jobId data =>
        change (w.updateJob jobId data).2.transfers.transfers.lookup id = some row
        unfold World.updateJob
        split <;> exact found
    | _ => exact found

theorem key_of_findByKey {transfers : Transfer.World} {status : TransactionStatus}
    (found : findByKey transfers key = some (id, status))
    (there : transfers.transfers.lookup id = some transfer)
    : transfer.idempotencyKey = some key := by
  obtain ⟨entry, first, same⟩ := Option.map_eq_some_iff.mp found
  obtain ⟨rfl, -⟩ := Prod.mk.inj same
  have stored : transfers.transfers.lookup entry.1 = some entry.2 :=
    AList.mem_lookup_iff.mpr (List.mem_of_find?_eq_some first)
  obtain rfl := Option.some.inj (there.symm.trans stored)
  simpa using List.find?_some first

/-- A skipped row names no transfer of the world whose key is another one. -/
def SkipsOwn (w : World) (key : String) (result : BulkTransferRowResult) : Prop :=
  result.status = .skipped → ∀ id transfer, result.transactionId = some id →
    w.transfers.transfers.lookup id = some transfer → transfer.idempotencyKey = some key

theorem wlp_findTransaction {Q : Option (TxId × TransactionStatus) → World → Prop}
    {E : JsError → World → Prop} {start : World} (extended : start.Extends w)
    (value : ∀ found, (∀ id status transfer, found = some (id, status) →
      start.transfers.transfers.lookup id = some transfer → transfer.idempotencyKey = some key) →
        Q found w)
    (error : ∀ e w', E e w')
    : bulkSemantics.wlp i (perform (.findTransaction key)) w Q E := by
  refine Semantics.wlp_await.mpr ⟨fun x found w' answered => ?_, fun _ e w' _ => error e w'⟩
  obtain ⟨-, answered⟩ := Environment.act_eq_some answered
  obtain ⟨same, left⟩ := Prod.mk.inj (Outcome.answer_ok answered).2
  obtain rfl : findByKey w.transfers key = found := Except.ok.inj same
  obtain rfl : w = w' := left
  exact value _ fun id status transfer found there =>
    key_of_findByKey found (extended id transfer there)

theorem wlp_recoverRow {start : World} (extended : start.Extends w) {error : JsError}
    : bulkSemantics.wlp i (recoverRow rowIndex key error) w
        (fun result _ => SkipsOwn start key result) (fun _ _ => True) := by
  refine Semantics.wlp_bind.mpr ?_
  have fails : bulkSemantics.wlp i (return failedRow rowIndex key error.message) w
      (fun result _ => SkipsOwn start key result) (fun _ _ => True) := by
    intro skipped
    cases skipped
  unfold findAfterRace
  split
  · refine wlp_findTransaction extended (fun found known => ?_) fun _ _ => trivial
    cases found with
    | none => exact fails
    | some existing =>
        intro _ id transfer named there
        obtain rfl : existing.1 = id := Option.some.inj named
        exact known existing.1 existing.2 transfer rfl there
  · exact fails

theorem wlp_payRow {organizationId senderUserId : String} {row : BulkTransferRowInput}
    : bulkSemantics.wlp i (payRow organizationId senderUserId row rowIndex key) w
        (fun result _ => SkipsOwn w key result) (fun _ w' => w.Extends w') := by
  have kept : bulkSemantics.wlp i (payRow organizationId senderUserId row rowIndex key) w
      (fun _ w' => w.Extends w') (fun _ w' => w.Extends w') :=
    Semantics.wlp_of_kept (fun _ _ _ found => found)
      (fun first second id row found => second id row (first id row found))
      fun _ _ _ _ _ answered => extends_of_act answered
  have unskipped : bulkSemantics.wlp i (payRow organizationId senderUserId row rowIndex key) w
      (fun result _ => result.status ≠ .skipped) (fun _ _ => True) := by
    refine Semantics.wlp_bind.mpr (Semantics.wlp_await.mpr
      ⟨fun _ sender _ _ => ?_, fun _ _ _ _ => trivial⟩)
    cases sender with
    | none => exact (by decide : RowStatus.failure ≠ .skipped)
    | some _ =>
        exact Semantics.wlp_bind.mpr (Semantics.wlp_await.mpr
          ⟨fun _ _ _ _ => (by decide : RowStatus.success ≠ .skipped), fun _ _ _ _ => trivial⟩)
  exact Semantics.wlp_mono (Semantics.wlp_and kept unskipped)
    (fun _ _ known skipped => absurd skipped known.2) fun _ _ known => known.1

theorem wlp_processRow {dep : Deployment} {organizationId : String} {senderUserId : Option String}
    {row : BulkTransferRowInput}
    : bulkSemantics.wlp i (processRow dep organizationId senderUserId row rowIndex) w
        (fun result _ => SkipsOwn w (rowKey dep.sha256Hex organizationId row) result)
        (fun _ _ => True) := by
  have unchanged : w.Extends w := fun _ _ found => found
  refine Semantics.wlp_bind.mpr (Semantics.wlp_orThrow.mpr ⟨fun sender _ => ?_, fun _ => trivial⟩)
  refine Semantics.wlp_bind.mpr (wlp_findTransaction unchanged (fun found known => ?_)
    fun _ _ => trivial)
  cases found with
  | some existing =>
      intro _ id transfer named there
      obtain rfl : existing.1 = id := Option.some.inj named
      exact known existing.1 existing.2 transfer rfl there
  | none =>
      exact Semantics.wlp_catchWith.mpr (Semantics.wlp_mono wlp_payRow (fun _ _ known => known)
        fun _ _ extended => wlp_recoverRow extended)

-- Rows that are kept apart

/-- The keys of two rows are digests of different texts, and the second is never skipped for a
transfer with the key of the first.
-/
structure KeptApart (dep : Deployment) (organizationId : String) (row other : BulkTransferRowInput)
    : Prop where
  preimages : keyPreimage organizationId row ≠ keyPreimage organizationId other
  unskipped : ∀ (i : Nat) (w w' : World) (id : TxId) (transfer : TransferRow)
    (senderUserId : Option String) (rowIndex : Nat) (result : BulkTransferRowResult),
    w.transfers.transfers.lookup id = some transfer →
    transfer.idempotencyKey = some (rowKey dep.sha256Hex organizationId row) →
    (processRow dep organizationId senderUserId other rowIndex).Evaluates bulkSemantics i w
      (.ok result) w' →
    result.status = .skipped → result.transactionId ≠ some id

/-- Where the digest has no collision on them, two rows are kept apart exactly when their fields are
cut into different pieces.
-/
theorem rows_kept_apart_iff (dep : Deployment) (organizationId : String)
    (row other : BulkTransferRowInput)
    (collisionFree : rowKey dep.sha256Hex organizationId row
      = rowKey dep.sha256Hex organizationId other →
        keyPreimage organizationId row = keyPreimage organizationId other)
    : KeptApart dep organizationId row other ↔ row.keyPieces ≠ other.keyPieces := by
  constructor
  · exact fun apart same => apart.preimages (keyPreimage_eq_iff.mpr same)
  · intro different
    have preimages : keyPreimage organizationId row ≠ keyPreimage organizationId other :=
      fun same => different (keyPreimage_eq_iff.mp same)
    refine ⟨preimages, ?_⟩
    intro i w w' id transfer senderUserId rowIndex result there keyed evaluates skipped named
    have own := Semantics.wlp_value wlp_processRow evaluates skipped id transfer named there
    exact preimages (collisionFree (Option.some.inj (keyed.symm.trans own)))

-- Two rows of one file

/-- The digests of the rows below. -/
def rentDigests (text : String) : String :=
  if text = "org-1|GALICE|10|rent|may|" then
    "b8126e28bc4750641302f9e8b593b734e0e6570d55e2f78df43bcae6954e9531"
  else if text = "org-1|GALICE|10|rent|" then
    "4c2d556c89ca291b39bf60d4a9647a4685c7ce9404782f4eb24bf63bfea13e09"
  else "e78057aa15b3f53f0c9ea1597d8b04bebc421f1b9af84b4faadf6852f93f37c9"

def rentDeployment : Deployment where
  sha256Hex := rentDigests
  chunkSize := ⟨25, by decide⟩
  maxFileSizeBytes := 1000
  maxRows := 10

def rentRow (amount_acbu reference idempotency_key : String) : BulkTransferRowInput where
  recipient := "GALICE"
  amount_acbu
  reference := some reference
  idempotency_key := some idempotency_key

/-- Rows without bars that differ in their amounts. -/
theorem rows_kept_apart_amounts
    : KeptApart rentDeployment "org-1" (rentRow "10" "rent" "") (rentRow "20" "rent" "") :=
  (rows_kept_apart_iff rentDeployment "org-1" (rentRow "10" "rent" "") (rentRow "20" "rent" "")
    fun same => absurd (rowKey_eq .. ▸ rowKey_eq .. ▸ same) (by decide +kernel)).mpr
      (by decide +kernel)

/-- Two payments to one recipient, with a bar that ends the first part of a reference, and one that
ends a key.
-/
def rentFile : ProcessBulkTransferParams where
  organizationId := "org-1"
  senderUserId := some "user-1"
  fileContent :=
    "to,amount_acbu,reference,idempotency_key\nGALICE,10,rent|may,\nGALICE,10,rent,may|"

def payingRent : List Choice :=
  [{ freshJob := "job-1", time := 1 }, {}, {},
    { user := some { stellarAddress := none, kycStatus := "" } }, { freshId := "tx-1" }, {}, {}, {},
    { time := 2 }, {}, { time := 3 }]

/-- The second payment of the file is skipped as a duplicate of the first. -/
theorem second_payment_skipped
    : ((parseCsvBuffer rentFile.fileContent).toOption.map (List.map safeParseRow)
        = some [.ok (rentRow "10" "rent|may" ""), .ok (rentRow "10" "rent" "may|")])
      ∧ (rentRow "10" "rent|may" "").keyFields ≠ (rentRow "10" "rent" "may|").keyFields
      ∧ keyPreimage "org-1" (rentRow "10" "rent|may" "")
        = keyPreimage "org-1" (rentRow "10" "rent" "may|")
      ∧ ((processBulkTransfer rentDeployment rentFile).evaluate bulkSemantics 0 payingRent
          { transfers := { transfers := ∅ } }).map (fun (result, w) =>
            (result.toOption.map (fun job => (job.successCount, job.skippedCount)),
              w.transfers.transfers.keys))
        = some (some (1, 1), ["tx-1"]) := by
  decide +kernel

end AcbuBackend.Bulk

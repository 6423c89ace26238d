import AcbuBackend.Salary.SalaryService

/-! The calls of one run of `processSalaryBatch`.
Its transfers name no wallet version, so each of them reads its sender at most and fails: no
transfer is created, no item is completed, and every item of a chunk is written failed by the
chunk's transaction.
-/

namespace AcbuBackend.Salary

open Effects AcbuBackend.Runtime
open Mint (TransactionStatus)
open Transfer (TransferOp createTransfer_unversioned)

/-- How far a call is: it has not read its batch or has thrown, it has turned the batch away,
it is about to set the batch to `processing`, it is in the loop, or it has written the final
status. `items` are the items it is to pay, and `owed` those with no transaction over them yet.
-/
inductive Stage
  | idle
  | skipped
  | claiming (id : BatchId) (items : List ItemId)
  | working (id : BatchId) (items owed : List ItemId)
  | finished (id : BatchId)

def Stage.afterRead (id : BatchId)
    : Except JsError (Option (SalaryBatch × List (ItemId × SalaryItem))) → Stage
  | .ok (some (batch, items)) =>
      if batch.status.processable then .claiming id ((unpaidItems items).map Prod.fst) else .skipped
  | .ok none => .skipped
  | .error _ => .idle

def stillOwed (owed : List ItemId) (writes : List (ItemId × SalaryItemUpdate)) : List ItemId :=
  owed.filter (fun item => item ∉ writes.map Prod.fst)

def Stage.orThrown (stage : Stage) : Except JsError Unit → Stage
  | .ok () => stage
  | .error _ => .idle

/-- The stage after a call, and `none` for a call that is not made. -/
def Stage.next : Stage → (op : SalaryOp) → salaryInterface.Reply op → Option Stage
  | .idle, .findBatch id, reply => some (.afterRead id reply)
  | .claiming id items, .updateBatch other status, reply =>
      if other = id ∧ status = .processing then some ((Stage.working id items items).orThrown reply)
      else none
  | .working id items owed, .turn, _ => some (.working id items owed)
  | .working id items owed, .transfer _ (.findUser _), _ => some (.working id items owed)
  | .working id items owed, .transaction writes, reply =>
      if writes.map Prod.fst ⊆ items then
        some ((Stage.working id items (stillOwed owed writes)).orThrown reply)
      else none
  | .working id _ owed, .updateBatch other status, reply =>
      if other = id ∧ owed = [] ∧ status ≠ .processing then some
        ((Stage.finished id).orThrown reply)
      else none
  | _, _, _ => none

def salaryProtocol : Protocol salaryInterface Stage where
  next := Stage.next

-- The loop

variable {dep : Deployment} {userId : String} {id : BatchId} {items owed : List ItemId}

theorem payItem_fails {entry : ItemId × SalaryItem} {p : SalaryOp → Prop}
    (reads : ∀ item user, p (.transfer item (.findUser user)))
    : (Protocol.only (I := salaryInterface) p).wp (payItemBy (serviceTransfer dep) userId entry) ()
        (fun _ _ => False) (fun _ _ => True) := by
  have calls : ∀ op : TransferOp, (∃ user, op = .findUser user) → p (.transfer entry.1 op) := by
    rintro _ ⟨user, rfl⟩
    exact reads entry.1 user
  refine Protocol.wp_bind.mpr (Protocol.wp_mono (Protocol.only_within calls
    (createTransfer_unversioned rfl rfl ?_)) (fun _ _ absurd => absurd.elim)
    (fun _ _ _ => trivial))
  exact ⟨userId, rfl⟩

theorem map_fst_failedItemWrites {chunk : List (ItemId × SalaryItem)}
    {results : List (Except JsError TransactionStatus)} (length : results.length = chunk.length)
    (failed : ∀ result ∈ results, ∃ reason, result = .error reason)
    : (failedItemWrites chunk results).map Prod.fst = chunk.map Prod.fst := by
  induction chunk generalizing results with
  | nil => rfl
  | cons entry chunk ih =>
      cases results with
      | nil => cases length
      | cons result results =>
          obtain ⟨⟨reason, rfl⟩, others⟩ := List.forall_mem_cons.mp failed
          have rest := ih (Nat.succ.inj length) others
          simp only [failedItemWrites, List.zip_cons_cons, List.filterMap_cons,
            List.map_cons] at rest ⊢
          rw [rest]

theorem wp_payItems {chunk : List (ItemId × SalaryItem)}
    : salaryProtocol.wp
        (Prog.allSettled itemScheduler (chunk.map (payItemBy (serviceTransfer dep) userId)))
        (.working id items owed)
        (fun results stage => (failedItemWrites chunk results).map Prod.fst = chunk.map Prod.fst
          ∧ stage = .working id items owed)
        (fun _ _ => False) := by
  have fails : ∀ task ∈ chunk.map (payItemBy (serviceTransfer dep) userId),
      (Protocol.only (salaryProtocol.Ignores (.working id items owed))).wp task ()
        (fun _ _ => False) (fun _ _ => True) := by
    intro task member
    obtain ⟨entry, -, rfl⟩ := List.mem_map.mp member
    exact payItem_fails fun _ _ _ => rfl
  have turn : salaryProtocol.Ignores (.working id items owed) itemScheduler.turn := fun _ => rfl
  apply Protocol.wp_mono (Protocol.wp_of_only (Protocol.only_allSettled turn fails))
  · rintro results stage ⟨⟨length, failed⟩, kept⟩
    refine ⟨map_fst_failedItemWrites (by simpa using length) fun result member => ?_, kept⟩
    have known := failed result member
    cases result with
    | ok _ => exact known.elim
    | error reason => exact ⟨reason, rfl⟩
  · exact fun _ _ known => known.1

theorem wp_commitWrites {writes : List (ItemId × SalaryItemUpdate)}
    (own : writes.map Prod.fst ⊆ items)
    : salaryProtocol.wp (commitWrites writes) (.working id items owed)
        (fun _ stage => stage = .working id items (stillOwed owed writes))
        (fun _ stage => stage = .idle) := by
  unfold commitWrites
  split
  · rename_i none
    simp [none, stillOwed]
  · exact Protocol.wp_await.mpr
      ⟨fun _ => ⟨_, if_pos own, rfl⟩, fun _ => ⟨_, if_pos own, rfl⟩⟩

theorem wp_processChunk {chunk : List (ItemId × SalaryItem)} {tally : Tally}
    (own : chunk.map Prod.fst ⊆ items)
    : salaryProtocol.wp (processChunkBy (serviceTransfer dep) userId chunk tally)
        (.working id items owed)
        (fun _ stage => ∃ left, stage = .working id items left
          ∧ left ⊆ owed ∧ ∀ item ∈ left, item ∉ chunk.map Prod.fst)
        (fun _ stage => stage = .idle) := by
  refine Protocol.wp_bind.mpr (Protocol.wp_mono wp_payItems ?_ (fun _ _ absurd => absurd.elim))
  rintro results _ ⟨written, rfl⟩
  rw [← written] at own ⊢
  refine Protocol.wp_bind.mpr (Protocol.wp_mono (wp_commitWrites own) ?_ (fun _ _ known => known))
  rintro _ _ rfl
  exact ⟨_, rfl, List.filter_subset_self _, by simp [stillOwed]⟩

theorem wp_processChunks {chunks : List (List (ItemId × SalaryItem))} {tally : Tally}
    (own : chunks.flatten.map Prod.fst ⊆ items) (covered : owed ⊆ chunks.flatten.map Prod.fst)
    : salaryProtocol.wp (processChunksBy (serviceTransfer dep) userId chunks tally)
        (.working id items owed)
        (fun _ stage => stage = .working id items []) (fun _ stage => stage = .idle) := by
  induction chunks generalizing tally owed with
  | nil =>
      rw [List.subset_nil.mp covered]
      exact rfl
  | cons chunk chunks ih =>
      rw [List.flatten_cons, List.map_append] at own covered
      obtain ⟨ownHead, ownRest⟩ := List.append_subset.mp own
      refine Protocol.wp_bind.mpr
        (Protocol.wp_mono (wp_processChunk ownHead) ?_ (fun _ _ known => known))
      rintro tally _ ⟨left, rfl, still, unpaid⟩
      refine ih ownRest fun item member => ?_
      exact (List.mem_append.mp (covered (still member))).resolve_left (unpaid item member)

-- Calls

/-- A call that has answered has turned its batch away, or has written its final status. -/
def Stage.settled : Stage → Prop
  | .skipped | .finished _ => True
  | _ => False

theorem wp_processSalaryBatch
    : salaryProtocol.wp (processSalaryBatch dep id) .idle (fun _ stage => stage.settled)
        (fun _ stage => stage = .idle) := by
  refine Protocol.wp_bind.mpr (Protocol.wp_await.mpr
    ⟨fun found => ⟨_, rfl, ?_⟩, fun _ => ⟨_, rfl, rfl⟩⟩)
  rcases found with _ | ⟨batch, entries⟩
  · trivial
  · simp only [Stage.afterRead]
    by_cases processable : batch.status.processable = true
    · rw [if_pos processable, if_pos processable]
      refine Protocol.wp_bind.mpr (Protocol.wp_await.mpr
        ⟨fun _ => ⟨_, if_pos ⟨rfl, rfl⟩, ?_⟩, fun _ => ⟨_, if_pos ⟨rfl, rfl⟩, rfl⟩⟩)
      have sliced : (slices BATCH_CONCURRENCY (unpaidItems entries).length
          (unpaidItems entries)).flatten = unpaidItems entries :=
        flatten_slices (by decide) le_rfl
      refine Protocol.wp_bind.mpr (Protocol.wp_mono (wp_processChunks ?_ ?_) ?_
        (fun _ _ known => known))
      · rw [sliced]
        exact List.Subset.refl _
      · rw [sliced]
        exact List.Subset.refl _
      · rintro tally _ rfl
        have final : finalStatus tally entries.length ≠ .processing := by
          unfold finalStatus
          split
          · simp
          · split <;> simp
        exact Protocol.wp_await.mpr
          ⟨fun _ => ⟨_, if_pos ⟨rfl, rfl, final⟩, trivial⟩,
            fun _ => ⟨_, if_pos ⟨rfl, rfl, final⟩, rfl⟩⟩
    · rw [if_neg processable, if_neg processable]
      trivial

theorem wp_retryWithBackoff {attempts : Nat} {lastError : JsError}
    : salaryProtocol.wp (retryWithBackoff (processSalaryBatch dep id) attempts lastError) .idle
        (fun _ stage => stage.settled) (fun _ stage => stage = .idle) :=
  @wp_retry _ _ _ _ _ _ (fun _ => Stage.idle) _ _ fun _ => wp_processSalaryBatch

-- Runs

/-- A call of `processSalaryBatch`, alone or with the retries of a new batch. -/
inductive SalaryRequest
  | process (batchId : BatchId)
  | background (batchId : BatchId)

def serve (dep : Deployment) : SalaryRequest → Prog salaryInterface Unit
  | .process batchId => processSalaryBatch dep batchId
  | .background batchId => processInBackground dep batchId

abbrev SalaryConfig := Config salaryInterface Unit World

def initialConfig (dep : Deployment) (requests : List SalaryRequest) (world : World)
    : SalaryConfig :=
  Config.initial world (requests.map (serve dep))

/-- The stage request `i` is in. -/
abbrev stageOf (c : SalaryConfig) (i : Nat) : Stage :=
  salaryProtocol.phase (fun _ => .idle) c i

/-- A request that has ended. -/
def Stage.over (stage : Stage) : Prop :=
  stage.settled ∨ stage = .idle

/-- Every request keeps to the protocol. -/
abbrev Keeps (c : SalaryConfig) : Prop :=
  salaryProtocol.Governs (fun _ => .idle) (fun _ _ stage => stage.over)
    (fun _ _ stage => stage.over) c

theorem keeps_initialConfig {requests : List SalaryRequest} {world : World}
    : Keeps (initialConfig dep requests world) := by
  apply Protocol.governs_initial
  intro i prog found
  obtain ⟨request, -, rfl⟩ := List.mem_map.mp (List.mem_of_getElem? found)
  cases request with
  | process batchId =>
      exact Protocol.wp_mono wp_processSalaryBatch (fun _ _ known => .inl known)
        (fun _ _ known => .inr known)
  | background batchId =>
      exact Protocol.wp_swallow.mpr (Protocol.wp_mono wp_retryWithBackoff
        (fun _ _ known => .inl known) (fun _ _ known => .inr known))

/-- What a call does to the stage of its request. -/
inductive StageMove : Stage → Event salaryInterface → Stage → Prop
  | read (id : BatchId) (reply : salaryInterface.Reply (.findBatch id))
      : StageMove .idle ⟨.findBatch id, reply⟩ (.afterRead id reply)
  | claimed (id : BatchId) (items : List ItemId) (reply : Except JsError Unit)
      : StageMove (.claiming id items) ⟨.updateBatch id .processing, reply⟩
          ((Stage.working id items items).orThrown reply)
  | turned (id : BatchId) (items owed : List ItemId) (reply : salaryInterface.Reply .turn)
      : StageMove (.working id items owed) ⟨.turn, reply⟩ (.working id items owed)
  | refused (id : BatchId) (items owed : List ItemId) (item : ItemId) (user : String)
      (reply : salaryInterface.Reply (.transfer item (.findUser user)))
      : StageMove (.working id items owed) ⟨.transfer item (.findUser user), reply⟩
          (.working id items owed)
  | committed (id : BatchId) (items owed : List ItemId) (writes : List (ItemId × SalaryItemUpdate))
      (own : writes.map Prod.fst ⊆ items) (reply : Except JsError Unit)
      : StageMove (.working id items owed) ⟨.transaction writes, reply⟩
          ((Stage.working id items (stillOwed owed writes)).orThrown reply)
  | closed (id : BatchId) (items : List ItemId) (status : BatchStatus)
      (final : status ≠ .processing) (reply : Except JsError Unit)
      : StageMove (.working id items []) ⟨.updateBatch id status, reply⟩
          ((Stage.finished id).orThrown reply)

theorem StageMove.of_next {stage stage' : Stage} {op : SalaryOp} {reply : salaryInterface.Reply op}
    (h : stage.next op reply = some stage')
    : StageMove stage ⟨op, reply⟩ stage' := by
  unfold Stage.next at h
  split at h
  · obtain rfl := Option.some.inj h
    exact .read _ _
  · split at h
    · rename_i own
      obtain ⟨rfl, rfl⟩ := own
      obtain rfl := Option.some.inj h
      exact .claimed _ _ _
    · cases h
  · obtain rfl := Option.some.inj h
    exact .turned _ _ _ _
  · obtain rfl := Option.some.inj h
    exact .refused _ _ _ _ _ _
  · split at h
    · rename_i own
      obtain rfl := Option.some.inj h
      exact .committed _ _ _ _ own _
    · cases h
  · split at h
    · rename_i own
      obtain ⟨rfl, rfl, final⟩ := own
      obtain rfl := Option.some.inj h
      exact .closed _ _ _ final _
    · cases h
  · cases h

end AcbuBackend.Salary

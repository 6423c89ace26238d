import AcbuBackend.Effects.RelyGuarantee
import AcbuBackend.Salary.SalaryService

/-! The final status of a salary batch, against the statuses of its items.
A transfer may end in any way, and any write may fail. Each item is written by its own task and by
the transaction of its chunk only, so the counters of the loop count what the items say.
-/

namespace AcbuBackend.Salary

open Effects Effects.Prog AcbuBackend.Runtime
open Mint (TxId TransactionStatus)
open Transfer (createTransfer CreateTransferResult)

-- One task

def World.itemStatus (w : World) (id : ItemId) : Option TransactionStatus :=
  (w.items.lookup id).map (·.status)

def World.itemBatch (w : World) (id : ItemId) : Option BatchId :=
  (w.items.lookup id).map (·.batchId)

/-- The item is as it was. -/
def Untouched (id : ItemId) (w w' : World) : Prop :=
  w'.items.lookup id = w.items.lookup id

/-- At most the item has another status; it stays an item of its batch, and the batches are as they
were.
-/
structure TouchesOnly (id : ItemId) (w w' : World) : Prop where
  others : ∀ other, other ≠ id → Untouched other w w'
  kept : w'.itemBatch id = w.itemBatch id
  batches : w'.batches = w.batches

theorem TouchesOnly.refl (id : ItemId) (w : World) : TouchesOnly id w w :=
  ⟨fun _ _ => rfl, rfl, rfl⟩

theorem untouched_rely (id : ItemId) : Semantics.Rely (Untouched id) :=
  ⟨fun _ => rfl, fun first second => Eq.trans second first⟩

variable {i : Nat} {w w' : World} {x : Choice} {id : ItemId}

theorem transfer_act {op : SalaryOp} {reply : salaryInterface.Reply op}
    (isTransfer : IsTransferCall op)
    (answered : salarySemantics.act i op x w = some (reply, w'))
    : w'.items = w.items ∧ w'.batches = w.batches := by
  obtain ⟨item, call, rfl⟩ := isTransfer
  obtain ⟨-, answered⟩ := Environment.act_eq_some answered
  rcases Outcome.answer_world answered with rfl | left
  · exact ⟨rfl, rfl⟩
  · rw [left]
    exact ⟨rfl, rfl⟩

theorem updateItem_act {data : SalaryItemUpdate}
    {reply : salaryInterface.Reply (.updateItem id data)}
    (answered : salarySemantics.act i (.updateItem id data) x w = some (reply, w'))
    : TouchesOnly id w w'
      ∧ (reply = .ok () → w'.itemStatus id = some data.status) := by
  obtain ⟨-, answered⟩ := Environment.act_eq_some answered
  have effect_eq : effect x w (.updateItem id data) = w.updateItem id data := rfl
  have touched : TouchesOnly id w (w.updateItem id data).2 := by
    unfold World.updateItem
    cases found : w.items.lookup id with
    | none => exact .refl id w
    | some item =>
        refine ⟨fun other different => AList.lookup_insert_ne different, ?_, rfl⟩
        unfold World.itemBatch
        rw [AList.lookup_insert, found]
        rfl
  constructor
  · rcases Outcome.answer_world answered with rfl | left
    · exact .refl id w'
    · rw [left]
      exact touched
  · rintro rfl
    obtain ⟨-, done⟩ := Outcome.answer_ok answered
    have done : w.updateItem id data = (.ok (), w') := done
    unfold World.updateItem at done
    split at done
    · cases done
    · obtain ⟨-, rfl⟩ := Prod.mk.inj done
      unfold World.itemStatus
      rw [AList.lookup_insert]
      rfl

theorem guarantees_payItemBy {transfer : ItemTransfer} {userId : String}
    {entry : ItemId × SalaryItem}
    : salarySemantics.guarantees i (Untouched entry.1) (TouchesOnly entry.1)
        (payItemBy transfer userId entry) w
        (fun status w' => w'.itemStatus entry.1 = some status) (fun _ _ => True) := by
  have rely := untouched_rely entry.1
  refine Semantics.guarantees_bind rely ?_
  refine (Semantics.guarantees_of_only (J := fun _ => True) (fun _ _ _ _ => trivial) ?_
    (transfer.transfers userId entry) trivial).mono ?_ fun _ _ _ => trivial
  · intro op x w reply w' isTransfer _ answered
    obtain ⟨items, batches⟩ := transfer_act isTransfer answered
    refine ⟨⟨fun other _ => ?_, ?_, batches⟩, trivial⟩
    · rw [Untouched, items]
    · rw [World.itemBatch, items]
      rfl
  · intro result w' _
    refine Semantics.guarantees_bind rely (Semantics.guarantees_await ?_)
    intro w₁ _ x reply w₂ answered
    obtain ⟨touched, written⟩ := updateItem_act answered
    refine ⟨touched, ?_⟩
    cases reply with
    | error error => exact fun _ _ => trivial
    | ok value =>
        intro w₃ changed w₄ later
        have same : Untouched entry.1 w₂ w₄ := rely.trans changed later
        have status := written rfl
        unfold World.itemStatus at status ⊢
        rw [same]
        exact status

-- One chunk

/-- Only these items have changed, none has left its batch, and the batches are as they were. -/
structure Spares (ids : List ItemId) (w w' : World) : Prop where
  others : ∀ id, id ∉ ids → Untouched id w w'
  kept : ∀ id, w'.itemBatch id = w.itemBatch id
  batches : w'.batches = w.batches

theorem spares_rely (ids : List ItemId) : Semantics.Rely (Spares ids) :=
  ⟨fun _ => ⟨fun _ _ => rfl, fun _ => rfl, rfl⟩, fun first second =>
    ⟨fun id other => (second.others id other).trans (first.others id other),
      fun id => (second.kept id).trans (first.kept id), second.batches.trans first.batches⟩⟩

theorem Spares.mono {ids more : List ItemId} (h : Spares ids w w') (subset : ids ⊆ more)
    : Spares more w w' :=
  ⟨fun id other => h.others id fun member => other (subset member), h.kept, h.batches⟩

theorem TouchesOnly.spares {ids : List ItemId} (h : TouchesOnly id w w') (member : id ∈ ids)
    : Spares ids w w' := by
  refine ⟨fun other absent => h.others other fun same => absent (same ▸ member), fun other => ?_,
    h.batches⟩
  by_cases same : other = id
  · rw [same]
    exact h.kept
  · rw [World.itemBatch, h.others other same]
    rfl

theorem updateItems_failed {start : World} {writes : List (ItemId × SalaryItemUpdate)}
    (failed : ∀ write ∈ writes, write.2.status = .failed)
    (done : start.updateItems w writes = (.ok (), w'))
    : Spares (writes.map Prod.fst) w w'
      ∧ ∀ id ∈ writes.map Prod.fst, w'.itemStatus id = some .failed := by
  induction writes generalizing w with
  | nil =>
      obtain ⟨-, rfl⟩ := Prod.mk.inj done
      exact ⟨(spares_rely _).refl w, by simp⟩
  | cons write writes ih =>
      obtain ⟨first, others⟩ := List.forall_mem_cons.mp failed
      have step : salarySemantics.act 0 (.updateItem write.1 write.2) {} w
          = some (w.updateItem write.1 write.2) := rfl
      rcases effect_eq : w.updateItem write.1 write.2 with ⟨answer, middle⟩
      rw [World.updateItems, effect_eq] at done
      rw [effect_eq] at step
      cases answer with
      | error error => cases (Prod.mk.inj done).1
      | ok value =>
          obtain ⟨touched, written⟩ := updateItem_act step
          obtain ⟨spared, rest⟩ := ih others done
          have before := touched.spares (List.mem_cons_self (l := writes.map Prod.fst))
          refine ⟨(spares_rely _).trans before (spared.mono (List.subset_cons_self _ _)), ?_⟩
          rw [List.map_cons, List.forall_mem_cons]
          refine ⟨?_, rest⟩
          by_cases again : write.1 ∈ writes.map Prod.fst
          · exact rest write.1 again
          · have status := written rfl
            unfold World.itemStatus at status ⊢
            rw [spared.others write.1 again, status, first]

/-- The status an item is left with by its task and the transaction of its chunk. -/
def settledStatus : Except JsError TransactionStatus → TransactionStatus
  | .ok status => status
  | .error _ => .failed

theorem mem_failedItemWrites {chunk : List (ItemId × SalaryItem)}
    {results : List (Except JsError TransactionStatus)} {write : ItemId × SalaryItemUpdate}
    (member : write ∈ failedItemWrites chunk results)
    : write.2.status = .failed ∧ ∃ entry error, (entry, .error error) ∈ chunk.zip results
        ∧ entry.1 = write.1 := by
  obtain ⟨⟨entry, result⟩, there, same⟩ := List.mem_filterMap.mp member
  cases result with
  | ok _ => cases same
  | error error =>
      obtain rfl := Option.some.inj same
      exact ⟨rfl, entry, error, there, rfl⟩

theorem failedItemWrites_mem {chunk : List (ItemId × SalaryItem)}
    {results : List (Except JsError TransactionStatus)} {entry : ItemId × SalaryItem}
    {error : JsError} (there : (entry, .error error) ∈ chunk.zip results)
    : entry.1 ∈ (failedItemWrites chunk results).map Prod.fst :=
  List.mem_map.mpr ⟨_, List.mem_filterMap.mpr ⟨_, there, rfl⟩, rfl⟩

theorem wlp_commitWrites {writes : List (ItemId × SalaryItemUpdate)}
    (failed : ∀ write ∈ writes, write.2.status = .failed)
    : salarySemantics.wlp i (commitWrites writes) w
        (fun _ w' => Spares (writes.map Prod.fst) w w'
          ∧ ∀ id ∈ writes.map Prod.fst, w'.itemStatus id = some .failed)
        (fun _ _ => True) := by
  unfold commitWrites
  split
  · rename_i none
    rw [none]
    exact ⟨(spares_rely _).refl w, by simp⟩
  · refine Semantics.wlp_await.mpr ⟨fun x value w' answered => ?_, fun _ _ _ _ => trivial⟩
    obtain ⟨-, answered⟩ := Environment.act_eq_some answered
    exact updateItems_failed failed (Outcome.answer_ok answered).2

theorem settled_of_commit {chunk : List (ItemId × SalaryItem)}
    {results : List (Except JsError TransactionStatus)} (distinct : (chunk.map Prod.fst).Nodup)
    (known : List.Forall₂ (fun entry result =>
      Semantics.settledIn (I := salaryInterface)
        (fun status (w : World) => w.itemStatus entry.1 = some status) (fun _ _ => True) w result)
      chunk results)
    (spared : Spares ((failedItemWrites chunk results).map Prod.fst) w w')
    (failed : ∀ id ∈ (failedItemWrites chunk results).map Prod.fst, w'.itemStatus id = some .failed)
    : List.Forall₂ (fun entry result => w'.itemStatus entry.1 = some (settledStatus result)) chunk
        results := by
  obtain ⟨length, known⟩ := List.forall₂_iff_zip.mp known
  have zipped : (chunk.zip results).map (fun pair => pair.1.1) = chunk.map Prod.fst := by
    rw [← @List.map_fst_zip _ _ chunk results length.le, List.map_map,
      List.map_fst_zip length.le]
    rfl
  refine List.forall₂_iff_zip.mpr ⟨length, fun {entry result} there => ?_⟩
  cases result with
  | error error => exact failed entry.1 (failedItemWrites_mem there)
  | ok status =>
      have stored : w.itemStatus entry.1 = some status := known there
      have absent : entry.1 ∉ (failedItemWrites chunk results).map Prod.fst := by
        intro member
        obtain ⟨write, written, same⟩ := List.mem_map.mp member
        obtain ⟨-, other, error, thrown, ids⟩ := mem_failedItemWrites written
        have pairs := List.inj_on_of_nodup_map (zipped ▸ distinct) thrown there (ids.trans same)
        cases pairs
      unfold World.itemStatus at stored ⊢
      rw [spared.others entry.1 absent]
      exact stored

def World.completedOf (w : World) (entries : List (ItemId × SalaryItem)) : Nat :=
  entries.countP (fun entry => w.itemStatus entry.1 = some .completed)

def World.unpaidOf (w : World) (entries : List (ItemId × SalaryItem)) : Nat :=
  entries.countP (fun entry => w.itemStatus entry.1 ≠ some .completed)

section

variable {entry : ItemId × SalaryItem} {entries : List (ItemId × SalaryItem)}
    {status : TransactionStatus}

theorem World.completedOf_cons (stored : w.itemStatus entry.1 = some status)
    : w.completedOf (entry :: entries)
      = w.completedOf entries + if status = .completed then 1 else 0 := by
  unfold World.completedOf
  rw [List.countP_cons, stored]
  simp only [Option.some.injEq, decide_eq_true_eq]

theorem World.unpaidOf_cons (stored : w.itemStatus entry.1 = some status)
    : w.unpaidOf (entry :: entries)
      = w.unpaidOf entries + if status = .completed then 0 else 1 := by
  unfold World.unpaidOf
  rw [List.countP_cons, stored]
  by_cases done : status = .completed
  · rw [if_pos done, done]
    rfl
  · have other : some status ≠ some TransactionStatus.completed :=
      fun same => done (Option.some.inj same)
    rw [if_neg done, if_pos (decide_eq_true other)]

end

/-- The counters have grown by what the items of a part say. -/
structure Counted (w : World) (entries : List (ItemId × SalaryItem)) (tally tally' : Tally)
    : Prop where
  success : tally'.successCount = tally.successCount + w.completedOf entries
  fail : tally'.failCount = tally.failCount + w.unpaidOf entries

theorem counted_foldl {chunk : List (ItemId × SalaryItem)}
    {results : List (Except JsError TransactionStatus)} {tally : Tally}
    (settled : List.Forall₂ (fun entry result =>
      w.itemStatus entry.1 = some (settledStatus result)) chunk results)
    : Counted w chunk tally (results.foldl Tally.add tally) := by
  induction settled generalizing tally with
  | nil => exact ⟨rfl, rfl⟩
  | @cons entry result chunk results stored _ ih =>
      obtain ⟨success, fail⟩ := @ih (tally.add result)
      have counted : (tally.add result).successCount
            = tally.successCount + (if settledStatus result = .completed then 1 else 0)
          ∧ (tally.add result).failCount
            = tally.failCount + (if settledStatus result = .completed then 0 else 1) := by
        rcases result with error | status
        · exact ⟨rfl, rfl⟩
        · cases status <;> exact ⟨rfl, rfl⟩
      constructor
      · rw [List.foldl_cons, success, counted.1, World.completedOf_cons stored]
        omega
      · rw [List.foldl_cons, fail, counted.2, World.unpaidOf_cons stored]
        omega

theorem wlp_processChunkBy {transfer : ItemTransfer} {userId : String}
    {chunk : List (ItemId × SalaryItem)} {tally : Tally} (distinct : (chunk.map Prod.fst).Nodup)
    : salarySemantics.wlp i (processChunkBy transfer userId chunk tally) w
        (fun tally' w' => Spares (chunk.map Prod.fst) w w' ∧ Counted w' chunk tally tally')
        (fun _ _ => True) := by
  have apart : chunk.Pairwise (fun e f =>
      (∀ w w', TouchesOnly e.1 w w' → Untouched f.1 w w')
        ∧ ∀ w w', TouchesOnly f.1 w w' → Untouched e.1 w w') := by
    refine (List.pairwise_map.mp distinct).imp fun {e f} different => ⟨fun w w' touched => ?_,
      fun w w' touched => touched.others e.1 different⟩
    exact touched.others f.1 (Ne.symm different)
  have turn : ∀ x (w : World) reply w',
      salarySemantics.act i itemScheduler.turn x w = some (reply, w') → w' = w := by
    intro x w reply w' answered
    obtain ⟨-, answered⟩ := Environment.act_eq_some answered
    exact (Outcome.answer_world answered).elim id id
  have together : Semantics.Rely (fun w w' => ∀ e ∈ chunk, Untouched e.1 w w') :=
    ⟨fun _ _ _ => rfl, fun first second e member => (second e member).trans (first e member)⟩
  have tasks := Semantics.guarantees_allSettled (w := w) (fun e => untouched_rely e.1) apart turn
    fun e _ => @guarantees_payItemBy i w transfer userId e
  have settled := tasks.wlp together (spares_rely (chunk.map Prod.fst)) (by
    rintro w w' (rfl | ⟨e, member, touched⟩)
    · exact (spares_rely _).refl w'
    · exact touched.spares (List.mem_map_of_mem member))
  refine Semantics.wlp_bind.mpr (Semantics.wlp_mono settled ?_ fun _ _ absurd => absurd.1.elim)
  rintro results middle ⟨known, spared⟩
  refine Semantics.wlp_bind.mpr (Semantics.wlp_mono (wlp_commitWrites fun write member =>
    (mem_failedItemWrites member).1) ?_ fun _ _ _ => trivial)
  rintro _ last ⟨written, failed⟩
  have own : (failedItemWrites chunk results).map Prod.fst ⊆ chunk.map Prod.fst := by
    intro id member
    obtain ⟨write, there, rfl⟩ := List.mem_map.mp member
    obtain ⟨-, entry, error, thrown, same⟩ := mem_failedItemWrites there
    exact List.mem_map.mpr ⟨entry, (List.of_mem_zip thrown).1, same⟩
  exact ⟨(spares_rely _).trans spared (written.mono own),
    counted_foldl (settled_of_commit distinct known written failed)⟩

-- The loop

section

variable {entries more : List (ItemId × SalaryItem)} {tally tally' last : Tally}

theorem Counted.stable (counted : Counted w entries tally tally')
    (untouched : ∀ entry ∈ entries, Untouched entry.1 w w')
    : Counted w' entries tally tally' := by
  have status : ∀ entry ∈ entries, w'.itemStatus entry.1 = w.itemStatus entry.1 :=
    fun entry member => congrArg (Option.map _) (untouched entry member)
  constructor
  · rw [counted.success]
    exact congrArg _ (List.countP_congr fun entry member => by rw [status entry member])
  · rw [counted.fail]
    exact congrArg _ (List.countP_congr fun entry member => by rw [status entry member])

theorem Counted.append (first : Counted w entries tally tally') (rest : Counted w more tally' last)
    : Counted w (entries ++ more) tally last := by
  constructor
  · rw [rest.success, first.success, World.completedOf, World.completedOf, World.completedOf,
      List.countP_append, Nat.add_assoc]
  · rw [rest.fail, first.fail, World.unpaidOf, World.unpaidOf, World.unpaidOf,
      List.countP_append, Nat.add_assoc]

end

theorem wlp_processChunksBy {transfer : ItemTransfer} {userId : String}
    {chunks : List (List (ItemId × SalaryItem))} {tally : Tally}
    (distinct : (chunks.flatten.map Prod.fst).Nodup)
    : salarySemantics.wlp i (processChunksBy transfer userId chunks tally) w
        (fun tally' w' =>
          Spares (chunks.flatten.map Prod.fst) w w' ∧ Counted w' chunks.flatten tally tally')
        (fun _ _ => True) := by
  induction chunks generalizing tally w with
  | nil => exact ⟨(spares_rely _).refl w, rfl, rfl⟩
  | cons chunk chunks ih =>
      rw [List.flatten_cons, List.map_append] at distinct ⊢
      obtain ⟨own, others, apart⟩ := List.nodup_append.mp distinct
      refine Semantics.wlp_bind.mpr
        (Semantics.wlp_mono (wlp_processChunkBy own) ?_ fun _ _ _ => trivial)
      rintro tally' middle ⟨spared, counted⟩
      refine Semantics.wlp_mono (ih others) ?_ fun _ _ _ => trivial
      rintro last w' ⟨later, rest⟩
      refine ⟨(spares_rely _).trans (spared.mono (List.subset_append_left _ _))
        (later.mono (List.subset_append_right _ _)), Counted.append ?_ rest⟩
      exact counted.stable fun entry member => later.others entry.1 fun again =>
        apart entry.1 (List.mem_map_of_mem member) entry.1 again rfl

-- The items of a batch

section

variable {batchId : BatchId} {item : SalaryItem} {items : List (ItemId × SalaryItem)}

theorem mem_itemsOf
    : (id, item) ∈ w.itemsOf batchId
      ↔ w.items.lookup id = some item ∧ item.batchId = batchId := by
  unfold World.itemsOf
  constructor
  · intro member
    obtain ⟨⟨key, value⟩, there, same⟩ := List.mem_map.mp member
    obtain ⟨rfl, rfl⟩ := Prod.mk.inj same
    obtain ⟨stored, own⟩ := List.mem_filter.mp there
    exact ⟨AList.mem_lookup_iff.mpr stored, of_decide_eq_true own⟩
  · rintro ⟨stored, own⟩
    exact List.mem_map.mpr ⟨⟨id, item⟩,
      List.mem_filter.mpr ⟨AList.mem_lookup_iff.mp stored, decide_eq_true own⟩, rfl⟩

theorem mem_itemsOf_ids
    : id ∈ (w.itemsOf batchId).map Prod.fst ↔ w.itemBatch id = some batchId := by
  unfold World.itemBatch
  constructor
  · intro member
    obtain ⟨⟨key, item⟩, there, rfl⟩ := List.mem_map.mp member
    obtain ⟨stored, rfl⟩ := mem_itemsOf.mp there
    rw [stored]
    rfl
  · intro owned
    obtain ⟨item, stored, own⟩ := Option.map_eq_some_iff.mp owned
    exact List.mem_map.mpr ⟨(id, item), mem_itemsOf.mpr ⟨stored, own⟩, rfl⟩

theorem itemsOf_nodup : ((w.itemsOf batchId).map Prod.fst).Nodup := by
  have ids : (w.itemsOf batchId).map Prod.fst
      = (w.items.entries.filter (fun e => e.2.batchId = batchId)).keys := by
    unfold World.itemsOf List.keys
    rw [List.map_map]
    rfl
  rw [ids]
  exact (List.filter_sublist.map Sigma.fst).nodup w.items.nodupKeys

theorem forall_itemsOf {p : TransactionStatus → Prop}
    (same : ∀ id, id ∈ items.map Prod.fst ↔ w.itemBatch id = some batchId)
    : (∀ entry ∈ w.itemsOf batchId, p entry.2.status)
      ↔ ∀ entry ∈ items, ∃ status, w.itemStatus entry.1 = some status ∧ p status := by
  constructor
  · intro all entry member
    have owned := (same entry.1).mp (List.mem_map_of_mem member)
    obtain ⟨item, stored, own⟩ := Option.map_eq_some_iff.mp owned
    refine ⟨item.status, ?_, all (entry.1, item) (mem_itemsOf.mpr ⟨stored, own⟩)⟩
    rw [World.itemStatus, stored]
    rfl
  · rintro all ⟨id, item⟩ member
    obtain ⟨stored, own⟩ := mem_itemsOf.mp member
    have listed := (same id).mpr (mem_itemsOf_ids.mp (List.mem_map_of_mem member))
    obtain ⟨entry, there, rfl⟩ := List.mem_map.mp listed
    obtain ⟨status, known, holds⟩ := all entry there
    rw [World.itemStatus, stored] at known
    obtain rfl := Option.some.inj known
    exact holds

end

/-- The status of a batch says what its items do. -/
structure Agrees (status : BatchStatus) (items : List (ItemId × SalaryItem)) : Prop where
  completed : status = .completed ↔ ∀ entry ∈ items, entry.2.status = .completed
  partially_completed : status = .partially_completed
    ↔ (∃ entry ∈ items, entry.2.status = .completed) ∧ ∃ entry ∈ items, entry.2.status ≠ .completed
  failed : status = .failed ↔ ∀ entry ∈ items, entry.2.status ≠ .completed

theorem finalStatus_of_counters {tally : Tally} {itemCount : Nat}
    (total : itemCount = tally.successCount + tally.failCount) (nonempty : itemCount ≠ 0)
    : (finalStatus tally itemCount = .completed ↔ tally.failCount = 0)
      ∧ (finalStatus tally itemCount = .partially_completed
        ↔ tally.successCount ≠ 0 ∧ tally.failCount ≠ 0)
      ∧ (finalStatus tally itemCount = .failed ↔ tally.successCount = 0) := by
  unfold finalStatus
  by_cases fail : tally.failCount = 0
  · have success : tally.successCount ≠ 0 := by omega
    rw [if_pos ⟨fail, by omega⟩]
    simp [fail, success]
  · rw [if_neg fun both => fail both.1]
    by_cases success : tally.successCount = 0
    · rw [if_neg (by omega)]
      simp [fail, success]
    · rw [if_pos (by omega)]
      simp [fail, success]

theorem agrees_of_counted {batchId : BatchId} {items : List (ItemId × SalaryItem)} {tally : Tally}
    (nonempty : items ≠ []) (same : ∀ id, id ∈ items.map Prod.fst ↔ w.itemBatch id = some batchId)
    (counted : Counted w items ⟨0, 0⟩ tally)
    : Agrees (finalStatus tally items.length) (w.itemsOf batchId) := by
  have success : tally.successCount = w.completedOf items :=
    counted.success.trans (Nat.zero_add _)
  have fail : tally.failCount = w.unpaidOf items := counted.fail.trans (Nat.zero_add _)
  have total : items.length = tally.successCount + tally.failCount := by
    rw [success, fail]
    have parts := List.length_eq_countP_add_countP (l := items)
      (fun entry => decide (w.itemStatus entry.1 = some .completed))
    simp only [decide_eq_true_eq] at parts
    exact parts
  have stored : ∀ entry ∈ items, ∃ status, w.itemStatus entry.1 = some status := by
    intro entry member
    have owned := (same entry.1).mp (List.mem_map_of_mem member)
    obtain ⟨item, found, -⟩ := Option.map_eq_some_iff.mp owned
    exact ⟨item.status, congrArg (Option.map _) found⟩
  have all : (∀ entry ∈ w.itemsOf batchId, entry.2.status = .completed) ↔ tally.failCount = 0 := by
    rw [forall_itemsOf (p := fun status => status = .completed) same, fail, World.unpaidOf,
      List.countP_eq_zero]
    refine forall₂_congr fun entry member => ?_
    obtain ⟨status, known⟩ := stored entry member
    simp [known]
  have none : (∀ entry ∈ w.itemsOf batchId, entry.2.status ≠ .completed)
      ↔ tally.successCount = 0 := by
    rw [forall_itemsOf (p := fun status => status ≠ .completed) same, success, World.completedOf,
      List.countP_eq_zero]
    refine forall₂_congr fun entry member => ?_
    obtain ⟨status, known⟩ := stored entry member
    simp [known]
  have anyCompleted : (∃ entry ∈ w.itemsOf batchId, entry.2.status = .completed)
      ↔ tally.successCount ≠ 0 := by
    rw [ne_eq, ← none]
    push Not
    rfl
  have anyOther : (∃ entry ∈ w.itemsOf batchId, entry.2.status ≠ .completed)
      ↔ tally.failCount ≠ 0 := by
    rw [ne_eq, ← all]
    push Not
    rfl
  obtain ⟨completed, partly, failed⟩ :=
    finalStatus_of_counters total (List.length_pos_iff.mpr nonempty).ne'
  exact ⟨completed.trans all.symm, partly.trans (and_congr anyCompleted anyOther).symm,
    failed.trans none.symm⟩

-- One call

section

variable {batchId : BatchId}

theorem wlp_findBatch
    : salarySemantics.wlp i (issue (.findBatch batchId)) w
        (fun found w' => found = w.findBatch batchId ∧ w' = w) (fun _ _ => True) := by
  refine Semantics.wlp_await.mpr ⟨fun x found w' answered => ?_, fun _ _ _ _ => trivial⟩
  obtain ⟨-, answered⟩ := Environment.act_eq_some answered
  obtain ⟨read, left⟩ := Prod.mk.inj (Outcome.answer_ok answered).2
  exact ⟨(Except.ok.inj read).symm, left.symm⟩

theorem wlp_updateBatch {status : BatchStatus}
    : salarySemantics.wlp i (issue (.updateBatch batchId status)) w
        (fun _ w' => w'.items = w.items
          ∧ (w'.batches.lookup batchId).map (·.status) = some status) (fun _ _ => True) := by
  refine Semantics.wlp_await.mpr ⟨fun x value w' answered => ?_, fun _ _ _ _ => trivial⟩
  obtain ⟨-, answered⟩ := Environment.act_eq_some answered
  have done : w.updateBatch batchId status = (.ok value, w') := (Outcome.answer_ok answered).2
  unfold World.updateBatch at done
  split at done
  · cases done
  · obtain ⟨-, rfl⟩ := Prod.mk.inj done
    refine ⟨rfl, ?_⟩
    rw [AList.lookup_insert]
    rfl

theorem counted_of_pending {items : List (ItemId × SalaryItem)} {tally : Tally}
    (distinct : (items.map Prod.fst).Nodup)
    (read : ∀ entry ∈ items, w.itemStatus entry.1 = some entry.2.status)
    (spared : Spares ((unpaidItems items).map Prod.fst) w w')
    (counted : Counted w' (unpaidItems items)
      ⟨(items.filter (fun entry => entry.2.status = .completed)).length, 0⟩ tally)
    : Counted w' items ⟨0, 0⟩ tally := by
  have paid : ∀ entry ∈ items.filter (fun entry => entry.2.status = .completed),
      w'.itemStatus entry.1 = some .completed := by
    intro entry member
    obtain ⟨listed, done⟩ := List.mem_filter.mp member
    have apart : entry.1 ∉ (unpaidItems items).map Prod.fst := by
      intro again
      obtain ⟨other, unpaid, same⟩ := List.mem_map.mp again
      obtain ⟨there, owed⟩ := List.mem_filter.mp unpaid
      obtain rfl := List.inj_on_of_nodup_map distinct there listed same
      exact of_decide_eq_true owed (of_decide_eq_true done)
    rw [World.itemStatus, spared.others entry.1 apart]
    exact (read entry listed).trans (congrArg some (of_decide_eq_true done))
  have others : items.filter (fun entry => !decide (entry.2.status = .completed))
      = unpaidItems items :=
    List.filter_congr fun _ _ => decide_not.symm
  have completed : w'.completedOf (items.filter (fun entry => entry.2.status = .completed))
      = (items.filter (fun entry => entry.2.status = .completed)).length :=
    List.countP_eq_length.mpr fun entry member => decide_eq_true (paid entry member)
  have none : w'.unpaidOf (items.filter (fun entry => entry.2.status = .completed)) = 0 :=
    List.countP_eq_zero.mpr fun entry member => by simp [paid entry member]
  have split := fun p : ItemId × SalaryItem → Bool =>
    List.countP_eq_countP_filter_add items p (fun entry => entry.2.status = .completed)
  rw [others] at split
  constructor
  · rw [counted.success, ← completed, Nat.zero_add]
    exact (split _).symm
  · refine counted.fail.trans ?_
    rw [Nat.zero_add, Nat.zero_add, ← Nat.zero_add (w'.unpaidOf _), ← none]
    exact (split _).symm

theorem wlp_processSalaryBatchBy {transfer : ItemTransfer} {batch : SalaryBatch}
    {items : List (ItemId × SalaryItem)} (found : w.findBatch batchId = some (batch, items))
    (processable : batch.status.processable = true) (nonempty : items ≠ [])
    : salarySemantics.wlp i (processSalaryBatchBy transfer batchId) w
        (fun _ w' => ∃ batch' items', w'.findBatch batchId = some (batch', items')
          ∧ (∀ id, id ∈ items'.map Prod.fst ↔ id ∈ items.map Prod.fst)
          ∧ Agrees batch'.status items')
        (fun _ _ => True) := by
  obtain ⟨stored, lookup, same⟩ := Option.map_eq_some_iff.mp found
  obtain ⟨rfl, rfl⟩ := Prod.mk.inj same
  refine Semantics.wlp_bind.mpr (Semantics.wlp_mono wlp_findBatch ?_ fun _ _ _ => trivial)
  rintro _ w ⟨rfl, rfl⟩
  rw [found]
  dsimp only
  rw [if_pos processable]
  refine Semantics.wlp_bind.mpr (Semantics.wlp_mono wlp_updateBatch ?_ fun _ _ _ => trivial)
  rintro _ started ⟨read, -⟩
  have sliced : (slices BATCH_CONCURRENCY (unpaidItems (w.itemsOf batchId)).length
      (unpaidItems (w.itemsOf batchId))).flatten = unpaidItems (w.itemsOf batchId) :=
    flatten_slices (by decide) le_rfl
  refine Semantics.wlp_bind.mpr
    (Semantics.wlp_mono (wlp_processChunksBy ?_) ?_ fun _ _ _ => trivial)
  · rw [sliced]
    exact (List.filter_sublist.map Prod.fst).nodup itemsOf_nodup
  rw [sliced]
  rintro tally paid ⟨spared, counted⟩
  refine Semantics.wlp_mono wlp_updateBatch ?_ fun _ _ _ => trivial
  rintro _ last ⟨kept, status⟩
  obtain ⟨batch', written, final⟩ := Option.map_eq_some_iff.mp status
  have owners : ∀ id, last.itemBatch id = w.itemBatch id := by
    intro id
    calc last.itemBatch id
      _ = paid.itemBatch id := by rw [World.itemBatch, World.itemBatch, kept]
      _ = started.itemBatch id := spared.kept id
      _ = w.itemBatch id := by rw [World.itemBatch, World.itemBatch, read]
  have same : ∀ id, id ∈ (w.itemsOf batchId).map Prod.fst ↔ last.itemBatch id = some batchId :=
    fun id => mem_itemsOf_ids.trans (by rw [owners])
  have all : Counted paid (w.itemsOf batchId) ⟨0, 0⟩ tally := by
    refine counted_of_pending itemsOf_nodup ?_ spared counted
    rintro ⟨id, item⟩ member
    rw [World.itemStatus, read, (mem_itemsOf.mp member).1]
    rfl
  have counts : Counted last (w.itemsOf batchId) ⟨0, 0⟩ tally :=
    all.stable fun entry _ => by rw [Untouched, kept]
  refine ⟨batch', last.itemsOf batchId, congrArg (Option.map _) written,
    fun id => mem_itemsOf_ids.trans (same id).symm, ?_⟩
  rw [final]
  exact agrees_of_counted nonempty same counts

/-- When a call that got past the guard returns, whatever its transfers and its writes have ended
with, the status of the batch says what the statuses of its items say.
-/
theorem processSalaryBatch_outcome {transfer : ItemTransfer} {batch : SalaryBatch}
    {items : List (ItemId × SalaryItem)} (found : w.findBatch batchId = some (batch, items))
    (processable : batch.status.processable = true) (nonempty : items ≠ [])
    (returned : (processSalaryBatchBy transfer batchId).Evaluates salarySemantics i w (.ok ()) w')
    : ∃ batch' items', w'.findBatch batchId = some (batch', items')
      ∧ (∀ id, id ∈ items'.map Prod.fst ↔ id ∈ items.map Prod.fst)
      ∧ Agrees batch'.status items' :=
  Semantics.wlp_value (wlp_processSalaryBatchBy found processable nonempty) returned

end

def sampleTransfer : ItemTransfer where
  run _ entry :=
    if entry.1 = "i1" then Prog.done { transactionId := "t1", status := .completed }
    else Prog.fail (.error "Insufficient balance")
  transfers _ entry := by
    by_cases paid : entry.1 = "i1"
    · rw [if_pos paid]
      trivial
    · rw [if_neg paid]
      trivial

/-- A batch with an item that an earlier call has failed to pay. -/
def retriedWorld : World where
  batches := (∅ : AList (fun _ : BatchId => SalaryBatch)).insert "b1"
    { userId := "u1", status := .failed }
  items := ((∅ : AList (fun _ : ItemId => SalaryItem)).insert "i1"
    { batchId := "b1", recipientAddress := "G2", amount := 5, status := .failed }).insert "i2"
    { batchId := "b1", recipientAddress := "G3", amount := 5, status := .pending }
  transfers := { transfers := ∅ }

/-- One of two items is paid, and the batch is partially completed. -/
theorem processSalaryBatch_outcome_retried
    : ∃ batch, (Prog.after salarySemantics 0 (List.replicate 5 {})
          (processSalaryBatchBy sampleTransfer "b1") retriedWorld).batches.lookup "b1" = some batch
        ∧ batch.status = .partially_completed
        ∧ ∃ batch' items', (Prog.after salarySemantics 0 (List.replicate 5 {})
            (processSalaryBatchBy sampleTransfer "b1") retriedWorld).findBatch "b1"
              = some (batch', items')
          ∧ (∀ id, id ∈ items'.map Prod.fst ↔ id ∈ (retriedWorld.itemsOf "b1").map Prod.fst)
          ∧ Agrees batch'.status items' := by
  refine ⟨{ userId := "u1", status := .partially_completed }, by decide +kernel, rfl, ?_⟩
  have returned : (processSalaryBatchBy sampleTransfer "b1").Evaluates salarySemantics 0
      retriedWorld (.ok ()) (Prog.after salarySemantics 0 (List.replicate 5 {})
        (processSalaryBatchBy sampleTransfer "b1") retriedWorld) :=
    Prog.evaluates_after (by decide +kernel)
  have found : retriedWorld.findBatch "b1"
      = some ({ userId := "u1", status := .failed }, retriedWorld.itemsOf "b1") := by
    decide +kernel
  exact processSalaryBatch_outcome found rfl (by decide +kernel) returned

end AcbuBackend.Salary

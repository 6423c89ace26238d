import AcbuBackend.Salary.BatchProtocol

/-! The transfers that the calls of `processSalaryBatch` give rise to, and what a call finds after
one that has thrown. A call that throws behind its write of `processing` leaves the batch in that
status, which no later call gets past.
-/

namespace AcbuBackend.Salary

open Effects AcbuBackend.Runtime
open Mint (TxId)

-- One transfer for an item

def World.transfersOf (w : World) (item : ItemId) : List TxId :=
  (w.created.filter (fun entry => entry.1 = item)).map Prod.snd

/-- The network has accepted the payment of the transfer, or its row is completed. -/
def World.succeeded (w : World) (id : TxId) : Bool :=
  w.transfers.payments.any (fun payment => payment.1 = id)
  || (w.transfers.transfers.lookup id).any (fun row => row.status = .completed)

def World.successfulTransfers (w : World) (item : ItemId) : List TxId :=
  (w.transfersOf item).filter w.succeeded

theorem created_updateItems {start w : World} {writes : List (ItemId × SalaryItemUpdate)}
    (h : w.created = start.created)
    : (start.updateItems w writes).2.created = start.created := by
  induction writes generalizing w with
  | nil => exact h
  | cons write writes ih =>
      rw [World.updateItems, World.updateItem]
      cases w.items.lookup write.1 with
      | none => rfl
      | some item => exact ih h

theorem created_of_act {i : Nat} {op : SalaryOp} {x : Choice} {w w' : World}
    {reply : salaryInterface.Reply op}
    (h : salarySemantics.act i op x w = some (reply, w'))
    : w'.created = w.created ∨ ∃ item data, op = .transfer item (.createTransaction data) := by
  obtain ⟨-, answered⟩ := Environment.act_eq_some h
  rcases Outcome.answer_world answered with rfl | left
  · exact .inl rfl
  · have left : w' = (effect x w op).2 := left
    rw [left]
    cases op with
    | turn => exact .inl rfl
    | findBatch id => exact .inl rfl
    | updateBatch id status =>
        refine .inl ?_
        rw [effect, World.updateBatch]
        cases w.batches.lookup id <;> rfl
    | updateItem id data =>
        refine .inl ?_
        rw [effect, World.updateItem]
        cases w.items.lookup id <;> rfl
    | transaction writes => exact .inl (created_updateItems rfl)
    | transfer item op =>
        cases op with
        | createTransaction data => exact .inr ⟨item, data, rfl⟩
        | _ => exact .inl rfl

theorem created_of_reaches {dep : Deployment} {requests : List SalaryRequest} {world : World}
    {c : SalaryConfig}
    (reached : Config.Reaches salarySemantics Config.anyStep (initialConfig dep requests world) c)
    : Keeps c ∧ c.world.created = world.created := by
  refine keeps_initialConfig.invariant (J := fun c => c.world.created = world.created) rfl ?_
    reached
  intro c c' i x keeps same _ stepped
  obtain ⟨op, reply, -, -, answered, moved, -⟩ := keeps.step_cases stepped
  rcases created_of_act answered with kept | ⟨item, data, rfl⟩
  · exact kept.trans same
  · have move : StageMove (stageOf c i) ⟨_, reply⟩ (stageOf c' i) := .of_next moved
    generalize stageOf c i = stage at move
    generalize stageOf c' i = stage' at move
    cases move

/-- In every run of `processSalaryBatch` calls an item gives rise to at most one successful
transfer. Witness: `created_of_reaches`; none is created, since none names a wallet version.
-/
theorem transferredOnce (dep : Deployment) (requests : List SalaryRequest)
    (batches : AList (fun _ : BatchId => SalaryBatch))
    (items : AList (fun _ : ItemId => SalaryItem))
    (transfers : Transfer.World) (c : SalaryConfig)
    (reached : Config.Reaches salarySemantics Config.anyStep
      (initialConfig dep requests { batches, items, transfers }) c)
    (item : ItemId)
    : (c.world.successfulTransfers item).length ≤ 1 := by
  have none : c.world.transfersOf item = [] := by
    rw [World.transfersOf, (created_of_reaches reached).2]
    rfl
  rw [World.successfulTransfers, none]
  exact Nat.zero_le 1

-- A batch of two items

def sampleDeployment : Deployment where
  transfer := { travelRule := { thresholdAcbu := 1000, enforce := true, mode := "strict" }
                toText := fun _ => "1000" }
  toText := fun _ => "5"

/-- A batch that waits for two payments of 5 ACBU. -/
def sampleWorld : World where
  batches := (∅ : AList (fun _ : BatchId => SalaryBatch)).insert "b1"
    { userId := "u1", status := .pending }
  items := ((∅ : AList (fun _ : ItemId => SalaryItem)).insert "i1"
    { batchId := "b1", recipientAddress := "G2", amount := 5, status := .pending }).insert "i2"
    { batchId := "b1", recipientAddress := "G3", amount := 5, status := .pending }
  transfers := { transfers := ∅ }

def connectionLost : JsError :=
  .error "Connection lost"

/-- The sender is known and verified. -/
def sampleChoice (outcome : Outcome JsError) : Choice where
  transfer :=
    { outcome, user := some { stellarAddress := some "G1", kycStatus := "verified" } }

/-- A call and the retries of a new batch, side by side: both read the batch before either
writes to it.
-/
theorem transferredOnce_twice
    : ∃ c, Config.Reaches salarySemantics Config.anyStep
          (initialConfig sampleDeployment [.process "b1", .background "b1"] sampleWorld) c
        ∧ c.live 0 = false
        ∧ c.live 1 = false
        ∧ (c.world.successfulTransfers "i1").length ≤ 1 := by
  have executed :
      ((initialConfig sampleDeployment [.process "b1", .background "b1"] sampleWorld).run
        salarySemantics Config.anyStep
        ((List.replicate 7 [(0, sampleChoice .done), (1, sampleChoice .done)]).flatten)).map
        (fun c => (c.live 0, c.live 1)) = some (false, false) := by
    decide +kernel
  obtain ⟨c, reached, read⟩ := Config.reaches_of_run executed
  obtain ⟨first, second⟩ := Prod.mk.inj read
  exact ⟨c, reached, first, second, transferredOnce _ _ _ _ _ c reached "i1"⟩

-- What is left to later calls

def World.statusOf (w : World) (id : BatchId) : Option BatchStatus :=
  (w.batches.lookup id).map SalaryBatch.status

def World.uncompleted (w : World) (id : BatchId) : List ItemId :=
  (unpaidItems (w.itemsOf id)).map Prod.fst

/-- The call is part of an attempt to pay the item: one of its transfer, or a write of what
has become of it.
-/
def attempts (item : ItemId) (event : Event salaryInterface) : Prop :=
  match event.op with
  | .transfer other _ | .updateItem other _ => other = item
  | .transaction writes => item ∈ writes.map Prod.fst
  | _ => False

/-- Request `j` has attempted every item that was not completed at `c`, and has not left the
batch in `processing`.
-/
structure Recovers (c c' : SalaryConfig) (j : Nat) (id : BatchId) : Prop where
  attempted : ∃ events, c'.past j = events ++ c.past j
    ∧ ∀ item ∈ c.world.uncompleted id, ∃ event ∈ events, attempts item event
  settled : c'.world.statusOf id ≠ some .processing

/-- The guard lets the batch through, or nothing is left to do for it. -/
def World.resumable (w : World) (id : BatchId) : Prop :=
  (w.statusOf id).any BatchStatus.processable = true
    ∨ w.statusOf id ≠ some .processing ∧ w.uncompleted id = []

/-- Only request `j` goes on, and its calls take effect. -/
def Healthy (j : Nat) (_ : SalaryConfig) (i : Nat) (x : Choice) : Prop :=
  i = j ∧ x.transfer.outcome = .done

instance (j : Nat) (c : SalaryConfig) (i : Nat) (x : Choice) : Decidable (Healthy j c i x) :=
  inferInstanceAs (Decidable (_ ∧ _))

-- Writes that find their rows

theorem updateBatch_of_isSome {w : World} {id : BatchId} (status : BatchStatus)
    (stored : (w.statusOf id).isSome = true)
    : (w.updateBatch id status).1 = .ok ()
      ∧ (w.updateBatch id status).2.statusOf id = some status
      ∧ (w.updateBatch id status).2.items = w.items := by
  obtain ⟨_, found⟩ := Option.isSome_iff_exists.mp stored
  obtain ⟨batch, found, -⟩ := Option.map_eq_some_iff.mp found
  simp [World.updateBatch, World.statusOf, found]

theorem updateItems_of_mem (start : World) {w : World} {writes : List (ItemId × SalaryItemUpdate)}
    (stored : ∀ item ∈ writes.map Prod.fst, item ∈ w.items)
    : (start.updateItems w writes).1 = .ok ()
      ∧ (start.updateItems w writes).2.batches = w.batches
      ∧ ∀ item ∈ w.items, item ∈ (start.updateItems w writes).2.items := by
  induction writes generalizing w with
  | nil => exact ⟨rfl, rfl, fun _ member => member⟩
  | cons write writes ih =>
      obtain ⟨head, rest⟩ := List.forall_mem_cons.mp stored
      obtain ⟨item, found⟩ := Option.isSome_iff_exists.mp (AList.lookup_isSome.mpr head)
      have updated : w.updateItem write.1 write.2
          = (.ok (), { w with items := w.items.insert write.1 (item.apply write.2) }) := by
        rw [World.updateItem, found]
      have kept : ∀ other ∈ w.items, other ∈ w.items.insert write.1 (item.apply write.2) :=
        fun other member => (AList.mem_insert _).mpr (.inr member)
      obtain ⟨done, batches, later⟩ := ih (w := { w with
        items := w.items.insert write.1 (item.apply write.2) }) fun other member =>
          kept other (rest other member)
      rw [World.updateItems, updated]
      exact ⟨done, batches, fun other member => later other (kept other member)⟩

-- A call that the guard lets through

/-- What a stage says of the items that were not completed at `c`. -/
def Progress (c : SalaryConfig) (id : BatchId) (w : World) (attempted : ItemId → Prop)
    : Stage → Prop
  | .claiming other items => other = id ∧ items = c.world.uncompleted id
  | .working other items owed =>
      other = id ∧ items = c.world.uncompleted id ∧ ∀ item ∈ items, item ∈ owed ∨ attempted item
  | .finished other =>
      other = id ∧ w.statusOf id ≠ some .processing ∧ ∀ item ∈ c.world.uncompleted id,
        attempted item
  | .idle | .skipped => False

/-- Request `j` is on its way from `c`, where the guard has let its batch through. -/
structure Resuming (c c' : SalaryConfig) (j : Nat) (id : BatchId) : Prop where
  stored : (c'.world.statusOf id).isSome = true
  items : ∀ item ∈ c.world.uncompleted id, item ∈ c'.world.items
  progress : ∃ events, c'.past j = events ++ c.past j
    ∧ Progress c id c'.world (fun item => ∃ event ∈ events, attempts item event) (stageOf c' j)

variable {c c' c'' : SalaryConfig} {j : Nat} {id : BatchId}

theorem Progress.mono {w w' : World} {attempted attempted' : ItemId → Prop} {stage : Stage}
    (h : Progress c id w attempted stage) (same : w'.statusOf id = w.statusOf id)
    (more : ∀ item, attempted item → attempted' item)
    : Progress c id w' attempted' stage := by
  cases stage with
  | claiming other items => exact h
  | working other items owed =>
      exact ⟨h.1, h.2.1, fun item member => (h.2.2 item member).imp_right (more item)⟩
  | finished other => exact ⟨h.1, same ▸ h.2.1, fun item member => more item (h.2.2 item member)⟩
  | idle => exact h
  | skipped => exact h

theorem Resuming.step (h : Resuming c c' j id) {op : SalaryOp} {reply : salaryInterface.Reply op}
    {x : Choice} (effective : effect x c'.world op = (reply, c''.world))
    (moved : Stage.next (stageOf c' j) op reply = some (stageOf c'' j))
    (past : c''.past j = ⟨op, reply⟩ :: c'.past j)
    : Resuming c c'' j id := by
  obtain ⟨events, before, progress⟩ := h.progress
  have after : c''.past j = (⟨op, reply⟩ :: events) ++ c.past j := by
    rw [past, before, List.cons_append]
  have still : ∀ item, (∃ event ∈ events, attempts item event) →
      ∃ event ∈ (⟨op, reply⟩ : Event salaryInterface) :: events, attempts item event := by
    rintro item ⟨event, member, attempt⟩
    exact ⟨event, List.mem_cons_of_mem _ member, attempt⟩
  have move : StageMove (stageOf c' j) ⟨op, reply⟩ (stageOf c'' j) := .of_next moved
  generalize stageOf c' j = stage at move progress
  generalize reached : stageOf c'' j = stage' at move
  cases move with
  | read other answer => exact progress.elim
  | claimed other items answer =>
      obtain ⟨rfl, all⟩ := progress
      obtain ⟨done, status, kept⟩ := updateBatch_of_isSome .processing h.stored
      have effective : c'.world.updateBatch other .processing = (answer, c''.world) := effective
      rw [effective] at done status kept
      obtain rfl : answer = .ok () := done
      refine ⟨by simp [status], kept ▸ h.items, _, after, ?_⟩
      rw [reached]
      exact ⟨rfl, all, fun item member => .inl member⟩
  | turned other items owed answer =>
      have world : c'.world = c''.world := congrArg Prod.snd effective
      refine ⟨world ▸ h.stored, world ▸ h.items, _, after, ?_⟩
      rw [reached, ← world]
      exact progress.mono rfl still
  | refused other items owed item user answer =>
      have world : { c'.world with created := [] ++ c'.world.created } = c''.world :=
        congrArg Prod.snd effective
      refine ⟨world ▸ h.stored, world ▸ h.items, _, after, ?_⟩
      rw [reached, ← world]
      exact progress.mono rfl still
  | committed other items owed writes own answer =>
      obtain ⟨rfl, all, covered⟩ := progress
      obtain ⟨done, batches, kept⟩ := updateItems_of_mem c'.world fun item member => h.items item
        (all ▸ own member)
      have effective : c'.world.updateItems c'.world writes = (answer, c''.world) := effective
      rw [effective] at done batches kept
      obtain rfl : answer = .ok () := done
      have same : c''.world.statusOf other = c'.world.statusOf other := by
        rw [World.statusOf, batches, World.statusOf]
      refine ⟨same ▸ h.stored, fun item member => kept item (h.items item member), _, after, ?_⟩
      rw [reached]
      refine ⟨rfl, all, fun item member => ?_⟩
      by_cases written : item ∈ writes.map Prod.fst
      · exact .inr ⟨_, List.mem_cons_self, written⟩
      · refine (covered item member).imp (fun owes => ?_) (still item)
        exact List.mem_filter.mpr ⟨owes, by simpa using written⟩
  | closed other items status final answer =>
      obtain ⟨rfl, all, covered⟩ := progress
      obtain ⟨done, written, kept⟩ := updateBatch_of_isSome status h.stored
      have effective : c'.world.updateBatch other status = (answer, c''.world) := effective
      rw [effective] at done written kept
      obtain rfl : answer = .ok () := done
      refine ⟨by simp [written], kept ▸ h.items, _, after, ?_⟩
      rw [reached]
      refine ⟨rfl, by simpa [written] using final, fun item member => still item ?_⟩
      exact (covered item (all ▸ member)).resolve_left (List.not_mem_nil)

-- Whole calls

theorem effective_of_healthy {i : Nat} {x : Choice} (keeps : Keeps c) (allowed : Healthy j c i x)
    (stepped : c.step salarySemantics i x = some c')
    : ∃ op reply, c.pending? j = some op
        ∧ effect x c.world op = (reply, c'.world)
        ∧ Stage.next (stageOf c j) op reply = some (stageOf c' j)
        ∧ c'.past j = ⟨op, reply⟩ :: c.past j
        ∧ Keeps c' := by
  obtain ⟨rfl, outcome⟩ := allowed
  obtain ⟨op, reply, -, pending, answered, moved, past, -, keeps'⟩ := keeps.step_cases stepped
  have effective := (Environment.act_eq_some answered).2
  rw [show salaryEnvironment.outcome x = .done from outcome] at effective
  exact ⟨op, reply, pending, effective, moved, past, keeps'⟩

theorem Resuming.of_reaches {middle : SalaryConfig} (h : Resuming c middle j id)
    (keeps : Keeps middle) (reached : Config.Reaches salarySemantics (Healthy j) middle c')
    : Keeps c' ∧ Resuming c c' j id := by
  refine keeps.invariant (J := fun c' => Resuming c c' j id) h ?_ reached
  intro c₁ c₂ i x keeps h allowed stepped
  obtain ⟨op, reply, -, effective, moved, past, -⟩ := effective_of_healthy keeps allowed stepped
  exact h.step effective moved past

theorem over_of_ended (keeps : Keeps c) (bound : j < c.threads.length) (ended : c.live j = false)
    : (stageOf c j).over := by
  rcases Config.ended_cases bound ended with ⟨value, finished⟩ | ⟨error, failed⟩
  · exact keeps.value finished
  · exact keeps.error failed

theorem mem_items_of_uncompleted {w : World} {item : ItemId} (h : item ∈ w.uncompleted id)
    : item ∈ w.items := by
  obtain ⟨entry, unpaid, rfl⟩ := List.mem_map.mp h
  obtain ⟨stored, own, rfl⟩ := List.mem_map.mp (List.mem_filter.mp unpaid).1
  exact AList.mem_keys.mpr (List.mem_map.mpr ⟨stored, (List.mem_filter.mp own).1, rfl⟩)

/-- A request that has turned its batch away makes no further call. -/
theorem eq_of_skipped (keeps : Keeps c) (skipped : stageOf c j = .skipped)
    (reached : Config.Reaches salarySemantics (Healthy j) c c')
    : c' = c := by
  rcases Relation.ReflTransGen.cases_head reached with rfl | ⟨middle, ⟨i, x, allowed, stepped⟩, -⟩
  · rfl
  · obtain ⟨op, reply, -, -, moved, -, -⟩ := effective_of_healthy keeps allowed stepped
    rw [skipped] at moved
    cases moved

theorem read_cases {w : World}
    : (w.statusOf id).any BatchStatus.processable = true
        ∧ (Stage.afterRead id (.ok (w.findBatch id)) = .claiming id (w.uncompleted id))
      ∨ (w.statusOf id).any BatchStatus.processable = false
        ∧ Stage.afterRead id (.ok (w.findBatch id)) = .skipped := by
  rw [World.statusOf, World.findBatch]
  rcases w.batches.lookup id with _ | batch
  · exact .inr ⟨rfl, rfl⟩
  · cases processable : batch.status.processable with
    | true => exact .inl ⟨processable, if_pos processable⟩
    | false => exact .inr ⟨processable, if_neg (by simp [processable])⟩

theorem Resuming.recovers {middle : SalaryConfig} (h : Resuming c middle j id)
    (keeps : Keeps middle) (reached : Config.Reaches salarySemantics (Healthy j) middle c')
    (bound : j < c'.threads.length) (ended : c'.live j = false)
    : Recovers c c' j id := by
  obtain ⟨keepsLast, last⟩ := h.of_reaches keeps reached
  obtain ⟨events, made, progress⟩ := last.progress
  have settled := over_of_ended keepsLast bound ended
  generalize stageOf c' j = stage at progress settled
  cases stage with
  | finished other => exact ⟨⟨events, made, progress.2.2⟩, progress.2.1⟩
  | claiming other items => rcases settled with done | idle <;> contradiction
  | working other items owed => rcases settled with done | idle <;> contradiction
  | idle => exact progress.elim
  | skipped => exact progress.elim

theorem recovers_of_read {reply : salaryInterface.Reply (.findBatch id)}
    (same : c'.world = c.world) (past : c'.past j = ⟨.findBatch id, reply⟩ :: c.past j)
    : Recovers c c' j id
      ↔ c.world.statusOf id ≠ some .processing ∧ c.world.uncompleted id = [] := by
  constructor
  · rintro ⟨⟨events, made, attempted⟩, settled⟩
    obtain rfl : [_] = events := List.append_cancel_right (past.symm.trans made)
    refine ⟨same ▸ settled, List.eq_nil_iff_forall_not_mem.mpr fun item member => ?_⟩
    obtain ⟨event, only, attempt⟩ := attempted item member
    obtain rfl := List.mem_singleton.mp only
    exact attempt
  · rintro ⟨settled, none⟩
    refine ⟨⟨[_], past, ?_⟩, same ▸ settled⟩
    rw [none]
    exact fun _ absurd => (List.not_mem_nil absurd).elim

theorem healthy_ends (keeps : Keeps c)
    : ∃ c', Config.Reaches salarySemantics (Healthy j) c c' ∧ c'.live j = false := by
  refine keeps.exists_ended fun c stage op allowed => ?_
  obtain ⟨stage', moved⟩ := allowed (.error (.error ""))
  refine ⟨{}, ⟨rfl, rfl⟩, ?_⟩
  have move := StageMove.of_next moved
  cases move <;> rfl

/-- A call that is about to read its batch, and all of whose calls take effect, ends, and it
recovers the batch if and only if the guard lets the batch through or nothing is left to do.
-/
theorem recovers_iff (dep : Deployment) (requests : List SalaryRequest) (world : World)
    (c : SalaryConfig) (j : Nat) (id : BatchId)
    (reached : Config.Reaches salarySemantics Config.anyStep (initialConfig dep requests world) c)
    (begins : c.pending? j = some (.findBatch id))
    : (∃ c', Config.Reaches salarySemantics (Healthy j) c c' ∧ c'.live j = false)
      ∧ ∀ c', Config.Reaches salarySemantics (Healthy j) c c' → c'.live j = false →
        (Recovers c c' j id ↔ c.world.resumable id) := by
  have keeps := (created_of_reaches reached).1
  refine ⟨healthy_ends keeps, fun c' healthy ended => ?_⟩
  have live : c.live j = true := Config.live_of_pending begins
  have bound : j < c'.threads.length := by
    rw [Config.length_threads_of_reaches healthy]
    exact Config.lt_of_live live
  rcases Relation.ReflTransGen.cases_head healthy with
    rfl | ⟨middle, ⟨i, x, allowed, stepped⟩, later⟩
  · cases live.symm.trans ended
  · obtain ⟨op, reply, pending, effective, moved, past, keeps'⟩ :=
      effective_of_healthy keeps allowed stepped
    obtain rfl : SalaryOp.findBatch id = op := Option.some.inj (begins.symm.trans pending)
    obtain ⟨rfl, same⟩ := Prod.mk.inj effective
    have move : StageMove (stageOf c j) ⟨_, _⟩ (stageOf middle j) := .of_next moved
    generalize stageOf c j = stage at move
    generalize entered : stageOf middle j = stage' at move
    cases move with
    | read _ _ =>
        rcases @read_cases id c.world with ⟨processable, claiming⟩ | ⟨turned, skipped⟩
        · -- the guard lets the batch through
          have start : Resuming c middle j id := by
            refine ⟨?_, fun item member => ?_, [_], past, ?_⟩
            · rw [← same]
              exact Option.isSome_of_any processable
            · rw [← same]
              exact mem_items_of_uncompleted member
            · rw [entered, claiming]
              exact ⟨rfl, rfl⟩
          exact iff_of_true (start.recovers keeps' later bound ended) (.inl processable)
        · -- the guard turns the batch away
          obtain rfl := eq_of_skipped keeps' (entered.trans skipped) later
          rw [recovers_of_read same.symm past, World.resumable, turned]
          simp

-- A batch of two items whose first call throws

/-- The first call fails at its first write; the second finds the batch pending. -/
theorem recovers_iff_unclaimed
    : ∃ c c', Config.Reaches salarySemantics Config.anyStep
          (initialConfig sampleDeployment [.process "b1", .process "b1"] sampleWorld) c
        ∧ (c.error? 0).isSome = true
        ∧ Config.Reaches salarySemantics (Healthy 1) c c'
        ∧ Recovers c c' 1 "b1" := by
  have executed :
      ((initialConfig sampleDeployment [.process "b1", .process "b1"] sampleWorld).run
        salarySemantics Config.anyStep
        [(0, sampleChoice .done), (0, sampleChoice (.failed connectionLost))]).map
        (fun c => ((c.error? 0).isSome, c.pending? 1,
          (c.world.statusOf "b1").any BatchStatus.processable,
          (c.run salarySemantics (Healthy 1) (List.replicate 7 (1, sampleChoice .done))).map
            (fun c' => c'.live 1)))
        = some (true, some (.findBatch "b1"), true, some false) := by
    decide +kernel
  obtain ⟨c, reached, read⟩ := Config.reaches_of_run executed
  obtain ⟨thrown, read⟩ := Prod.mk.inj read
  obtain ⟨begins, read⟩ := Prod.mk.inj read
  obtain ⟨processable, later⟩ := Prod.mk.inj read
  obtain ⟨c', healthy, ended⟩ := Config.reaches_of_run later
  exact ⟨c, c', reached, thrown, healthy,
    ((recovers_iff _ _ _ c 1 "b1" reached begins).2 c' healthy ended).mpr (.inl processable)⟩

/-- The first call cannot write that the items have failed, and the second turns the batch
away.
-/
theorem not_recovers_claimed
    : ∃ c c', Config.Reaches salarySemantics Config.anyStep
          (initialConfig sampleDeployment [.process "b1", .process "b1"] sampleWorld) c
        ∧ (c.error? 0).isSome = true
        ∧ c.pending? 1 = some (.findBatch "b1")
        ∧ Config.Reaches salarySemantics (Healthy 1) c c'
        ∧ c'.live 1 = false
        ∧ ¬ Recovers c c' 1 "b1" := by
  have executed :
      ((initialConfig sampleDeployment [.process "b1", .process "b1"] sampleWorld).run
        salarySemantics Config.anyStep
        (List.replicate 5 (0, sampleChoice .done) ++ [(0,
          sampleChoice (.failed connectionLost))])).map
        (fun c => ((c.error? 0).isSome, c.pending? 1,
          (c.run salarySemantics (Healthy 1) [(1, sampleChoice .done)]).map
            (fun c' => (c'.live 1, c'.world.statusOf "b1"))))
        = some (true, some (.findBatch "b1"), some (false, some .processing)) := by
    decide +kernel
  obtain ⟨c, reached, read⟩ := Config.reaches_of_run executed
  obtain ⟨thrown, read⟩ := Prod.mk.inj read
  obtain ⟨begins, later⟩ := Prod.mk.inj read
  obtain ⟨c', healthy, read⟩ := Config.reaches_of_run later
  obtain ⟨ended, status⟩ := Prod.mk.inj read
  exact ⟨c, c', reached, thrown, begins, healthy, ended, fun recovers => recovers.settled status⟩

end AcbuBackend.Salary

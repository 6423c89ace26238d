import AcbuBackend.Mint.SingleMint

/-! What the status `failed` says about the chain.
A handler marks its row as failed after whatever error leaves the block around its mint, so
the status is wrong whenever that error comes after the tokens were minted. The faults that
lead there are listed, and in a run without them a failed row was never minted.
-/

namespace AcbuBackend.Mint

open Effects AcbuBackend.Runtime

variable {dep : Deployment} {requests : List MintRequest}

/-- In a list of writes, newest first, no row is written failed after it was completed. -/
def NeverFailedAfterCompleted : List (TxId × TransactionStatus) → Prop
  | [] => True
  | (id, status) :: older =>
      (status = .failed → (id, TransactionStatus.completed) ∉ older)
      ∧ NeverFailedAfterCompleted older

-- The faults

def mintCall? : Option MintOp → Bool
  | some (.invokeContract _ call _) => call.isMint
  | _ => false

/-- Whether a call is the last attempt to write the completed row. `mintFromUsdcInternal`
makes a second one.
-/
def lastCompletion? (request : MintRequest) (stage : Stage) : Option MintOp → Bool
  | some (.updateTransaction _ data) =>
      data.status = .completed && (!request.isUsdc || stage matches .compensating _)
  | _ => false

def auditCall? : Option MintOp → Bool
  | some (.logAudit ..) => true
  | _ => false

/-- A step without the faults after which a minted row is marked as failed. -/
structure FaultFree (dep : Deployment) (requests : List MintRequest) (c : MintConfig) (i : Nat)
    (x : Choice) : Prop where
  /-- No mint is reported as an error after it was applied. -/
  mint : mintCall? (c.pending? i) = true → x.outcome.isLost = false
  completion :
    lastCompletion? (requestAt requests i) (stageOf dep requests c i) (c.pending? i) = true →
      x.outcome = .done
  /-- The audit write of `confirmMint` stands in the block whose error marks the row. -/
  audit : auditCall? (c.pending? i) = true → (requestAt requests i).isConfirm = true →
    x.outcome = .done
  /-- A confirmation marks its row as processing when nothing was minted for the row and no
  other request that has not ended has taken hold of it.
  -/
  claim : ∀ id, claimedRow? (c.pending? i) = some id →
    c.world.mintsFor id = 0
    ∧ ∀ j, j ≠ i → c.live j = true → (stageOf dep requests c j).row? ≠ some id

instance (c : MintConfig) (i : Nat) (x : Choice) : Decidable (FaultFree dep requests c i x) :=
  decidable_of_iff
    ((mintCall? (c.pending? i) = true → x.outcome.isLost = false)
      ∧ (lastCompletion? (requestAt requests i) (stageOf dep requests c i) (c.pending? i) = true →
          x.outcome = .done)
      ∧ (auditCall? (c.pending? i) = true → (requestAt requests i).isConfirm = true →
          x.outcome = .done)
      ∧ ∀ id ∈ claimedRow? (c.pending? i),
          c.world.mintsFor id = 0
          ∧ ∀ j < c.threads.length, j ≠ i → c.live j = true →
              (stageOf dep requests c j).row? ≠ some id)
    (by
      constructor
      · rintro ⟨mint, completion, audit, claim⟩
        refine ⟨mint, completion, audit, fun id claimed => ?_⟩
        obtain ⟨unminted, free⟩ := claim id claimed
        exact ⟨unminted, fun j different live => free j (Config.lt_of_live live) different live⟩
      · rintro ⟨mint, completion, audit, claim⟩
        refine ⟨mint, completion, audit, fun id claimed => ?_⟩
        obtain ⟨unminted, free⟩ := claim id claimed
        exact ⟨unminted, fun j _ => free j⟩)

-- The table and the chain

/-- Statuses agree with the chain. -/
structure StatusAgrees (w : World) : Prop where
  mintedKnown : ∀ id, w.mintsFor id ≠ 0 → id ∈ w.transactions
  writtenKnown : ∀ id status, (id, status) ∈ w.statusWrites → id ∈ w.transactions
  completed : ∀ id, (id, TransactionStatus.completed) ∈ w.statusWrites → w.mintsFor id ≠ 0
  failed : ∀ id, w.statusOf id = some .failed → w.mintsFor id = 0
  history : NeverFailedAfterCompleted w.statusWrites

theorem StatusAgrees.put {w : World} {id : TxId} {row : Transaction} (h : StatusAgrees w)
    (failed : row.status = .failed → w.mintsFor id = 0)
    (completed : row.status = .completed → w.mintsFor id ≠ 0)
    : StatusAgrees (w.put id row) := by
  constructor
  · intro other minted
    rw [mintsFor_put] at minted
    exact mem_put.mpr (.inr (h.mintedKnown other minted))
  · intro other status written
    rw [statusWrites_put] at written
    rcases List.mem_cons.mp written with same | earlier
    · exact mem_put.mpr (.inl (congrArg Prod.fst same))
    · exact mem_put.mpr (.inr (h.writtenKnown other status earlier))
  · intro other written
    rw [statusWrites_put] at written
    rw [mintsFor_put]
    rcases List.mem_cons.mp written with same | earlier
    · obtain ⟨rfl, status⟩ := Prod.mk.inj same
      exact completed status.symm
    · exact h.completed other earlier
  · intro other status
    rw [statusOf_put] at status
    rw [mintsFor_put]
    split at status
    · rename_i same
      subst same
      exact failed (Option.some.inj status)
    · exact h.failed other status
  · refine ⟨fun status written => ?_, h.history⟩
    exact h.completed id written (failed status)

theorem StatusAgrees.invoke {w : World} {id : TxId} {call : ContractCall} (h : StatusAgrees w)
    (known : call.isMint = true → id ∈ w.transactions)
    (unfailed : call.isMint = true → w.statusOf id ≠ some .failed)
    : StatusAgrees (w.invoke call id) := by
  have grows : ∀ other, w.mintsFor other ≠ 0 → (w.invoke call id).mintsFor other ≠ 0 := by
    intro other minted
    rw [mintsFor_invoke]
    omega
  have elsewhere : ∀ other, (w.invoke call id).mintsFor other ≠ w.mintsFor other →
      call.isMint = true ∧ id = other := by
    intro other changed
    rw [mintsFor_invoke] at changed
    by_contra apart
    simp [apart] at changed
  constructor
  · intro other minted
    by_cases same : (w.invoke call id).mintsFor other = w.mintsFor other
    · exact h.mintedKnown other (same ▸ minted)
    · obtain ⟨mints, rfl⟩ := elsewhere other same
      exact known mints
  · exact h.writtenKnown
  · exact fun other written => grows other (h.completed other written)
  · intro other status
    by_cases same : (w.invoke call id).mintsFor other = w.mintsFor other
    · rw [same]
      exact h.failed other status
    · obtain ⟨mints, rfl⟩ := elsewhere other same
      exact absurd status (unfailed mints)
  · exact h.history

-- The requests

/-- At most one request that has not ended has hold of a row, and its stage says whether the
row was minted.
-/
structure HoldersAgree (dep : Deployment) (requests : List MintRequest) (c : MintConfig)
    : Prop where
  statuses : StatusAgrees c.world
  known : ∀ i id, (stageOf dep requests c i).row? = some id → id ∈ c.world.transactions
  alone : ∀ i j id, c.live i = true → c.live j = true →
    (stageOf dep requests c i).row? = some id → (stageOf dep requests c j).row? = some id → i = j
  unminted : ∀ i id, c.live i = true →
    stageOf dep requests c i = .holding id ∨ stageOf dep requests c i = .lapsed id →
    c.world.mintsFor id = 0
  minted : ∀ i id,
    stageOf dep requests c i = .minted id ∨ stageOf dep requests c i = .compensating id →
    c.world.mintsFor id ≠ 0
  unfailed : ∀ i id, c.live i = true → stageOf dep requests c i = .holding id →
    c.world.statusOf id ≠ some .failed

/-- A step of request `i` that changes nothing but its own row, keeps or takes hold of one
that is free, and ends in a stage that agrees with the chain.
-/
theorem HoldersAgree.of_step {c c' : MintConfig} {i : Nat} (h : HoldersAgree dep requests c)
    (live : c.live i = true)
    (others : ∀ j, j ≠ i →
      stageOf dep requests c' j = stageOf dep requests c j ∧ c'.live j = c.live j)
    (statuses : StatusAgrees c'.world)
    (kept : ∀ id, id ∈ c.world.transactions → id ∈ c'.world.transactions)
    (known : ∀ id, (stageOf dep requests c' i).row? = some id → id ∈ c'.world.transactions)
    (own : ∀ id, (stageOf dep requests c' i).row? = some id →
      (stageOf dep requests c i).row? = some id
      ∨ ∀ j, j ≠ i → c.live j = true → (stageOf dep requests c j).row? ≠ some id)
    (grows : ∀ id, c.world.mintsFor id ≠ 0 → c'.world.mintsFor id ≠ 0)
    (mints : ∀ id, c'.world.mintsFor id = c.world.mintsFor id
      ∨ (stageOf dep requests c i).row? = some id)
    (fails : ∀ id, c'.world.statusOf id = some .failed →
      c.world.statusOf id = some .failed ∨ (stageOf dep requests c i).row? = some id)
    (unminted : ∀ id,
      stageOf dep requests c' i = .holding id ∨ stageOf dep requests c' i = .lapsed id →
      c'.world.mintsFor id = 0)
    (minted : ∀ id,
      stageOf dep requests c' i = .minted id ∨ stageOf dep requests c' i = .compensating id →
      c'.world.mintsFor id ≠ 0)
    (unfailed : ∀ id, stageOf dep requests c' i = .holding id →
      c'.world.statusOf id ≠ some .failed)
    : HoldersAgree dep requests c' := by
  -- the row of another request that has not ended is not the one of request `i`
  have apart : ∀ j id, j ≠ i → c.live j = true → (stageOf dep requests c j).row? = some id →
      (stageOf dep requests c i).row? ≠ some id := by
    intro j id different alive holds same
    exact different (h.alone j i id alive live holds same)
  constructor
  · exact statuses
  · intro j id holds
    by_cases same : j = i
    · subst same
      exact known id holds
    · rw [(others j same).1] at holds
      exact kept id (h.known j id holds)
  · intro j k id aliveJ aliveK holdsJ holdsK
    by_cases sameJ : j = i
    · by_cases sameK : k = i
      · exact sameJ.trans sameK.symm
      · subst sameJ
        rw [(others k sameK).1] at holdsK
        rw [(others k sameK).2] at aliveK
        rcases own id holdsJ with before | free
        · exact absurd before (apart k id sameK aliveK holdsK)
        · exact absurd holdsK (free k sameK aliveK)
    · rw [(others j sameJ).1] at holdsJ
      rw [(others j sameJ).2] at aliveJ
      by_cases sameK : k = i
      · subst sameK
        rcases own id holdsK with before | free
        · exact absurd before (apart j id sameJ aliveJ holdsJ)
        · exact absurd holdsJ (free j sameJ aliveJ)
      · rw [(others k sameK).1] at holdsK
        rw [(others k sameK).2] at aliveK
        exact h.alone j k id aliveJ aliveK holdsJ holdsK
  · intro j id alive stage
    by_cases same : j = i
    · subst same
      exact unminted id stage
    · rw [(others j same).1] at stage
      rw [(others j same).2] at alive
      have holds : (stageOf dep requests c j).row? = some id := by
        rcases stage with stage | stage <;> rw [stage] <;> rfl
      rcases mints id with unchanged | mine
      · rw [unchanged]
        exact h.unminted j id alive stage
      · exact absurd mine (apart j id same alive holds)
  · intro j id stage
    by_cases same : j = i
    · subst same
      exact minted id stage
    · rw [(others j same).1] at stage
      exact grows id (h.minted j id stage)
  · intro j id alive stage status
    by_cases same : j = i
    · subst same
      exact unfailed id stage status
    · rw [(others j same).1] at stage
      rw [(others j same).2] at alive
      rcases fails id status with before | mine
      · exact h.unfailed j id alive stage before
      · exact apart j id same alive (by rw [stage]; rfl) mine

theorem StatusAgrees.write {w w' : World} {id : TxId} {status : TransactionStatus}
    (h : StatusAgrees w)
    (left : w' = w ∨ ∃ row : Transaction, row.status = status ∧ w' = w.put id row)
    (failed : status = .failed → w.mintsFor id = 0)
    (completed : status = .completed → w.mintsFor id ≠ 0)
    : StatusAgrees w'
      ∧ (∀ other, other ∈ w.transactions → other ∈ w'.transactions)
      ∧ (∀ other, w'.mintsFor other = w.mintsFor other)
      ∧ ∀ other, w'.statusOf other = some .failed →
          w.statusOf other = some .failed ∨ other = id ∧ status = .failed := by
  rcases left with rfl | ⟨row, rfl, rfl⟩
  · exact ⟨h, fun _ member => member, fun _ => rfl, fun _ before => .inl before⟩
  · refine ⟨h.put failed completed, fun other member => mem_put.mpr (.inr member),
      fun _ => mintsFor_put, ?_⟩
    intro other after
    rw [statusOf_put] at after
    split at after
    · exact .inr ⟨‹_›, Option.some.inj after⟩
    · exact .inl after

theorem HoldersAgree.of_write {c c' : MintConfig} {i : Nat} {id : TxId}
    {status : TransactionStatus} (h : HoldersAgree dep requests c)
    (live : c.live i = true)
    (others : ∀ j, j ≠ i →
      stageOf dep requests c' j = stageOf dep requests c j ∧ c'.live j = c.live j)
    (left : c'.world = c.world
      ∨ ∃ row : Transaction, row.status = status ∧ c'.world = c.world.put id row)
    (failed : status = .failed →
      (stageOf dep requests c i).row? = some id ∧ c.world.mintsFor id = 0)
    (completed : status = .completed → c.world.mintsFor id ≠ 0)
    (own : ∀ other, (stageOf dep requests c' i).row? = some other →
      other ∈ c'.world.transactions
      ∧ ((stageOf dep requests c i).row? = some other
        ∨ ∀ j, j ≠ i → c.live j = true → (stageOf dep requests c j).row? ≠ some other))
    (unminted : ∀ other,
      stageOf dep requests c' i = .holding other ∨ stageOf dep requests c' i = .lapsed other →
      c.world.mintsFor other = 0)
    (minted : ∀ other,
      stageOf dep requests c' i = .minted other
        ∨ stageOf dep requests c' i = .compensating other →
      c.world.mintsFor other ≠ 0)
    (unfailed : ∀ other, stageOf dep requests c' i = .holding other →
      c'.world.statusOf other ≠ some .failed)
    : HoldersAgree dep requests c' := by
  obtain ⟨statuses, kept, mints, fails⟩ :=
    h.statuses.write left (fun same => (failed same).2) completed
  apply h.of_step live others statuses kept (fun other holds => (own other holds).1)
    (fun other holds => (own other holds).2)
  · exact fun other => (mints other).symm ▸ fun before => before
  · exact fun other => .inl (mints other)
  · intro other after
    rcases fails other after with before | ⟨rfl, same⟩
    · exact .inl before
    · exact .inr (failed same).1
  · exact fun other stage => (mints other).trans (unminted other stage)
  · exact fun other stage => (mints other).symm ▸ minted other stage
  · exact unfailed

theorem HoldersAgree.of_read {c c' : MintConfig} {i : Nat} (h : HoldersAgree dep requests c)
    (live : c.live i = true)
    (others : ∀ j, j ≠ i →
      stageOf dep requests c' j = stageOf dep requests c j ∧ c'.live j = c.live j)
    (world : c'.world = c.world) (stage : stageOf dep requests c' i = stageOf dep requests c i)
    : HoldersAgree dep requests c' := by
  apply @HoldersAgree.of_write dep requests c c' i "" .pending h live others (.inl world)
  · rintro ⟨⟩
  · rintro ⟨⟩
  · rw [stage, world]
    exact fun other holds => ⟨h.known i other holds, .inl holds⟩
  · rw [stage]
    exact fun other => h.unminted i other live
  · rw [stage]
    exact h.minted i
  · rw [stage, world]
    exact fun other => h.unfailed i other live

theorem HoldersAgree.of_invoke {c c' : MintConfig} {i : Nat} {id : TxId} {call : ContractCall}
    (h : HoldersAgree dep requests c)
    (live : c.live i = true)
    (others : ∀ j, j ≠ i →
      stageOf dep requests c' j = stageOf dep requests c j ∧ c'.live j = c.live j)
    (before : call.isMint = true → stageOf dep requests c i = .holding id)
    (after : stageOf dep requests c' i = .minted id
      ∨ call.isMint = false ∧ stageOf dep requests c i = .compensating id
        ∧ stageOf dep requests c' i = .compensating id)
    (world : c'.world = c.world.invoke call id)
    (mints : stageOf dep requests c' i = .minted id → call.isMint = true)
    : HoldersAgree dep requests c' := by
  have row : (stageOf dep requests c i).row? = some id := by
    rcases after with reached | ⟨-, held, -⟩
    · rw [before (mints reached)]
      rfl
    · rw [held]
      rfl
  have row' : (stageOf dep requests c' i).row? = some id := by
    rcases after with reached | ⟨-, -, reached⟩ <;> rw [reached] <;> rfl
  have grows : ∀ other, c.world.mintsFor other ≠ 0 → c'.world.mintsFor other ≠ 0 := by
    intro other minted
    rw [world, mintsFor_invoke]
    omega
  apply h.of_step live others
  · rw [world]
    apply h.statuses.invoke
    · exact fun _ => h.known i id row
    · exact fun isMint => h.unfailed i id live (before isMint)
  · exact fun other member => by rw [world]; exact member
  · intro other holds
    rw [row'] at holds
    obtain rfl := Option.some.inj holds
    rw [world]
    exact h.known i id row
  · exact fun other holds => .inl (row.trans (row'.symm.trans holds))
  · exact grows
  · intro other
    rw [world, mintsFor_invoke]
    by_cases mine : call.isMint = true ∧ id = other
    · obtain ⟨-, rfl⟩ := mine
      exact .inr row
    · simp [mine]
  · exact fun other failed => .inl (by rw [world] at failed; exact failed)
  · intro other stage
    rcases after with reached | ⟨-, -, reached⟩ <;> rw [reached] at stage <;> simp at stage
  · intro other stage
    rcases after with reached | ⟨-, held, reached⟩
    · rw [reached] at stage
      obtain rfl : id = other := by simpa using stage
      rw [world, mintsFor_invoke, if_pos ⟨mints reached, rfl⟩]
      omega
    · rw [reached] at stage
      obtain rfl : id = other := by simpa using stage
      exact grows id (h.minted i id (.inr held))
  · intro other stage
    rcases after with reached | ⟨-, -, reached⟩ <;> rw [reached] at stage <;> cases stage

/-- A fault-free step keeps statuses and chain in agreement. Witness: case analysis on the
move, one write or one contract call each.
-/
theorem HoldersAgree.step {c c' : MintConfig} {i : Nat} {x : Choice}
    (governed : Governed dep requests c) (h : HoldersAgree dep requests c)
    (faultFree : FaultFree dep requests c i x) (stepped : c.step mintSemantics i x = some c')
    : HoldersAgree dep requests c' := by
  obtain ⟨event, live, pending, move, _, rest⟩ := mint_step governed stepped
  have others : ∀ j, j ≠ i →
      stageOf dep requests c' j = stageOf dep requests c j ∧ c'.live j = c.live j :=
    fun j different => ⟨(rest j different).1, (rest j different).2.1⟩
  generalize before : stageOf dep requests c i = stage at move
  generalize after : stageOf dep requests c' i = stage' at move
  generalize reached : c'.world = w' at move
  cases move with
  | read => exact h.of_read live others reached (after.trans before.symm)
  | verify nowS =>
      apply @HoldersAgree.of_write dep requests c c' i "" .pending h live others (.inl reached)
      · rintro ⟨⟩
      · rintro ⟨⟩
      all_goals simp [after, Stage.row?]
  | create data created fresh =>
      have unheld : ∀ j, (stageOf dep requests c j).row? ≠ some x.freshId :=
        fun j holds => fresh (h.known j _ holds)
      have unminted : c.world.mintsFor x.freshId = 0 := by
        by_contra minted
        exact fresh (h.statuses.mintedKnown _ minted)
      apply h.of_write live others (.inr ⟨data, created, reached⟩)
      · rintro ⟨⟩
      · rintro ⟨⟩
      · rw [after, reached]
        intro other holds
        obtain rfl := Option.some.inj holds
        exact ⟨mem_put.mpr (.inl rfl), .inr (fun j _ _ => unheld j)⟩
      · rw [after]
        intro other holds
        obtain rfl : x.freshId = other := by simpa using holds
        exact unminted
      · simp [after]
      · rw [after, reached]
        intro other holds
        obtain rfl : x.freshId = other := by simpa using holds
        simp [created]
  | createLost data _ _ created _ left =>
      subst reached
      apply h.of_write live others (left.imp_right (fun put => ⟨data, created, put⟩))
      · rintro ⟨⟩
      · rintro ⟨⟩
      all_goals simp [after, Stage.row?]
  | claim id data row _ processing =>
      have claimed : claimedRow? (c.pending? i) = some id := by
        rw [pending]
        simp [claimedRow?, processing]
      obtain ⟨unminted, free⟩ := faultFree.claim id claimed
      apply h.of_write live others (.inr ⟨_, processing, reached⟩)
      · rintro ⟨⟩
      · rintro ⟨⟩
      · rw [after, reached]
        intro other holds
        obtain rfl := Option.some.inj holds
        exact ⟨mem_put.mpr (.inl rfl), .inr free⟩
      · rw [after]
        intro other holds
        obtain rfl : id = other := by simpa using holds
        exact unminted
      · simp [after]
      · rw [after, reached]
        intro other holds
        obtain rfl : id = other := by simpa using holds
        simp [processing]
  | claimLost id data _ _ processing left =>
      subst reached
      have written : c'.world = c.world
          ∨ ∃ row, row.status = .processing ∧ c'.world = c.world.put id row := by
        rcases left with same | ⟨row, -, put⟩
        · exact .inl same
        · exact .inr ⟨row.apply data, processing, put⟩
      apply h.of_write live others written
      · rintro ⟨⟩
      · rintro ⟨⟩
      all_goals simp [after, Stage.row?]
  | mint _ call id _ mints =>
      exact h.of_invoke live others (fun _ => before) (.inl after) reached (fun _ => mints)
  | mintLost _ call id _ _ mints _ left =>
      subst reached
      have same : c'.world = c.world := by
        rcases left with same | ⟨⟨error, lost⟩, -⟩
        · exact same
        · have minting : mintCall? (c.pending? i) = true := by
            rw [pending]
            exact mints
          have unlost := faultFree.mint minting
          rw [lost] at unlost
          cases unlost
      have holding := h.unminted i id live (.inl before)
      apply @HoldersAgree.of_write dep requests c c' i id .pending h live others (.inl same)
      · rintro ⟨⟩
      · rintro ⟨⟩
      · rw [after, before, same]
        exact fun other holds => ⟨h.known i other (by rw [before]; exact holds), .inl holds⟩
      · rw [after]
        intro other lapsed
        obtain rfl : id = other := by simpa using lapsed
        exact holding
      · simp [after]
      · simp [after]
  | redeem _ call id _ _ redeems left =>
      subst reached
      rcases left with same | invoked
      · exact h.of_read live others same (after.trans before.symm)
      · apply h.of_invoke live others _ (.inr ⟨redeems, before, after⟩) invoked
        · simp [after]
        · simp [redeems]
  | fail id data _ _ _ unrecorded failed left =>
      subst reached
      have row : (stageOf dep requests c i).row? = some id := by
        rw [before]
        rcases unrecorded with rfl | rfl <;> rfl
      have unminted : c.world.mintsFor id = 0 := by
        apply h.unminted i id live
        rw [before]
        exact unrecorded
      have left' : c'.world = c.world
          ∨ ∃ row : Transaction, row.status = .failed ∧ c'.world = c.world.put id row := by
        rcases left with same | ⟨row, -, put⟩
        · exact .inl same
        · exact .inr ⟨row.apply data, failed, put⟩
      have kept := (h.statuses.write left' (fun _ => unminted) (by rintro ⟨⟩)).2.1
      apply h.of_write live others left'
      · exact fun _ => ⟨row, unminted⟩
      · rintro ⟨⟩
      · rw [after]
        intro other holds
        obtain rfl := Option.some.inj holds
        exact ⟨kept id (h.known i id row), .inl row⟩
      · rw [after]
        intro other lapsed
        obtain rfl : id = other := by simpa using lapsed
        exact unminted
      · simp [after]
      · simp [after]
  | complete id data row _ _ stages completed =>
      have minted : c.world.mintsFor id ≠ 0 := by
        apply h.minted i id
        rw [before]
        exact stages
      have held : (stageOf dep requests c i).row? = some id := by
        rw [before]
        rcases stages with rfl | rfl <;> rfl
      apply h.of_write live others (.inr ⟨_, completed, reached⟩)
      · rintro ⟨⟩
      · exact fun _ => minted
      · rw [after, reached]
        intro other holds
        obtain rfl := Option.some.inj holds
        exact ⟨mem_put.mpr (.inl rfl), .inl held⟩
      all_goals simp [after]
  | completeLost id data _ _ _ _ stages completed refused left =>
      subst reached
      have held : (stageOf dep requests c i).row? = some id := by
        rw [before]
        rcases stages with ⟨rfl, -⟩ | ⟨rfl, -⟩ <;> rfl
      have failing : x.outcome ≠ .done := by
        rcases refused with refused | absent
        · exact refused
        · exact absurd (h.known i id held) absent
      have excluded : ¬ lastCompletion? (requestAt requests i) (stageOf dep requests c i)
          (c.pending? i) = true :=
        fun last => failing (faultFree.completion last)
      rw [pending, before] at excluded
      -- only the first of the two attempts of `mintFromUsdcInternal` may fail
      have first : (requestAt requests i).isUsdc = true ∧ stage = .minted id
          ∧ stage' = .compensating id := by
        rcases stages with ⟨rfl, rfl⟩ | ⟨rfl, rfl⟩
        · by_cases usdc : (requestAt requests i).isUsdc = true
          · exact ⟨usdc, rfl, by simp [usdc]⟩
          · simp [lastCompletion?, completed, usdc] at excluded
        · simp [lastCompletion?, completed] at excluded
      obtain ⟨-, rfl, rfl⟩ := first
      have minted := h.minted i id (.inl before)
      have left' : c'.world = c.world
          ∨ ∃ row : Transaction, row.status = .completed ∧ c'.world = c.world.put id row := by
        rcases left with same | ⟨row, -, put⟩
        · exact .inl same
        · exact .inr ⟨row.apply data, completed, put⟩
      have kept := (h.statuses.write left' (by rintro ⟨⟩) (fun _ => minted)).2.1
      apply h.of_write live others left'
      · rintro ⟨⟩
      · exact fun _ => minted
      · rw [after]
        intro other holds
        obtain rfl := Option.some.inj holds
        exact ⟨kept id (h.known i id held), .inl held⟩
      · simp [after]
      · rw [after]
        intro other compensating
        obtain rfl : id = other := by simpa using compensating
        exact minted
      · simp [after]
  | auditLost id _ _ _ confirm refused =>
      have auditing : auditCall? (c.pending? i) = true := by
        rw [pending]
        rfl
      exact absurd (faultFree.audit auditing confirm) refused

theorem holdersAgree_initial {transactions : AList (fun _ : TxId => Transaction)}
    : HoldersAgree dep requests (initialConfig dep requests transactions) := by
  have nobody : ∀ i, (stageOf dep requests (initialConfig dep requests transactions) i).row?
      = none := by
    intro i
    rw [stageOf_initial, start_row?]
  have noStage : ∀ i id stage, stageOf dep requests (initialConfig dep requests transactions) i
      = stage → stage.row? ≠ some id := by
    rintro i id _ rfl
    simp [nobody i]
  constructor
  · constructor
    · exact fun id minted => absurd rfl minted
    · intro id status written
      cases written
    · intro id written
      cases written
    · exact fun _ _ => rfl
    · trivial
  · intro i id holds
    simp [nobody i] at holds
  · intro i _ id _ _ holds
    simp [nobody i] at holds
  · rintro i id _ (holds | lapsed)
    · exact absurd rfl (noStage i id _ holds)
    · exact absurd rfl (noStage i id _ lapsed)
  · rintro i id (minted | compensating)
    · exact absurd rfl (noStage i id _ minted)
    · exact absurd rfl (noStage i id _ compensating)
  · exact fun i id _ holds => absurd rfl (noStage i id _ holds)

/-- In a fault-free run a failed row was never minted, and a completed one never fails. -/
theorem failed_of_faultFree (dep : Deployment) (requests : List MintRequest)
    (transactions : AList (fun _ : TxId => Transaction)) (c : MintConfig)
    (reached : Config.Reaches mintSemantics (FaultFree dep requests)
      (initialConfig dep requests transactions) c)
    : (∀ id, c.world.statusOf id = some .failed → c.world.mintsFor id = 0)
      ∧ NeverFailedAfterCompleted c.world.statusWrites := by
  have invariant := Protocol.Governs.invariant (J := HoldersAgree dep requests)
    (@governed_initial dep requests transactions)
    holdersAgree_initial
    (fun _ _ _ _ governed h faultFree stepped => h.step governed faultFree stepped) reached
  exact ⟨invariant.2.statuses.failed, invariant.2.statuses.history⟩

/-- A deposit whose contract call fails without an effect. -/
theorem failed_of_faultFree_deposit
    : ∃ c, Config.Reaches mintSemantics (FaultFree sampleDeployment [.deposit sampleDeposit])
          (initialConfig sampleDeployment [.deposit sampleDeposit] ∅) c
        ∧ c.world.statusOf "t1" = some .failed
        ∧ c.world.mintsFor "t1" = 0 := by
  have executed :
      ((initialConfig sampleDeployment [.deposit sampleDeposit] ∅).run mintSemantics
        (FaultFree sampleDeployment [.deposit sampleDeposit])
        (List.replicate 8 (0, sampleChoice)
          ++ [(0, { sampleChoice with outcome := .failed (.error "simulation") })]
          ++ List.replicate 3 (0, sampleChoice))).map
        (fun c => c.world.statusOf "t1") = some (some .failed) := by
    decide +kernel
  obtain ⟨c, reached, failed⟩ := Config.reaches_of_run executed
  exact ⟨c, reached, failed, (failed_of_faultFree _ _ _ c reached).1 "t1" failed⟩

/-- A deposit whose contract call times out after it was applied ends as failed. -/
theorem failed_and_minted
    : ∃ c, Config.Reaches mintSemantics Config.anyStep
          (initialConfig sampleDeployment [.deposit sampleDeposit] ∅) c
        ∧ (c.live 0, c.world.statusOf "t1", c.world.mintsFor "t1")
          = (false, some .failed, 1) := by
  have executed :
      ((initialConfig sampleDeployment [.deposit sampleDeposit] ∅).run mintSemantics
        Config.anyStep
        (List.replicate 8 (0, sampleChoice)
          ++ [(0, { sampleChoice with outcome := .lost (.error "timed out") })]
          ++ List.replicate 3 (0, sampleChoice))).map
        (fun c => (c.live 0, c.world.statusOf "t1", c.world.mintsFor "t1"))
        = some (false, some .failed, 1) := by
    decide +kernel
  exact Config.reaches_of_run executed

end AcbuBackend.Mint

import AcbuBackend.Mint.MintSteps

/-! At most one mint for a row.
The status of a row does not say whether a request is at work on it: a deposit mints while
its row is still pending, and a confirmation marks a row whatever has become of it since it
was read. Where no confirmation does so for a row that was minted or is being minted, every
row is minted at most once.
-/

namespace AcbuBackend.Mint

open Effects AcbuBackend.Runtime

variable {dep : Deployment} {requests : List MintRequest}

def claimedRow? : Option MintOp → Option TxId
  | some (.updateTransaction id data) => if data.status = .processing then some id else none
  | _ => none

/-- A confirmation that marks its row as processing is alone with it: nothing was minted for
the row, and no other request has a mint for it ahead.
-/
def ClaimsAlone (dep : Deployment) (requests : List MintRequest) (c : MintConfig) (i : Nat)
    (_ : Choice)
    : Prop :=
  ∀ id, claimedRow? (c.pending? i) = some id →
    c.world.mintsFor id = 0 ∧ ∀ j, j ≠ i → stageOf dep requests c j ≠ .holding id

instance (c : MintConfig) (i : Nat) (x : Choice)
    : Decidable (ClaimsAlone dep requests c i x) :=
  match claimed : claimedRow? (c.pending? i) with
  | none => .isTrue (fun id same => by rw [claimed] at same; cases same)
  | some id =>
      decidable_of_iff
        (c.world.mintsFor id = 0
          ∧ ∀ j < c.threads.length, j ≠ i → stageOf dep requests c j ≠ .holding id)
        (by
          unfold ClaimsAlone
          rw [claimed]
          constructor
          · rintro ⟨unminted, free⟩ other same
            obtain rfl := Option.some.inj same
            refine ⟨unminted, fun j different holds => ?_⟩
            by_cases bound : j < c.threads.length
            · exact free j bound different holds
            · have row := start_row? (requestAt requests j)
              have absent : c.threads[j]? = none := by simpa using bound
              rw [← @stageOf_of_none dep requests c j absent, holds] at row
              cases row
          · intro alone
            obtain ⟨unminted, free⟩ := alone id rfl
            exact ⟨unminted, fun j _ => free j⟩)

/-- A row has a mint behind it or one request with a mint ahead, never two of these. -/
structure SingleMint (dep : Deployment) (requests : List MintRequest) (c : MintConfig) : Prop where
  known : ∀ i id, stageOf dep requests c i = .holding id → id ∈ c.world.transactions
  mintedKnown : ∀ id, c.world.mintsFor id ≠ 0 → id ∈ c.world.transactions
  unminted : ∀ i id, stageOf dep requests c i = .holding id → c.world.mintsFor id = 0
  alone : ∀ i j id,
    stageOf dep requests c i = .holding id → stageOf dep requests c j = .holding id → i = j
  once : ∀ id, c.world.mintsFor id ≤ 1

theorem stage_cases {c c' : MintConfig} {i : Nat} {stage : Stage}
    (own : stageOf dep requests c' i = stage)
    (others : ∀ j, j ≠ i → stageOf dep requests c' j = stageOf dep requests c j) (j : Nat)
    : j = i ∧ stageOf dep requests c' j = stage
      ∨ j ≠ i ∧ stageOf dep requests c' j = stageOf dep requests c j := by
  by_cases same : j = i
  · subst same
    exact .inl ⟨rfl, own⟩
  · exact .inr ⟨same, others j same⟩

theorem SingleMint.of_quiet {c c' : MintConfig} (h : SingleMint dep requests c)
    (stages : ∀ j id, stageOf dep requests c' j = .holding id
      → stageOf dep requests c j = .holding id)
    (kept : ∀ id, id ∈ c.world.transactions → id ∈ c'.world.transactions)
    (mints : ∀ id, c'.world.mintsFor id = c.world.mintsFor id)
    : SingleMint dep requests c' where
  known j id held := kept id (h.known j id (stages j id held))
  mintedKnown id minted := kept id (h.mintedKnown id (mints id ▸ minted))
  unminted j id held := (mints id).trans (h.unminted j id (stages j id held))
  alone j k id first second := h.alone j k id (stages j id first) (stages k id second)
  once id := mints id ▸ h.once id

theorem SingleMint.of_hold {c c' : MintConfig} {i : Nat} {id : TxId} (h : SingleMint dep requests c)
    (own : stageOf dep requests c' i = .holding id)
    (others : ∀ j, j ≠ i → stageOf dep requests c' j = stageOf dep requests c j)
    (written : ∃ row, c'.world = c.world.put id row)
    (unminted : c.world.mintsFor id = 0)
    (free : ∀ j, j ≠ i → stageOf dep requests c j ≠ .holding id)
    : SingleMint dep requests c' := by
  obtain ⟨row, written⟩ := written
  have mints : ∀ other, c'.world.mintsFor other = c.world.mintsFor other := by
    intro other
    rw [written, mintsFor_put]
  have kept : ∀ other, other ∈ c.world.transactions → other ∈ c'.world.transactions := by
    intro other member
    rw [written, mem_put]
    exact .inr member
  have held : ∀ j other, stageOf dep requests c' j = .holding other →
      j = i ∧ other = id ∨ j ≠ i ∧ stageOf dep requests c j = .holding other := by
    intro j other holds
    rcases stage_cases own others j with ⟨same, mine⟩ | ⟨different, theirs⟩
    · rw [mine] at holds
      exact .inl ⟨same, (Stage.holding.inj holds).symm⟩
    · exact .inr ⟨different, theirs ▸ holds⟩
  constructor
  · intro j other holds
    rcases held j other holds with ⟨_, rfl⟩ | ⟨_, before⟩
    · rw [written, mem_put]
      exact .inl rfl
    · exact kept other (h.known j other before)
  · exact fun other minted => kept other (h.mintedKnown other (mints other ▸ minted))
  · intro j other holds
    rw [mints]
    rcases held j other holds with ⟨_, rfl⟩ | ⟨_, before⟩
    · exact unminted
    · exact h.unminted j other before
  · intro j k other first second
    rcases held j other first with ⟨rfl, rfl⟩ | ⟨apart, before⟩
    · rcases held k other second with ⟨rfl, _⟩ | ⟨apart, before⟩
      · rfl
      · exact absurd before (free k apart)
    · rcases held k other second with ⟨rfl, rfl⟩ | ⟨_, before'⟩
      · exact absurd before (free j apart)
      · exact h.alone j k other before before'
  · exact fun other => mints other ▸ h.once other

theorem SingleMint.of_mint {c c' : MintConfig} {i : Nat} {id : TxId} {call : ContractCall}
    (h : SingleMint dep requests c)
    (held : stageOf dep requests c i = .holding id)
    (released : ∀ other, stageOf dep requests c' i ≠ .holding other)
    (others : ∀ j, j ≠ i → stageOf dep requests c' j = stageOf dep requests c j)
    (left : c'.world = c.world ∨ c'.world = c.world.invoke call id)
    : SingleMint dep requests c' := by
  have rows : c'.world.transactions = c.world.transactions := by
    rcases left with same | invoked
    · rw [same]
    · rw [invoked, transactions_invoke]
  have mints : ∀ other, other ≠ id → c'.world.mintsFor other = c.world.mintsFor other := by
    intro other different
    rcases left with same | invoked
    · rw [same]
    · rw [invoked, mintsFor_invoke]
      simp [different.symm]
  have first : c'.world.mintsFor id ≤ 1 := by
    have before := h.unminted i id held
    rcases left with same | invoked
    · rw [same]
      omega
    · rw [invoked, mintsFor_invoke, before]
      split <;> omega
  have before : ∀ j other, stageOf dep requests c' j = .holding other →
      stageOf dep requests c j = .holding other ∧ other ≠ id := by
    intro j other holds
    have different : j ≠ i := by
      rintro rfl
      exact released other holds
    have earlier : stageOf dep requests c j = .holding other := others j different ▸ holds
    refine ⟨earlier, ?_⟩
    rintro rfl
    exact different (h.alone j i other earlier held)
  constructor
  · intro j other holds
    rw [rows]
    exact h.known j other (before j other holds).1
  · intro other minted
    rw [rows]
    by_cases same : other = id
    · subst other
      exact h.known i id held
    · exact h.mintedKnown other (mints other same ▸ minted)
  · intro j other holds
    obtain ⟨earlier, different⟩ := before j other holds
    rw [mints other different]
    exact h.unminted j other earlier
  · intro j k other one two
    exact h.alone j k other (before j other one).1 (before k other two).1
  · intro other
    by_cases same : other = id
    · exact same ▸ first
    · rw [mints other same]
      exact h.once other

theorem kept_of_left {w w' : World} {id : TxId} (left : w' = w ∨ ∃ row, w' = w.put id row)
    : (∀ other, other ∈ w.transactions → other ∈ w'.transactions)
      ∧ ∀ other, w'.mintsFor other = w.mintsFor other := by
  rcases left with rfl | ⟨row, rfl⟩
  · exact ⟨fun _ member => member, fun _ => rfl⟩
  · exact ⟨fun other member => mem_put.mpr (.inr member), fun _ => mintsFor_put⟩

theorem SingleMint.step {c c' : MintConfig} {i : Nat} {x : Choice}
    (governed : Governed dep requests c) (h : SingleMint dep requests c)
    (claims : ClaimsAlone dep requests c i x) (stepped : c.step mintSemantics i x = some c')
    : SingleMint dep requests c' := by
  obtain ⟨event, _, pending, move, _, rest⟩ := mint_step governed stepped
  have others : ∀ j, j ≠ i → stageOf dep requests c' j = stageOf dep requests c j :=
    fun j different => (rest j different).1
  -- a stage that holds nothing makes the step quiet, whatever row was written
  have quiet : (∀ other, stageOf dep requests c' i = .holding other →
        stageOf dep requests c i = .holding other) →
      ∀ id, (c'.world = c.world ∨ ∃ row, c'.world = c.world.put id row) →
        SingleMint dep requests c' := by
    intro own id left
    obtain ⟨kept, mints⟩ := kept_of_left left
    apply h.of_quiet _ kept mints
    intro j other holds
    by_cases same : j = i
    · subst same
      exact own other holds
    · exact others j same ▸ holds
  generalize before : stageOf dep requests c i = stage at move
  generalize after : stageOf dep requests c' i = stage' at move
  generalize reached : c'.world = w' at move
  cases move with
  | read => exact quiet (by simp [before, after]) "" (.inl reached)
  | verify => exact quiet (by simp [after]) "" (.inl reached)
  | create data _ fresh =>
      apply h.of_hold after others ⟨data, reached⟩
      · by_contra minted
        exact fresh (h.mintedKnown _ minted)
      · exact fun j _ holds => fresh (h.known j _ holds)
  | createLost data _ _ _ _ left =>
      subst reached
      exact quiet (by simp [after]) x.freshId (left.imp_right (fun put => ⟨data, put⟩))
  | claim id data row _ processing =>
      have claimed : claimedRow? (c.pending? i) = some id := by
        rw [pending]
        simp [claimedRow?, processing]
      obtain ⟨unminted, free⟩ := claims id claimed
      exact h.of_hold after others ⟨_, reached⟩ unminted free
  | claimLost id data _ _ _ left =>
      subst reached
      exact quiet (by simp [after]) id (left.imp_right (fun ⟨_, _, put⟩ => ⟨_, put⟩))
  | mint _ call id =>
      exact h.of_mint before (by simp [after]) others (.inr reached)
  | mintLost _ call id _ _ _ _ left =>
      subst reached
      exact h.of_mint before (by simp [after]) others (left.imp_right And.right)
  | redeem _ call id _ _ redeems left =>
      subst reached
      apply h.of_quiet
      · intro j other holds
        rcases stage_cases after others j with ⟨_, mine⟩ | ⟨_, theirs⟩
        · rw [mine] at holds
          cases holds
        · exact theirs ▸ holds
      · intro other member
        rcases left with same | invoked
        · exact same ▸ member
        · exact invoked ▸ member
      · intro other
        rcases left with same | invoked
        · rw [same]
        · rw [invoked, mintsFor_invoke]
          simp [redeems]
  | fail id data _ _ _ _ _ left =>
      subst reached
      exact quiet (by simp [after]) id (left.imp_right (fun ⟨_, _, put⟩ => ⟨_, put⟩))
  | complete id data row => exact quiet (by simp [after]) id (.inr ⟨_, reached⟩)
  | completeLost id data _ _ _ _ minted _ _ left =>
      subst reached
      refine quiet ?_ id (left.imp_right (fun ⟨_, _, put⟩ => ⟨_, put⟩))
      rcases minted with ⟨_, rfl⟩ | ⟨_, rfl⟩
      · intro other holds
        rw [after] at holds
        split at holds <;> cases holds
      · simp [after]
  | auditLost => exact quiet (by simp [after]) "" (.inl reached)

theorem singleMint_initial {transactions : AList (fun _ : TxId => Transaction)}
    : SingleMint dep requests (initialConfig dep requests transactions) := by
  have nobody : ∀ i id,
      stageOf dep requests (initialConfig dep requests transactions) i ≠ .holding id := by
    intro i id holds
    have row := start_row? (requestAt requests i)
    rw [← @stageOf_initial dep requests transactions, holds] at row
    cases row
  have none : ∀ id, (initialConfig dep requests transactions).world.mintsFor id = 0 := fun _ => rfl
  constructor
  · exact fun i id holds => absurd holds (nobody i id)
  · exact fun id minted => absurd (none id) minted
  · exact fun i id holds => absurd holds (nobody i id)
  · exact fun i _ id holds => absurd holds (nobody i id)
  · exact fun id => (none id).le.trans (Nat.zero_le 1)

/-- In a run whose confirmations mark their rows alone, no row is minted twice. -/
theorem mintsFor_le_one (dep : Deployment) (requests : List MintRequest)
    (transactions : AList (fun _ : TxId => Transaction)) (c : MintConfig)
    (reached : Config.Reaches mintSemantics (ClaimsAlone dep requests)
      (initialConfig dep requests transactions) c)
    (id : TxId)
    : c.world.mintsFor id ≤ 1 := by
  have invariant := Protocol.Governs.invariant (J := SingleMint dep requests)
    (@governed_initial dep requests transactions)
    singleMint_initial
    (fun _ _ _ _ governed h claims stepped => h.step governed claims stepped) reached
  exact invariant.2.once id

/-- Of two confirmations of a pending row, the second reads the row when the first has completed it.
-/
theorem mintsFor_le_one_confirm
    : ∃ c, Config.Reaches mintSemantics (ClaimsAlone sampleDeployment
        [.confirm (sampleConfirm "100"), .confirm (sampleConfirm "100")])
          (initialConfig sampleDeployment
            [.confirm (sampleConfirm "100"), .confirm (sampleConfirm "100")]
            (AList.singleton "t1" sampleRow)) c
        ∧ c.live 1 = false
        ∧ c.world.mintsFor "t1" = 1
        ∧ c.world.mintsFor "t1" ≤ 1 := by
  have executed :
      ((initialConfig sampleDeployment
          [.confirm (sampleConfirm "100"), .confirm (sampleConfirm "100")]
          (AList.singleton "t1" sampleRow)).run mintSemantics
        (ClaimsAlone sampleDeployment
          [.confirm (sampleConfirm "100"), .confirm (sampleConfirm "100")])
        ((1, sampleChoice) :: List.replicate 9 (0, sampleChoice) ++ [(1, sampleChoice)])).map
        (fun c => (c.live 1, c.world.mintsFor "t1")) = some (false, 1) := by
    decide +kernel
  obtain ⟨c, reached, read⟩ := Config.reaches_of_run executed
  obtain ⟨ended, minted⟩ := Prod.mk.inj read
  exact ⟨c, reached, ended, minted, mintsFor_le_one _ _ _ c reached "t1"⟩

/-- A deposit and a confirmation of its row, which is read while the deposit is at work on
it, both mint.
-/
theorem mintsFor_two
    : ∃ c, Config.Reaches mintSemantics Config.anyStep
          (initialConfig sampleDeployment [.deposit sampleDeposit,
            .confirm (sampleConfirm "100")] ∅)
          c
        ∧ c.world.mintsFor "t1" = 2 := by
  have executed :
      ((initialConfig sampleDeployment [.deposit sampleDeposit, .confirm (sampleConfirm "100")]
          ∅).run mintSemantics Config.anyStep
        (List.replicate 5 (0, sampleChoice) ++ List.replicate 9 (1, sampleChoice)
          ++ List.replicate 4 (0, sampleChoice))).map
        (fun c => c.world.mintsFor "t1") = some 2 := by
    decide +kernel
  exact Config.reaches_of_run executed

end AcbuBackend.Mint

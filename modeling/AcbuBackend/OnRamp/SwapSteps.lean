import AcbuBackend.Mint.MintSteps
import AcbuBackend.OnRamp.SwapProtocol

/-! What one step of a run of the on-ramp does to the swaps and to a stage. -/

namespace AcbuBackend.OnRamp

open Effects AcbuBackend.Runtime Mint

/-- The parts of the world a swap is settled in are unchanged. -/
structure SameSwaps (w w' : World) : Prop where
  swaps : w'.swaps = w.swaps
  converted : w'.converted = w.converted
  minted : w'.minted = w.minted

theorem SameSwaps.refl (w : World) : SameSwaps w w := ⟨rfl, rfl, rfl⟩

/-- An update of a row was applied, or was not. -/
def Updated (w w' : World) (id : SwapId) (data : SwapUpdate) : Prop :=
  w' = w ∨ ∃ row, w.swaps.lookup id = some row ∧ w' = w.put id (row.apply data)

/-- A call of a party, with the world it changed and the stage it led to. -/
inductive SwapMove (x : Choice) (w : World) : World → OnRampOp → Stage → Stage → Prop
  | quiet (op : OnRampOp) (w' : World) (stage : Stage) (same : SameSwaps w w')
      : SwapMove x w w' op stage stage
  | create (data : OnRampSwap) (stage : Stage) (fresh : x.freshSwapId ∉ w.swaps)
      : SwapMove x w (w.put x.freshSwapId data) (.createSwap data) stage stage
  | claim (id : SwapId) (source : Option SwapSource) (row : OnRampSwap)
      (found : w.swaps.lookup id = some row) (claimable : row.claimable source = true)
      : SwapMove x w (w.put id { row with status := .processing }) (.claimSwap id source)
          .idle (.claimed id source.isSome)
  | claimLost (id : SwapId) (source : Option SwapSource) (row : OnRampSwap)
      (found : w.swaps.lookup id = some row) (claimable : row.claimable source = true)
      : SwapMove x w (w.put id { row with status := .processing }) (.claimSwap id source)
          .idle .idle
  | load (id : SwapId) (converts : Bool) (row : OnRampSwap)
      (found : w.swaps.lookup id = some row)
      : SwapMove x w w (.findSwap id) (.claimed id converts) (afterFind id converts (some row))
  | convert (id : SwapId) (usdcAmount : ℚ) (w' : World)
      (left : w' = w ∨ w' = { w with converted := id :: w.converted })
      : SwapMove x w w' (.swapUsdcToXlm id usdcAmount) (.converting id) (.minting id)
  | mint (id : SwapId) (op : MintOp) (w' : World) (swaps : w'.swaps = w.swaps)
      (converted : w'.converted = w.converted)
      (left : w'.minted = w.minted ∨ w'.minted = id :: w.minted)
      : SwapMove x w w' (.mint (some id) op) (.minting id) (.spent id)
  | record (id : SwapId) (data : SwapUpdate) (w' : World) (stage : Stage)
      (held : stage.swap? = some id)
      (keeps : data.status = none ∨ data.status = some .completed)
      (left : Updated w w' id data)
      : SwapMove x w w' (.updateSwap id data) stage stage
  | release (id : SwapId) (data : SwapUpdate) (w' : World) (stage : Stage)
      (held : stage.swap? = some id)
      (ends : data.status = some .failed ∨ data.status = some .pending_convert)
      (left : Updated w w' id data)
      : SwapMove x w w' (.updateSwap id data) stage .over

section

variable {i : Nat} {x : Choice} {w w' : World}

theorem act_same {op : OnRampOp} {reply : onRampInterface.Reply op}
    (h : onRampSemantics.act i op x w = some (reply, w'))
    (keeps : SameSwaps w (effect x w op).2)
    : SameSwaps w w' := by
  obtain ⟨-, answered⟩ := act_eq_some h
  rcases Outcome.answer_world answered with rfl | rfl
  · exact .refl w'
  · exact keeps

theorem act_create {data : OnRampSwap} {reply : Except JsError SwapId}
    (h : onRampSemantics.act i (.createSwap data) x w = some (reply, w'))
    : x.freshSwapId ∉ w.swaps ∧ (w' = w ∨ w' = w.put x.freshSwapId data) := by
  obtain ⟨fresh, answered⟩ := act_eq_some h
  refine ⟨by simpa [admissible] using fresh, ?_⟩
  rcases Outcome.answer_world answered with same | changed
  · exact .inl same
  · simp only [effect, World.create] at changed
    split at changed
    · exact .inl changed
    · exact .inr changed

theorem act_claim {id : SwapId} {source : Option SwapSource} {reply : Except JsError Nat}
    (h : onRampSemantics.act i (.claimSwap id source) x w = some (reply, w'))
    : (w' = w ∧ ∀ n, reply = .ok n → n = 0)
      ∨ ∃ row, w.swaps.lookup id = some row ∧ row.claimable source = true
          ∧ w' = w.put id { row with status := .processing } := by
  obtain ⟨-, answered⟩ := act_eq_some h
  have unmatched : World.claim w id source = (.ok 0, w) → w' = w ∧ ∀ n, reply = .ok n → n = 0 := by
    intro nothing
    simp only [effect, nothing] at answered
    refine ⟨?_, ?_⟩
    · rcases Outcome.answer_world answered with same | same <;> exact same
    · intro n counted
      rw [counted] at answered
      obtain ⟨-, taken⟩ := Outcome.answer_ok answered
      exact (Except.ok.inj (congrArg Prod.fst taken)).symm
  cases found : w.swaps.lookup id with
  | none => exact .inl (unmatched (by simp [World.claim, found]))
  | some row =>
      by_cases claimable : row.claimable source = true
      · have changed : World.claim w id source = (.ok 1,
            w.put id { row with status := .processing }) := by
          simp [World.claim, found, claimable]
        simp only [effect, changed] at answered
        cases reply with
        | ok n =>
            obtain ⟨-, taken⟩ := Outcome.answer_ok answered
            exact .inr ⟨row, rfl, claimable, (congrArg Prod.snd taken).symm⟩
        | error error =>
            rcases Outcome.answer_world answered with same | put
            · exact .inl ⟨same, by simp⟩
            · exact .inr ⟨row, rfl, claimable, put⟩
      · exact .inl (unmatched (by simp [World.claim, found, claimable]))

theorem act_update {id : SwapId} {data : SwapUpdate} {reply : Except JsError Unit}
    (h : onRampSemantics.act i (.updateSwap id data) x w = some (reply, w'))
    : Updated w w' id data := by
  obtain ⟨-, answered⟩ := act_eq_some h
  rcases Outcome.answer_world answered with same | changed
  · exact .inl same
  · cases found : w.swaps.lookup id with
    | none => exact .inl (by simpa [effect, World.update, found] using changed)
    | some row => exact .inr ⟨row, found, by simpa [effect, World.update, found] using changed⟩

theorem act_find {id : SwapId} {reply : Except JsError (Option OnRampSwap)}
    (h : onRampSemantics.act i (.findSwap id) x w = some (reply, w'))
    : w' = w ∧ ∀ found, reply = .ok found → w.swaps.lookup id = found := by
  obtain ⟨-, answered⟩ := act_eq_some h
  refine ⟨?_, ?_⟩
  · rcases Outcome.answer_world answered with same | same <;> exact same
  · rintro found rfl
    obtain ⟨-, taken⟩ := Outcome.answer_ok answered
    exact Except.ok.inj (congrArg Prod.fst taken)

theorem act_invoke {id : SwapId} {op : MintOp} {reply : onRampInterface.Reply (.mint (some id) op)}
    (h : onRampSemantics.act i (.mint (some id) op) x w = some (reply, w'))
    : w'.swaps = w.swaps ∧ w'.converted = w.converted
      ∧ (w'.minted = w.minted ∨ w'.minted = (mintedFor? (some id) op).toList ++ w.minted) := by
  obtain ⟨-, answered⟩ := act_eq_some h
  rcases Outcome.answer_world answered with rfl | rfl
  · exact ⟨rfl, rfl, .inl rfl⟩
  · exact ⟨rfl, rfl, .inr rfl⟩

theorem act_broker {op : OnRampOp} {reply : onRampInterface.Reply op}
    (h : onRampSemantics.act i op x w = some (reply, w'))
    : (w'.queue = w.queue ∧ w'.published = w.published)
      ∨ (∃ message, op = .sendToQueue message
          ∧ w'.queue = message :: w.queue ∧ w'.published = message.payload :: w.published)
      ∨ ∃ message, (op = .ack message ∨ op = .nack message)
          ∧ w'.queue = w.queue.erase message ∧ w'.published = w.published := by
  obtain ⟨-, answered⟩ := act_eq_some h
  rcases Outcome.answer_world answered with rfl | rfl
  · exact .inl ⟨rfl, rfl⟩
  · cases op with
    | sendToQueue message => exact .inr (.inl ⟨message, rfl, rfl, rfl⟩)
    | ack message => exact .inr (.inr ⟨message, .inl rfl, rfl, rfl⟩)
    | nack message => exact .inr (.inr ⟨message, .inr rfl, rfl, rfl⟩)
    | createSwap data =>
        simp only [effect, World.create]
        split <;> exact .inl ⟨rfl, rfl⟩
    | claimSwap id source =>
        simp only [effect, World.claim]
        split
        · exact .inl ⟨rfl, rfl⟩
        · split <;> exact .inl ⟨rfl, rfl⟩
    | updateSwap id data =>
        simp only [effect, World.update]
        split <;> exact .inl ⟨rfl, rfl⟩
    | _ => exact .inl ⟨rfl, rfl⟩

theorem act_queue {op : OnRampOp} {reply : onRampInterface.Reply op}
    (h : onRampSemantics.act i op x w = some (reply, w'))
    : ∀ message ∈ w'.queue, message ∈ w.queue ∨ op = .sendToQueue message := by
  intro message queued
  rcases act_broker h with ⟨same, -⟩ | ⟨sent, rfl, added, -⟩ | ⟨_, -, erased, -⟩
  · exact .inl (same ▸ queued)
  · rw [added] at queued
    rcases List.mem_cons.mp queued with rfl | before
    · exact .inr rfl
    · exact .inl before
  · exact .inl (List.mem_of_mem_erase (erased ▸ queued))

theorem act_receive {queue : Queue} {message : Message}
    (h : onRampSemantics.act i (.receive queue) x w = some (.ok message, w'))
    : message ∈ w.queue ∧ message.payload.queue = queue := by
  obtain ⟨possible, answered⟩ := act_eq_some h
  obtain ⟨-, taken⟩ := Outcome.answer_ok answered
  have same : x.message = message := Except.ok.inj (congrArg Prod.fst taken)
  simp only [admissible, decide_eq_true_eq] at possible
  exact same ▸ possible.2

/-- What the protocol and the environment together make of a call. Witness: case analysis
on the call.
-/
theorem SwapMove.of_act {op : OnRampOp} {reply : onRampInterface.Reply op} {stage stage' : Stage}
    (answered : onRampSemantics.act i op x w = some (reply, w'))
    (next : nextStage stage op reply = some stage')
    : SwapMove x w w' op stage stage' := by
  cases op with
  | mint onRampSwapId op =>
      by_cases mints : ∃ sourceAccount call row id,
          op = .invokeContract sourceAccount call row ∧ call.isMint = true ∧ onRampSwapId = some id
      · obtain ⟨sourceAccount, call, row, id, rfl, mints, rfl⟩ := mints
        obtain ⟨swaps, converted, left⟩ := act_invoke answered
        simp only [nextStage, afterMintCall, mints, if_true] at next
        split at next
        · rename_i minting
          subst minting
          obtain rfl := Option.some.inj next
          exact .mint id _ w' swaps converted (by simpa [mintedFor?, mints] using left)
        · cases next
      · have none : mintedFor? onRampSwapId op = none := by
          unfold mintedFor?
          split
          · rename_i id sourceAccount call row
            split
            · rename_i isMint
              exact absurd ⟨sourceAccount, call, row, id, rfl, isMint, rfl⟩ mints
            · rfl
          · rfl
        have stays : stage' = stage := by
          simp only [nextStage] at next
          unfold afterMintCall at next
          split at next
          · rename_i sourceAccount call row id
            split at next
            · rename_i isMint
              exact absurd ⟨sourceAccount, call, row, id, rfl, isMint, rfl⟩ mints
            · exact (Option.some.inj next).symm
          · cases next
          · exact (Option.some.inj next).symm
        subst stays
        exact .quiet _ w' stage' (act_same answered ⟨rfl,
          rfl, by simp [effect, World.afterMint, none]⟩)
  | createSwap data =>
      obtain ⟨fresh, left⟩ := act_create answered
      obtain rfl := Option.some.inj next
      rcases left with rfl | rfl
      · exact .quiet _ w' stage (.refl w')
      · exact .create data stage fresh
  | claimSwap id source =>
      simp only [nextStage] at next
      split at next
      · rename_i idle
        subst idle
        rcases act_claim answered with ⟨rfl, uncounted⟩ | ⟨row, found, claimable, rfl⟩
        · split at next
          · cases uncounted _ rfl
          · obtain rfl := Option.some.inj next
            exact .quiet _ w' .idle (.refl w')
        · split at next
          · obtain rfl := Option.some.inj next
            exact .claim id source row found claimable
          · obtain rfl := Option.some.inj next
            exact .claimLost id source row found claimable
      · cases next
  | findSwap id =>
      obtain ⟨rfl, read⟩ := act_find answered
      simp only [nextStage] at next
      split at next
      · rename_i claimed converts
        split at next
        · rename_i same
          subst same
          split at next
          · rename_i found
            obtain rfl := Option.some.inj next
            cases found with
            | none => exact .quiet _ w' _ (.refl w')
            | some row => exact .load claimed converts row (read _ rfl)
          · obtain rfl := Option.some.inj next
            exact .quiet _ w' _ (.refl w')
        · cases next
      · cases next
  | updateSwap id data =>
      have left := act_update answered
      simp only [nextStage, afterUpdate] at next
      split at next
      · rename_i status
        split at next
        · rename_i minting
          obtain ⟨rfl, -⟩ := minting
          obtain rfl := Option.some.inj next
          exact .record id data w' _ rfl (.inl status) left
        · cases next
      · rename_i status
        split at next
        · rename_i held
          obtain rfl := Option.some.inj next
          exact .record id data w' _ held (.inr status) left
        · cases next
      · rename_i status
        split at next
        · rename_i held
          obtain rfl := Option.some.inj next
          exact .release id data w' _ held (.inl status) left
        · cases next
      · rename_i status
        split at next
        · rename_i held
          obtain rfl := Option.some.inj next
          exact .release id data w' _ held (.inr status) left
        · cases next
      · cases next
  | swapUsdcToXlm id usdcAmount =>
      simp only [nextStage] at next
      split at next
      · rename_i converting
        subst converting
        obtain rfl := Option.some.inj next
        obtain ⟨-, taken⟩ := act_eq_some answered
        exact .convert id usdcAmount w' (Outcome.answer_world taken)
      · cases next
  | _ =>
      obtain rfl := Option.some.inj next
      exact .quiet _ w' stage (act_same answered ⟨rfl, rfl, rfl⟩)

end

-- Runs

variable {dep : Deployment} {parties : List Party}

/-- The stage party `i` has come to by its calls so far. -/
def stageOf (c : OnRampConfig) (i : Nat) : Stage :=
  swapProtocol.phase (fun _ => .idle) c i

/-- Every party keeps to the protocol. -/
abbrev Governed (c : OnRampConfig) : Prop :=
  swapProtocol.Governs (fun _ => .idle) (fun _ _ _ => True) (fun _ _ _ => True) c

theorem governed_initial {swaps : AList (fun _ : SwapId => OnRampSwap)} {queue : List Message}
    : Governed (initialConfig dep parties swaps queue) := by
  apply Protocol.governs_initial
  intro i prog found
  rw [List.getElem?_map, Option.map_eq_some_iff] at found
  obtain ⟨party, -, rfl⟩ := found
  exact wp_swapProtocol dep party

theorem stageOf_initial {swaps : AList (fun _ : SwapId => OnRampSwap)} {queue : List Message}
    (i : Nat)
    : stageOf (initialConfig dep parties swaps queue) i = .idle :=
  Protocol.phase_initial _

theorem swap_step {c c' : OnRampConfig} {i : Nat} {x : Choice}
    (governed : Governed c) (stepped : c.step onRampSemantics i x = some c')
    : ∃ op,
        c.pending? i = some op
        ∧ SwapMove x c.world c'.world op (stageOf c i) (stageOf c' i)
        ∧ ∀ j, j ≠ i → stageOf c' j = stageOf c j := by
  obtain ⟨op, reply, -, pending, answered, moved, -, others, -⟩ := governed.step_cases stepped
  exact ⟨op, pending, .of_act answered moved, fun j different => (others j different).1⟩

-- Sample swap

def sampleDeployment : Deployment :=
  { Mint.sampleDeployment with XLM_USD_RATE := none }

def sampleSwap : OnRampSwap where
  userId := "user"
  idempotencyKey := none
  stellarAddress := Mint.sampleWallet
  source := .usdc_deposit
  xlmAmount := none
  usdcAmount := some 100
  status := .pending_convert

def sampleMessage (retries : Nat) : Message :=
  { payload := .usdcConvertAndMint "s1", retries }

/-- An environment in which every call succeeds, and delivers the message as often retried. -/
def sampleChoice (retries : Nat) : Choice :=
  { Mint.sampleChoice with
    freshId := s!"t{retries}"
    message := sampleMessage retries
    swapResult := { xlmReceived := 500, txHash := "swap" }
    freshSwapId := "s1" }

def sampleFailure : Choice :=
  { sampleChoice 0 with outcome := .failed (.error "connection lost") }

end AcbuBackend.OnRamp

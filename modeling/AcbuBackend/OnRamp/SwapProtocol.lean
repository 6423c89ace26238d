import AcbuBackend.Mint.MintProtocol
import AcbuBackend.OnRamp.RequestProtocol

/-! The stages of a delivery that processes a swap.
A delivery claims one swap, converts and mints for it at most once, and may then hand it
back. Everything a request does leaves it idle.
-/

namespace AcbuBackend.OnRamp

open Effects AcbuBackend.Runtime Mint

/-- How far a delivery has come with its swap. -/
inductive Stage
  | idle
  | claimed (id : SwapId) (converts : Bool)
  | converting (id : SwapId)
  | minting (id : SwapId)
  | spent (id : SwapId)
  | over
deriving DecidableEq

/-- The swap a delivery has claimed and not handed back. -/
def Stage.swap? : Stage → Option SwapId
  | .idle | .over => none
  | .claimed id _ | .converting id | .minting id | .spent id => some id

def afterFind (id : SwapId) (converts : Bool) : Option OnRampSwap → Stage
  | some row => if converts = true ∧ row.xlmAmount = none then .converting id else .minting id
  | none => .claimed id converts

/-- The stage after a write to a row. -/
def afterUpdate (id : SwapId) (data : SwapUpdate) (stage : Stage) : Option Stage :=
  match data.status with
  | none => if stage = .minting id ∧ data.xlmAmount.isSome then some stage else none
  | some .completed => if stage.swap? = some id then some stage else none
  | some .failed | some .pending_convert => if stage.swap? = some id then some .over else none
  | some .processing => none

def afterMintCall (onRampSwapId : Option SwapId) (op : MintOp) (stage : Stage) : Option Stage :=
  match op, onRampSwapId with
  | .invokeContract _ call _, some id =>
      if call.isMint then if stage = .minting id then some (.spent id) else none
      else some stage
  | .invokeContract .., none => none
  | _, _ => some stage

def nextStage (stage : Stage) : (op : OnRampOp) → onRampInterface.Reply op → Option Stage
  | .mint onRampSwapId op, _ => afterMintCall onRampSwapId op stage
  | .claimSwap id source, reply =>
      if stage = .idle then
        match reply with
        | .ok (_ + 1) => some (.claimed id source.isSome)
        | _ => some .idle
      else none
  | .findSwap id, reply =>
      match stage with
      | .claimed claimed converts =>
          if claimed = id then
            match reply with
            | .ok found => some (afterFind id converts found)
            | .error _ => some stage
          else none
      | _ => none
  | .updateSwap id data, _ => afterUpdate id data stage
  | .swapUsdcToXlm id _, _ => if stage = .converting id then some (.minting id) else none
  | _, _ => some stage

def swapProtocol : Protocol onRampInterface Stage where
  next := nextStage

@[simp] theorem swapProtocol_next {stage : Stage} {op : OnRampOp}
    {reply : onRampInterface.Reply op}
    : swapProtocol.next stage op reply = nextStage stage op reply :=
  rfl

-- The mint code inside a job

/-- Whether a request of the mint code may still mint. -/
def mintAhead : Mint.Stage → Bool
  | .arriving | .admitted | .holding _ => true
  | _ => false

/-- Where the mint code has come inside a job. -/
def MintWithin (id : SwapId) (phase : Mint.Phase) (stage : Stage) : Prop :=
  stage = .minting id ∨ stage = .spent id ∧ mintAhead phase.stage = false

theorem afterUpdate_mintAhead {request : MintRequest} {row : TxId} {status : TransactionStatus}
    {ok : Bool} {stage stage' : Mint.Stage}
    (h : Mint.afterUpdate request row status ok stage = some stage')
    (behind : mintAhead stage = false)
    : mintAhead stage' = false := by
  cases stage with
  | arriving | admitted | holding _ => cases behind
  | recorded _ => cases h
  | minted _ | compensating _ | lapsed _ =>
      simp only [Mint.afterUpdate] at h
      split at h
      · obtain rfl := Option.some.inj h
        repeat' split
        all_goals rfl
      · cases h

theorem nextStage_mintAhead {dep : Mint.Deployment} {request : MintRequest}
    {stage stage' : Mint.Stage} {op : MintOp} {reply : mintInterface.Reply op}
    (h : Mint.nextStage dep request stage op reply = some stage')
    (behind : mintAhead stage = false)
    : mintAhead stage' = false
      ∧ ∀ sourceAccount call row, op = .invokeContract sourceAccount call row →
          call.isMint = false := by
  cases op with
  | now =>
      refine ⟨?_, by simp⟩
      cases reply with
      | error _ =>
          obtain rfl := Option.some.inj h
          exact behind
      | ok nowS =>
          obtain rfl := Option.some.inj h
          unfold afterClock
          split
          · rename_i verified
            rw [verified.1] at behind
            cases behind
          · exact behind
  | createTransaction data =>
      simp only [Mint.nextStage] at h
      split at h
      · rename_i created
        rw [created.1] at behind
        cases behind
      · cases h
  | updateTransaction row data => exact ⟨afterUpdate_mintAhead h behind, by simp⟩
  | logAudit entityId action =>
      refine ⟨?_, by simp⟩
      simp only [Mint.nextStage, afterAudit] at h
      cases stage with
      | recorded _ =>
          obtain rfl := Option.some.inj h
          split <;> rfl
      | lapsed _ =>
          obtain rfl := Option.some.inj h
          rfl
      | _ => cases h
  | invokeContract sourceAccount call row =>
      simp only [Mint.nextStage] at h
      cases stage with
      | compensating _ =>
          simp only [afterInvoke] at h
          split at h
          · rename_i redeems
            obtain rfl := Option.some.inj h
            refine ⟨rfl, ?_⟩
            intro _ _ _ same
            cases same
            simpa using redeems.1
          · cases h
      | arriving | admitted | holding _ => cases behind
      | _ => cases h
  | _ =>
      obtain rfl := Option.some.inj h
      exact ⟨behind, by simp⟩

theorem mintWithin_step {dep : Mint.Deployment} {id : SwapId} {phase phase' : Mint.Phase}
    {stage : Stage} {op : MintOp} {reply : mintInterface.Reply op}
    (h : MintWithin id phase stage) (moved : (mintProtocol dep).next phase op reply = some phase')
    : ∃ stage', afterMintCall (some id) op stage = some stage' ∧ MintWithin id phase' stage' := by
  rw [mintProtocol_next] at moved
  obtain ⟨next, inner, rfl⟩ := Option.map_eq_some_iff.mp moved
  rcases h with rfl | ⟨rfl, behind⟩
  · cases op with
    | invokeContract sourceAccount call row =>
        cases mints : call.isMint with
        | false => exact ⟨.minting id, by simp [afterMintCall, mints], .inl rfl⟩
        | true =>
            refine ⟨.spent id, by simp [afterMintCall, mints], .inr ⟨rfl, ?_⟩⟩
            simp only [Mint.nextStage] at inner
            cases reached : phase.stage with
            | holding _ =>
                rw [reached] at inner
                simp only [afterInvoke] at inner
                split at inner
                · obtain rfl := Option.some.inj inner
                  change mintAhead (if Except.isOk reply = true then _ else _) = false
                  split <;> rfl
                · cases inner
            | compensating _ =>
                rw [reached] at inner
                simp [afterInvoke, mints] at inner
            | _ =>
                rw [reached] at inner
                cases inner
    | _ => exact ⟨.minting id, rfl, .inl rfl⟩
  · obtain ⟨behind', noMint⟩ := nextStage_mintAhead inner behind
    cases op with
    | invokeContract sourceAccount call row =>
        have redeems := noMint _ _ _ rfl
        exact ⟨.spent id, by simp [afterMintCall, redeems], .inr ⟨rfl, behind'⟩⟩
    | _ => exact ⟨.spent id, rfl, .inr ⟨rfl, behind'⟩⟩

theorem wp_mintFromUsdcInternal {id : SwapId} {req : UsdcMintRequest}
    : swapProtocol.wp (service (some id) (mintFromUsdcInternal req)) (.minting id)
        (fun _ stage => stage.swap? = some id) (fun _ stage => stage.swap? = some id) := by
  have holds : ∀ phase stage, MintWithin id phase stage → stage.swap? = some id := by
    intro phase stage within
    rcases within with rfl | ⟨rfl, -⟩ <;> rfl
  -- the deployment only matters to confirmations
  let dep : Mint.Deployment :=
    { confirmationSecret := none
      sha256Hex := fun s => s
      hmacSha256 := fun _ _ => []
      isValidStellarAddress := fun _ => true }
  have inside := Protocol.wp_within (R := swapProtocol) (ι := mintCalls (some id)) _
    (fun phase phase' stage op reply within moved =>
      @mintWithin_step dep id phase phase' stage op ((mintCalls (some id)).reply op reply)
        within moved)
    (@wp_usdc dep req) (.inl rfl)
  apply Protocol.wp_mono inside
  · rintro _ stage ⟨phase, within, -⟩
    exact holds phase stage within
  · rintro _ stage ⟨_, phase, within, -⟩
    exact holds phase stage within

-- Parties

section

variable {id : SwapId} {stage : Stage}

theorem wp_release {status : SwapStatus} {Q : Unit → Stage → Prop} {E : JsError → Stage → Prop}
    (held : stage.swap? = some id) (ends : status = .failed ∨ status = .pending_convert)
    (hQ : Q () .over) (hE : ∀ error, E error .over)
    : swapProtocol.wp (issue (.updateSwap id { status := some status })) stage Q E := by
  have moved : afterUpdate id { status := some status } stage = some .over := by
    rcases ends with rfl | rfl <;> simp [afterUpdate, held]
  exact Protocol.wp_await.mpr ⟨fun _ => ⟨.over, moved, hQ⟩, fun error => ⟨.over, moved, hE error⟩⟩

theorem wp_mintForSwap {req : UsdcMintRequest}
    : swapProtocol.wp (mintForSwap id req) (.minting id)
        (fun _ _ => True) (fun _ stage => stage.swap? = some id) := by
  unfold mintForSwap
  rw [Protocol.wp_bind]
  apply Protocol.wp_mono wp_mintFromUsdcInternal
  · intro minted stage held
    exact Protocol.wp_await.mpr
      ⟨fun _ => ⟨stage, if_pos held, trivial⟩, fun _ => ⟨stage, if_pos held, held⟩⟩
  · exact fun _ _ held => held

theorem wp_convertUsdc {swap : OnRampSwap} {usdcAmount : ℚ}
    : swapProtocol.wp (convertUsdc id swap usdcAmount) (afterFind id true (some swap))
        (fun _ stage => stage = .minting id) (fun _ stage => stage.swap? = some id) := by
  unfold convertUsdc afterFind
  cases recorded : swap.xlmAmount with
  | some _ => simp [recorded]
  | none => simp [recorded, nextStage, afterUpdate, Stage.swap?]

theorem wp_handledBack {body : Prog onRampInterface Unit} {status : SwapStatus}
    (ends : status = .failed ∨ status = .pending_convert)
    (work : swapProtocol.wp body stage (fun _ _ => True) (fun _ stage => stage.swap? = some id))
    : swapProtocol.wp
        (body.catchWith (fun e => do
          issue (.updateSwap id { status := some status })
          .fail e))
        stage (fun _ _ => True) (fun _ _ => True) := by
  rw [Protocol.wp_catchWith]
  apply Protocol.wp_mono work
  · exact fun _ _ _ => trivial
  · intro e stage held
    rw [Protocol.wp_bind]
    exact wp_release held ends trivial (fun _ => trivial)

theorem wp_withClaimedSwap {source : Option SwapSource}
    {work : OnRampSwap → Prog onRampInterface Unit}
    (worked : ∀ row, swapProtocol.wp (work row) (afterFind id source.isSome (some row))
      (fun _ _ => True) (fun _ _ => True))
    : swapProtocol.wp (withClaimedSwap id source work) .idle
        (fun _ _ => True) (fun _ _ => True) := by
  unfold withClaimedSwap
  rw [Protocol.wp_bind]
  refine Protocol.wp_await.mpr ⟨fun claimed => ?_, fun _ => ⟨.idle, rfl, trivial⟩⟩
  cases claimed with
  | zero => exact ⟨.idle, rfl, trivial⟩
  | succ _ =>
      refine ⟨.claimed id source.isSome, rfl, ?_⟩
      simp only [Nat.succ_ne_zero, if_false, Protocol.wp_bind]
      refine Protocol.wp_await.mpr ⟨fun row => ⟨_, if_pos rfl, ?_⟩,
        fun _ => ⟨_, if_pos rfl, trivial⟩⟩
      cases row with
      | none => trivial
      | some row => exact worked row

theorem swap?_afterFind {converts : Bool} {row : OnRampSwap}
    : (afterFind id converts (some row)).swap? = some id := by
  simp only [afterFind]
  split <;> rfl

theorem wp_processUsdcConvertAndMint {finalAttempt : Bool}
    : swapProtocol.wp (processUsdcConvertAndMint id finalAttempt) .idle
        (fun _ _ => True) (fun _ _ => True) := by
  apply wp_withClaimedSwap
  intro swap
  rw [Protocol.wp_ite]
  constructor
  · exact fun _ => wp_release swap?_afterFind (.inl rfl) trivial (fun _ => trivial)
  · intro _
    apply wp_handledBack (by cases finalAttempt <;> simp)
    rw [Protocol.wp_bind]
    apply Protocol.wp_mono wp_convertUsdc
    · rintro _ _ rfl
      exact wp_mintForSwap
    · exact fun _ _ held => held

theorem wp_processXlmToAcbu {dep : Deployment} {payload : XlmToAcbuPayload}
    : swapProtocol.wp (processXlmToAcbu dep payload) .idle
        (fun _ _ => True) (fun _ _ => True) := by
  unfold processXlmToAcbu
  rw [Protocol.wp_bind]
  have read : swapProtocol.wp (usdcAmountOf dep payload) .idle (fun _ stage => stage = .idle)
      (fun _ _ => True) := by
    unfold usdcAmountOf
    split <;> simp [nextStage]
  apply Protocol.wp_mono read
  · rintro usdcAmount _ rfl
    apply wp_withClaimedSwap
    intro swap
    apply wp_handledBack (.inl rfl)
    rw [Protocol.wp_bind, Protocol.wp_fromExcept]
    exact ⟨fun amount _ => wp_mintForSwap, fun _ _ => rfl⟩
  · exact fun _ _ _ => trivial

theorem wp_consume {queue : Queue} {process : Message → Prog onRampInterface Unit}
    (work : ∀ msg, swapProtocol.wp (process msg) .idle (fun _ _ => True) (fun _ _ => True))
    : swapProtocol.wp (consume queue process) .idle (fun _ _ => True) (fun _ _ => True) := by
  unfold consume
  rw [Protocol.wp_bind]
  refine Protocol.wp_await.mpr ⟨fun msg => ⟨.idle, rfl, ?_⟩, fun _ => ⟨.idle, rfl, trivial⟩⟩
  simp only [Protocol.wp_bind, Protocol.wp_catchWith]
  apply Protocol.wp_mono (work msg)
  · intro _ stage _
    simp [nextStage]
  · intro _ stage _
    simp [nextStage]

end

theorem wp_swapProtocol (dep : Deployment) (party : Party)
    : swapProtocol.wp (party.program dep) .idle (fun _ _ => True) (fun _ _ => True) := by
  cases party with
  | usdcDelivery => exact wp_consume (fun _ => wp_processUsdcConvertAndMint)
  | xlmDelivery =>
      apply wp_consume
      intro msg
      cases msg.payload with
      | xlmToAcbu payload => exact wp_processXlmToAcbu
      | usdcConvertAndMint _ => trivial
  | mintFromUsdc _ | registerOnRampSwap _ =>
      apply Protocol.wp_mono (wp_of_request rfl ?_) (fun _ _ _ => trivial) (fun _ _ _ => trivial)
      intro other op reply other' _ moved
      cases op with
      | mint onRampSwapId op =>
          cases onRampSwapId with
          | some _ => cases moved
          | none =>
              cases op with
              | invokeContract _ _ _ => cases moved
              | _ => rfl
      | claimSwap _ _ | findSwap _ | updateSwap _ _ | swapUsdcToXlm _ _ => cases moved
      | _ => rfl

end AcbuBackend.OnRamp

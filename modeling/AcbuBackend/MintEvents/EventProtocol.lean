import AcbuBackend.MintEvents.MintEventSystem

/-! What the mint handlers write, and what the listener and the consumer know. -/

namespace AcbuBackend.MintEvents

open Effects Effects.Prog Effects.Protocol AcbuBackend.Runtime
open Conversion (Message ConversionOp conversionInterface)
open Json (Value)
open Mint (TxId TransactionStatus MintOp mintInterface MintRequest)

variable {dep : Deployment}

-- What the mint handlers write

/-- A row is created without a hash, and none is set back to pending. -/
def leavesNoOpenHash : MintOp → Prop
  | .createTransaction data => data.blockchainTxHash = none
  | .updateTransaction _ data => data.status ≠ .pending
  | _ => True

section

variable {α β : Type}

/-- A program of the mint handlers whose writes are of this kind. -/
abbrev Orderly (prog : Prog mintInterface α) : Prop :=
  (Protocol.only (I := mintInterface) leavesNoOpenHash).wp prog () (fun _ _ => True)
    (fun _ _ => True)

theorem orderly_update {id : TxId} {data : Mint.TransactionUpdate} (h : data.status ≠ .pending)
    : Orderly (Mint.ask (.updateTransaction id data)) :=
  only_await h

theorem orderly_audit {id : TxId} {action : String}
    : Orderly (swallow (Mint.ask (.logAudit id action))) :=
  only_catchWith (only_await trivial) (fun _ => trivial)

end

theorem orderly_invokeMint {row : TxId} {txId : Option TxId} {amount : String}
    {call : ℤ → Mint.ContractCall}
    : Orderly (Mint.invokeMint row txId amount call) := by
  refine only_catchWith ?_ fun error => only_bind ?_ (fun _ => trivial)
  · refine only_bind (only_await trivial) fun _ => only_bind only_orThrow fun _ => ?_
    exact only_bind only_fromExcept (fun _ => only_await trivial)
  · cases txId with
    | none => trivial
    | some id => exact only_catchWith (orderly_update (by simp)) (fun _ => trivial)

theorem orderly_convertLocal {amount : ℚ} {currency : String}
    : Orderly (Mint.convertLocal amount currency) :=
  only_bind only_ensure fun _ => only_bind (only_await trivial) fun _ => only_fromExcept

theorem orderly_mintDeposit {id : TxId} {amount : ℚ} {currency walletAddress : String}
    : Orderly (Mint.mintDeposit id amount currency walletAddress) := by
  refine only_catchWith ?_ fun error => only_bind (orderly_update (by simp)) fun _ => ?_
  · refine only_bind orderly_convertLocal fun _ => only_bind (only_await trivial) fun _ => ?_
    refine only_bind only_orThrow fun _ => only_bind orderly_invokeMint fun _ => ?_
    exact orderly_update (by simp)
  · exact only_bind orderly_audit (fun _ => trivial)

theorem orderly_submitDeposit {deployment : Mint.Deployment} {req : Mint.DepositRequest}
    {body : Mint.ParsedDeposit} {amount : ℚ} {userId : String}
    : Orderly (Mint.submitDeposit deployment req body amount userId) := by
  refine only_bind only_fromExcept fun headerKey => only_bind ?_ fun existingTx => ?_
  · unfold Mint.findDeposit
    split
    · exact only_await trivial
    · trivial
  · cases existingTx with
    | some existing => trivial
    | none =>
        refine only_bind (only_catchWith ?_ fun createError => ?_) fun created => ?_
        · exact only_bind (only_await rfl) (fun _ => trivial)
        · split
          · exact only_bind (only_await trivial) fun _ => only_bind only_orThrow fun _ => trivial
          · trivial
        · cases created with
          | inr existing => trivial
          | inl id =>
              refine only_bind orderly_mintDeposit fun _ => ?_
              exact only_bind (only_await trivial) (fun _ => trivial)

theorem orderly_deposit {deployment : Mint.Deployment} {req : Mint.DepositRequest}
    : Orderly (Mint.depositFromBasketCurrency deployment req) := by
  refine only_bind only_fromExcept fun body => only_bind only_ensure fun _ => ?_
  refine only_bind only_ensure fun _ => only_bind only_fromExcept fun amount => ?_
  refine only_bind only_orThrow fun userId => only_bind ?_ fun _ => ?_
  · refine only_bind (only_await trivial) fun _ => only_bind only_orThrow fun _ => ?_
    exact only_bind only_ensure fun _ => only_bind only_ensure fun _ => trivial
  · refine only_bind (only_await trivial) fun _ => only_bind only_ensure fun _ => ?_
    refine only_bind orderly_convertLocal fun _ => only_bind (only_await trivial) fun _ => ?_
    exact orderly_submitDeposit

theorem orderly_mintConfirmed {body : Mint.ParsedConfirm} {sourceAccount userWallet : String}
    {acbuAmount : ℚ}
    : Orderly (Mint.mintConfirmed body sourceAccount userWallet acbuAmount) := by
  refine only_catchWith ?_ fun _ => only_bind (orderly_update (by simp)) (fun _ => trivial)
  refine only_bind orderly_invokeMint fun _ => only_bind (orderly_update (by simp)) fun _ => ?_
  exact only_bind (only_await trivial) (fun _ => trivial)

theorem orderly_confirmPending {body : Mint.ParsedConfirm} {tx : Mint.Transaction}
    : Orderly (Mint.confirmPending body tx) := by
  refine only_bind only_ensure fun _ => only_bind (only_await trivial) fun _ => ?_
  refine only_bind only_ensure fun _ => only_bind (only_await trivial) fun _ => ?_
  refine only_bind only_orThrow fun _ => only_bind only_fromExcept fun _ => ?_
  refine only_bind orderly_convertLocal fun _ => only_bind (only_await trivial) fun _ => ?_
  refine only_bind only_orThrow fun _ => only_bind only_ensure fun _ => ?_
  exact only_bind (orderly_update (by simp)) fun _ => orderly_mintConfirmed

theorem orderly_confirm {deployment : Mint.Deployment} {req : Mint.ConfirmRequest}
    : Orderly (Mint.confirmRoute deployment req) := by
  refine only_bind ?_ fun verified => ?_
  · refine only_bind only_fromExcept fun parsed => ?_
    exact only_bind (only_await trivial) (fun _ => only_fromExcept)
  · split
    · refine only_bind only_fromExcept fun body => only_bind (only_await trivial) fun _ => ?_
      refine only_bind only_orThrow fun tx => ?_
      split
      · trivial
      · exact orderly_confirmPending
    · trivial

theorem orderly_mintUsdc {req : Mint.UsdcMintRequest} {id : TxId} {sourceAccount : String}
    : Orderly (Mint.mintUsdc req id sourceAccount) := by
  refine only_catchWith ?_ fun _ => only_bind (orderly_update (by simp)) fun _ =>
    only_bind orderly_audit (fun _ => trivial)
  refine only_bind orderly_invokeMint fun result => only_bind ?_ fun _ =>
    only_bind orderly_audit (fun _ => trivial)
  refine only_catchWith (orderly_update (by simp)) fun _ =>
    only_bind (only_catchWith ?_ (fun _ => trivial)) fun _ => orderly_update (by simp)
  -- the compensating burn
  refine only_bind ?_ (fun _ => trivial)
  refine only_bind only_ensure fun _ => only_bind (only_await trivial) fun _ => ?_
  refine only_bind only_orThrow fun _ => only_bind only_fromExcept fun _ => ?_
  exact only_await trivial

theorem orderly_usdc {req : Mint.UsdcMintRequest} : Orderly (Mint.mintFromUsdcInternal req) := by
  refine only_bind (only_await rfl) fun id => only_bind (only_await trivial) fun address => ?_
  split
  · exact only_bind (orderly_update (by simp)) (fun _ => trivial)
  · refine only_bind (only_await trivial) fun publicKey => ?_
    cases publicKey with
    | none => exact only_bind (orderly_update (by simp)) (fun _ => trivial)
    | some sourceAccount => exact orderly_mintUsdc

theorem orderly_program {deployment : Mint.Deployment} {request : MintRequest}
    : Orderly (request.program deployment) := by
  cases request with
  | deposit req => exact orderly_deposit
  | confirm req => exact orderly_confirm
  | usdc req => exact orderly_usdc

-- Phases of the tasks

/-- What a task knows: the transaction the listener has found, or the message a delivery was
handed, with its transaction claimed or not.
-/
inductive Phase
  | idle
  | found (id : TxId)
  | received (message : Message)
  | holds (message : Message)

/-- The transaction a task knows of. -/
def Phase.named? : Phase → Option TxId
  | .idle => none
  | .found id => some id
  | .received message | .holds message => message.transactionId

/-- The transaction a task has claimed. -/
def Phase.held? : Phase → Option TxId
  | .holds message => message.transactionId
  | _ => none

/-- After a claim that has changed so many rows. -/
def Phase.afterClaim (phase : Phase) (count : Nat) : Phase :=
  match phase with
  | .received message => if count = 1 then .holds message else phase
  | _ => phase

def listenerProtocol : Protocol listenerInterface Phase where
  next phase
  | .findTransaction _, reply =>
      match reply with
      | .ok (some id) => some (.found id)
      | _ => some phase
  | .sendToQueue message, _ => if message.transactionId = phase.named? then some phase else none
  | _, _ => some phase

def conversionProtocol : Protocol conversionInterface Phase where
  next phase
  | .receive, reply =>
      match reply with
      | .ok message => some (.received message)
      | .error _ => some phase
  | .claimTransaction id, reply =>
      if phase.named? = some id then
        match reply with
        | .ok count => some (phase.afterClaim count)
        | .error _ => some phase
      else none
  | .releaseClaim id, _ => if phase.held? = some id then some phase else none
  | .sendToQueue message, _ => if message.transactionId = phase.named? then some phase else none
  | _, _ => some phase

open Classical in
noncomputable def systemProtocol : Protocol systemInterface Phase where
  next phase
  | .mint op, _ => if leavesNoOpenHash op then some phase else none
  | .listener op, reply => listenerProtocol.next phase op reply
  | .conversion op, reply => conversionProtocol.next phase op reply

section

variable {phase : Phase}

theorem wp_request {op : ListenerOp} {Q : op.Ret → Phase → Prop} {E : JsError → Phase → Prop}
    (ignored : listenerProtocol.Ignores phase op) (value : ∀ reply, Q reply phase)
    (error : ∀ error, E error phase)
    : listenerProtocol.wp (request op) phase Q E :=
  wp_await.mpr ⟨fun reply => ⟨phase, ignored _, value reply⟩,
    fun thrown => ⟨phase, ignored _, error thrown⟩⟩

theorem forwardMint_wp {usdcAmount recipient txHash : String}
    : listenerProtocol.wp (forwardMint usdcAmount recipient txHash) .idle (fun _ _ => True)
        (fun _ _ => True) := by
  unfold forwardMint
  refine wp_bind.mpr (wp_await.mpr ⟨fun transactionId => ?_, fun _ => ⟨.idle, rfl, trivial⟩⟩)
  cases transactionId with
  | none => exact ⟨.idle, rfl, trivial⟩
  | some id =>
      refine ⟨.found id, rfl, ?_⟩
      split
      · trivial
      · rename_i transactionId kept
        obtain rfl := Option.some.inj (Option.eq_some_of_filter_eq_some kept)
        refine wp_bind.mpr (wp_request (fun _ => rfl) (fun _ => ?_) fun _ => trivial)
        refine wp_bind.mpr (wp_request (fun _ => rfl) (fun _ => ?_) fun _ => trivial)
        exact wp_request (fun _ => if_pos rfl) (fun _ => trivial) fun _ => trivial

theorem resolveTxHash_wp {data : Value}
    : listenerProtocol.wp (resolveTxHash data) .idle (fun _ phase => phase = .idle)
        (fun _ phase => phase = .idle) := by
  unfold resolveTxHash
  split
  · rfl
  · split
    · refine wp_catchWith.mpr (wp_bind.mpr (wp_request (fun _ => rfl) (fun op => ?_) fun _ => rfl))
      split <;> rfl
    · rfl

theorem verifyTxHashOnChain_wp {txHash : String}
    : listenerProtocol.wp (verifyTxHashOnChain txHash) .idle (fun _ phase => phase = .idle)
        (fun _ phase => phase = .idle) := by
  unfold verifyTxHashOnChain
  split
  · exact wp_catchWith.mpr (wp_bind.mpr (wp_request (fun _ => rfl) (fun _ => rfl) fun _ => rfl))
  · rfl

theorem mintEventHandler_wp {data : Value}
    : listenerProtocol.wp (mintEventHandler dep.numberText data) .idle (fun _ _ => True)
        (fun _ _ => True) := by
  unfold mintEventHandler
  split
  · split
    · refine wp_bind.mpr (wp_mono resolveTxHash_wp (fun resolved _ same => ?_) fun _ _ _ => trivial)
      subst same
      cases resolved with
      | none => trivial
      | some txHash =>
          refine wp_bind.mpr
            (wp_mono verifyTxHashOnChain_wp (fun valid _ same => ?_) fun _ _ _ => trivial)
          subst same
          cases valid with
          | true => exact forwardMint_wp
          | false => trivial
    · trivial
  · trivial

theorem wp_issue {op : ConversionOp} {Q : op.Ret → Phase → Prop} {E : JsError → Phase → Prop}
    (ignored : conversionProtocol.Ignores phase op) (value : ∀ reply, Q reply phase)
    (error : ∀ error, E error phase)
    : conversionProtocol.wp (Conversion.issue op) phase Q E :=
  wp_await.mpr ⟨fun reply => ⟨phase, ignored _, value reply⟩,
    fun thrown => ⟨phase, ignored _, error thrown⟩⟩

theorem handleFailure_wp {msg : Message} {claimed : Option TxId}
    (named : msg.transactionId = phase.named?) (held
      : ∀ id, claimed = some id → phase.held? = claimed)
    : conversionProtocol.wp (Conversion.handleFailure msg claimed) phase (fun _ _ => True)
        (fun _ _ => True) := by
  have given : conversionProtocol.wp
      (if Conversion.MAX_RETRIES ≤ msg.retries then Conversion.issue (.nack msg)
      else do
        Conversion.issue (.sendToQueue { msg with retries := msg.retries + 1 })
        Conversion.issue (.ack msg)) phase (fun _ _ => True) (fun _ _ => True) := by
    split
    · exact wp_issue (fun _ => rfl) (fun _ => trivial) fun _ => trivial
    · refine wp_bind.mpr (wp_issue (fun _ => if_pos named) (fun _ => ?_) fun _ => trivial)
      exact wp_issue (fun _ => rfl) (fun _ => trivial) fun _ => trivial
  unfold Conversion.handleFailure
  cases claimed with
  | none => exact given
  | some id =>
      refine wp_bind.mpr (wp_swallow.mpr (wp_bind.mpr ?_))
      exact wp_issue (fun _ => if_pos (held id rfl)) (fun _ => given) fun _ => given

theorem convertMessage_wp {msg : Message} {claimed : Option TxId}
    (named : msg.transactionId = phase.named?) (held
      : ∀ id, claimed = some id → phase.held? = claimed)
    : conversionProtocol.wp (Conversion.convertMessage dep.conversion msg claimed) phase
        (fun _ _ => True) (fun _ _ => True) := by
  have processed : Only (I := conversionInterface) (conversionProtocol.Ignores phase) (do
      Conversion.processUsdcConversion dep.conversion msg
      Conversion.issue (.ack msg)) := by
    refine only_bind (Conversion.only_processUsdcConversion fun op processes => ?_) fun _ =>
      only_await fun _ => rfl
    cases op <;> first | exact fun _ => rfl | cases processes
  refine wp_catchWith.mpr (wp_mono (wp_of_only processed) (fun _ _ _ => trivial) ?_)
  rintro error _ ⟨-, rfl⟩
  exact handleFailure_wp named held

theorem usdcConversionConsumer_wp
    : conversionProtocol.wp (Conversion.usdcConversionConsumer dep.conversion) .idle
        (fun _ _ => True) (fun _ _ => True) := by
  unfold Conversion.usdcConversionConsumer
  refine wp_bind.mpr (wp_await.mpr ⟨fun msg => ⟨.received msg, rfl, ?_⟩,
    fun _ => ⟨_, rfl, trivial⟩⟩)
  split
  · exact convertMessage_wp rfl (fun _ absurd => nomatch absurd)
  · rename_i id kept
    have named : msg.transactionId = some id := Option.eq_some_of_filter_eq_some kept
    refine wp_bind.mpr (wp_catchWith.mpr (wp_bind.mpr
      (wp_await.mpr ⟨fun count => ?_, fun _ => ?_⟩)))
    · refine ⟨(Phase.received msg).afterClaim count, if_pos named, ?_⟩
      by_cases claimed : count = 1
      · subst claimed
        exact @convertMessage_wp dep _ _ _ rfl (by simp [Phase.afterClaim, Phase.held?, named])
      · simp only [Phase.afterClaim, claimed, decide_false, if_false, wp_pure]
        refine wp_catchWith.mpr (wp_issue (fun _ => rfl) (fun _ => trivial) fun _ => ?_)
        exact handleFailure_wp rfl (fun _ absurd => nomatch absurd)
    · refine ⟨.received msg, if_pos named, wp_bind.mpr ?_⟩
      exact wp_mono (handleFailure_wp rfl (fun _ absurd => nomatch absurd))
        (fun _ _ _ => trivial) fun _ _ _ => trivial

end

theorem program_wp {task : Task}
    : systemProtocol.wp (task.program dep) .idle (fun _ _ => True) (fun _ _ => True) := by
  cases task with
  | mint request =>
      refine wp_bind.mpr (wp_mono (wp_within (R := systemProtocol) (fun _ phase => phase = .idle) ?_
        orderly_program rfl) (fun _ _ _ => trivial) fun _ _ _ => trivial)
      rintro _ _ phase op reply rfl moved
      exact ⟨.idle, if_pos (only_next.mp moved), rfl⟩
  | effect data =>
      refine wp_mono (wp_within (R := systemProtocol) (fun inner phase => inner = phase) ?_
        (@mintEventHandler_wp dep data) rfl) (fun _ _ _ => trivial) fun _ _ _ => trivial
      rintro inner inner' _ op reply rfl moved
      refine ⟨inner', ?_, rfl⟩
      cases reply <;> exact moved
  | delivery =>
      refine wp_mono (wp_within (R := systemProtocol) (fun inner phase => inner = phase) ?_
        usdcConversionConsumer_wp rfl) (fun _ _ _ => trivial) fun _ _ _ => trivial
      rintro inner inner' _ op reply rfl moved
      refine ⟨inner', ?_, rfl⟩
      cases reply <;> exact moved

end AcbuBackend.MintEvents

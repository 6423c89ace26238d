import AcbuBackend.Mint.MintController

/-! The stages of a request that mints.
A request takes hold of at most one row, by creating it or by marking it as processing; it
mints for that row at most once, and every later write goes to that row.
-/

namespace AcbuBackend.Mint

open Effects AcbuBackend.Runtime Rates

/-- How far a request has come. `lapsed` is a request on its way to its error. -/
inductive Stage
  | arriving
  | admitted
  | holding (id : TxId)
  | minted (id : TxId)
  | compensating (id : TxId)
  | recorded (id : TxId)
  | lapsed (id : TxId)
deriving DecidableEq

/-- The row a request has taken hold of. -/
def Stage.row? : Stage → Option TxId
  | .arriving | .admitted => none
  | .holding id | .minted id | .compensating id | .recorded id | .lapsed id => some id

structure Phase where
  request : MintRequest
  stage : Stage

namespace MintRequest

/-- Only a confirmation has a signature to check first. -/
def start : MintRequest → Phase
  | .confirm req => { request := .confirm req, stage := .arriving }
  | request => { request, stage := .admitted }

def isUsdc : MintRequest → Bool
  | .usdc _ => true
  | _ => false

def isConfirm : MintRequest → Bool
  | .confirm _ => true
  | _ => false

def isDeposit : MintRequest → Bool
  | .deposit _ => true
  | _ => false

/-- The row a request may mark as processing. -/
def confirms? : MintRequest → Option TxId
  | .confirm req => req.transactionId?
  | _ => none

def accepts (dep : Deployment) : MintRequest → ℚ → Bool
  | .confirm req, nowS => req.signatureAccepted dep nowS
  | _, _ => false

end MintRequest

def afterClock (dep : Deployment) (request : MintRequest) (stage : Stage) (nowS : ℚ) : Stage :=
  if stage = .arriving ∧ request.accepts dep nowS = true then .admitted else stage

def afterUpdate (request : MintRequest) (id : TxId) (status : TransactionStatus) (ok : Bool)
    : Stage → Option Stage
  | .admitted =>
      if status = .processing ∧ request.confirms? = some id then
        some (if ok then .holding id else .admitted)
      else none
  | .holding row => if status = .failed ∧ row = id then some (.lapsed id) else none
  | .minted row =>
      if status = .completed ∧ row = id then
        some (if ok then .recorded id
          else if request.isUsdc then .compensating id
          else .lapsed id)
      else none
  | .compensating row =>
      if status = .completed ∧ row = id then
        some (if ok then .recorded id else .lapsed id)
      else none
  | .lapsed row => if status = .failed ∧ row = id then some (.lapsed id) else none
  | _ => none

def afterInvoke (request : MintRequest) (call : ContractCall) (id : TxId) (ok : Bool)
    : Stage → Option Stage
  | .holding row =>
      if call.isMint ∧ call.isMintFromBasket = !request.isUsdc ∧ row = id then
        some (if ok then .minted id else .lapsed id)
      else none
  | .compensating row => if !call.isMint ∧ row = id then some (.compensating id) else none
  | _ => none

/-- The stage after an audit write: only in `confirmMint` its error leads to a status write. -/
def afterAudit (request : MintRequest) (ok : Bool) : Stage → Option Stage
  | .recorded id => some (if !ok ∧ request.isConfirm then .lapsed id else .recorded id)
  | .lapsed id => some (.lapsed id)
  | _ => none

/-- The stage a call leads to. Reads leave it as it is. -/
def nextStage (dep : Deployment) (request : MintRequest) (stage : Stage)
    : (op : MintOp) → mintInterface.Reply op → Option Stage
  | .now, reply =>
      match reply with
      | .ok nowS => some (afterClock dep request stage nowS)
      | .error _ => some stage
  | .createTransaction data, reply =>
      if stage = .admitted ∧ data.status = .pending ∧ !request.isConfirm then
        match reply with
        | .ok id => some (.holding id)
        | .error _ => some .admitted
      else none
  | .updateTransaction id data, reply =>
      afterUpdate request id data.status (Except.isOk reply) stage
  | .logAudit _ _, reply => afterAudit request (Except.isOk reply) stage
  | .invokeContract _ call id, reply =>
      afterInvoke request call id (Except.isOk reply) stage
  | _, _ => some stage

def mintProtocol (dep : Deployment) : Protocol mintInterface Phase where
  next phase op reply :=
    (nextStage dep phase.request phase.stage op reply).map
      (fun stage => { phase with stage })

@[simp] theorem isOk_ok {E α : Type} (value : α) : Except.isOk (.ok value : Except E α) = true :=
  rfl

@[simp] theorem isOk_error {E α : Type} (error : E)
    : Except.isOk (.error error : Except E α) = false :=
  rfl

@[simp] theorem mintProtocol_next {dep : Deployment} {phase : Phase} {op : MintOp}
    {reply : mintInterface.Reply op}
    : (mintProtocol dep).next phase op reply
      = (nextStage dep phase.request phase.stage op reply).map
          (fun stage => { phase with stage }) :=
  rfl

variable {dep : Deployment} {request : MintRequest}

theorem wp_convertLocal {phase : Phase} {x : ℚ} {c : String}
    {Q : ConversionResult → Phase → Prop} {E : JsError → Phase → Prop}
    (hQ : ∀ result, Q result phase) (hE : ∀ error, E error phase)
    : (mintProtocol dep).wp (convertLocal x c) phase Q E := by
  simp [convertLocal, nextStage, hQ, hE]

/-- A request that holds a row and has minted nothing for it. -/
def Unrecorded (request : MintRequest) (row : TxId) (phase : Phase) : Prop :=
  phase = ⟨request, .holding row⟩ ∨ phase = ⟨request, .lapsed row⟩

theorem wp_markFailed {row : TxId} {phase : Phase} (h : Unrecorded request row phase)
    {Q : Unit → Phase → Prop} {E : JsError → Phase → Prop}
    (hQ : Q () ⟨request, .lapsed row⟩) (hE : ∀ error, E error ⟨request, .lapsed row⟩)
    : (mintProtocol dep).wp (ask (.updateTransaction row { status := .failed })) phase Q E := by
  rcases h with rfl | rfl <;> simp [nextStage, afterUpdate, hQ, hE]

theorem wp_invokeMint {row : TxId} {txId : Option TxId} {amount : String}
    {call : ℤ → ContractCall} (mints : ∀ units, (call units).isMint = true)
    (basket : ∀ units, (call units).isMintFromBasket = !request.isUsdc)
    (own : ∀ id, txId = some id → id = row)
    : (mintProtocol dep).wp (invokeMint row txId amount call) ⟨request, .holding row⟩
        (fun _ phase => phase = ⟨request, .minted row⟩)
        (fun _ phase => Unrecorded request row phase) := by
  have compensated : ∀ error phase, Unrecorded request row phase →
      (mintProtocol dep).wp (markTransactionFailed txId >>= fun _ => Prog.fail error) phase
        (fun (_ : ContractResult) phase => phase = ⟨request, .minted row⟩)
        (fun _ phase => Unrecorded request row phase) := by
    intro error phase held
    cases txId with
    | none => simpa [markTransactionFailed] using held
    | some id =>
        obtain rfl := own id rfl
        simp only [markTransactionFailed, Protocol.wp_bind, Protocol.wp_swallow, Protocol.wp_fail]
        exact wp_markFailed held (Or.inr rfl) (fun _ => Or.inr rfl)
  have holding : Unrecorded request row ⟨request, .holding row⟩ := Or.inl rfl
  have lapsed : Unrecorded request row ⟨request, .lapsed row⟩ := Or.inr rfl
  unfold invokeMint
  rw [Protocol.wp_catchWith]
  apply Protocol.wp_mono (Q := fun _ phase => phase = ⟨request, .minted row⟩)
    (E := fun _ phase => Unrecorded request row phase)
  · simp [nextStage, afterInvoke, mints, basket, holding, lapsed]
  · exact fun _ _ => id
  · exact fun error phase held => compensated error phase held
theorem wp_recordFailure {α : Type} {row : TxId} {action : String} {error : JsError}
    {phase : Phase} {Q : α → Phase → Prop} (held : Unrecorded request row phase)
    : (mintProtocol dep).wp
        (do
          ask (.updateTransaction row { status := .failed })
          Prog.swallow (ask (.logAudit row action))
          (.fail error : Prog mintInterface α))
        phase Q (fun _ _ => True) := by
  rw [Protocol.wp_bind]
  apply wp_markFailed held
  · simp [nextStage, afterAudit]
  · exact fun _ => trivial

theorem wp_mintDeposit {req : DepositRequest} {id : TxId} {amount : ℚ}
    {currency walletAddress : String}
    : (mintProtocol dep).wp (mintDeposit id amount currency walletAddress)
        ⟨.deposit req, .holding id⟩
        (fun _ phase => phase = ⟨.deposit req, .recorded id⟩) (fun _ _ => True) := by
  unfold mintDeposit
  rw [Protocol.wp_catchWith]
  have holding : Unrecorded (.deposit req) id ⟨.deposit req, .holding id⟩ := Or.inl rfl
  apply Protocol.wp_mono (Q := fun _ phase => phase = ⟨.deposit req, .recorded id⟩)
    (E := fun _ phase => Unrecorded (.deposit req) id phase)
  · rw [Protocol.wp_bind]
    apply wp_convertLocal (fun result => ?_) (fun _ => holding)
    simp only [Protocol.wp_bind, Protocol.wp_await, Protocol.wp_orThrow]
    refine ⟨fun publicKey => ⟨_, rfl, fun sourceAccount _ => ?_, fun _ => holding⟩,
      fun _ => ⟨_, rfl, holding⟩⟩
    apply Protocol.wp_mono
      (wp_invokeMint (fun _ => rfl) (fun _ => rfl) (fun _ named => (Option.some.inj named).symm))
    · rintro mintResult _ rfl
      simp [nextStage, afterUpdate, MintRequest.isUsdc, Unrecorded]
    · exact fun _ _ held => held
  · exact fun _ _ recorded => recorded
  · exact fun _ _ held => wp_recordFailure held

theorem wp_createDeposit {req : DepositRequest} {key : Option String} {data : Transaction}
    (pending : data.status = .pending)
    : (mintProtocol dep).wp (createDeposit key data) ⟨.deposit req, .admitted⟩
        (fun created phase =>
          match created with
          | .inl id => phase = ⟨.deposit req, .holding id⟩
          | .inr _ => True)
        (fun _ _ => True) := by
  unfold createDeposit
  simp only [Protocol.wp_catchWith, Protocol.wp_bind, Protocol.wp_await, Protocol.wp_pure]
  constructor
  · intro id
    exact ⟨⟨.deposit req, .holding id⟩, by simp [nextStage, pending, MintRequest.isConfirm], rfl⟩
  · intro error
    refine ⟨⟨.deposit req, .admitted⟩, by simp [nextStage, pending, MintRequest.isConfirm], ?_⟩
    cases key <;> cases error <;> simp [nextStage]

theorem wp_assertUserWalletAddress {phase : Phase} {userId address : String}
    {Q : String → Phase → Prop}
    (hQ : ∀ stellarAddress, Q stellarAddress phase)
    : (mintProtocol dep).wp (assertUserWalletAddress dep userId address) phase Q
        (fun _ _ => True) := by
  simp [assertUserWalletAddress, nextStage, hQ]

theorem wp_submitDeposit {req : DepositRequest} {body : ParsedDeposit} {amount : ℚ}
    {userId : String}
    : (mintProtocol dep).wp (submitDeposit dep req body amount userId) ⟨.deposit req, .admitted⟩
        (fun _ _ => True) (fun _ _ => True) := by
  unfold submitDeposit
  simp only [Protocol.wp_bind, Protocol.wp_fromExcept, implies_true, and_true]
  intro headerKey _
  generalize (headerKey.or body.fintechTxId).map (scopeIdempotencyKey dep.sha256Hex userId) = key
  have found : (mintProtocol dep).wp (findDeposit key) ⟨.deposit req, .admitted⟩
      (fun _ phase => phase = ⟨.deposit req, .admitted⟩) (fun _ _ => True) := by
    cases key <;> simp [findDeposit, nextStage]
  apply Protocol.wp_mono found
  · rintro (_ | ⟨id, row⟩) _ rfl
    · rw [Protocol.wp_bind]
      apply Protocol.wp_mono (wp_createDeposit rfl)
      · rintro (id | ⟨id, row⟩) phase created
        · obtain rfl := created
          rw [Protocol.wp_bind]
          apply Protocol.wp_mono wp_mintDeposit
          · rintro _ _ rfl
            simp [nextStage, afterAudit]
          · exact fun _ _ _ => trivial
        · trivial
      · exact fun _ _ _ => trivial
    · trivial
  · exact fun _ _ _ => trivial

theorem wp_deposit (req : DepositRequest)
    : (mintProtocol dep).wp (depositFromBasketCurrency dep req) (MintRequest.deposit req).start
        (fun _ _ => True) (fun _ _ => True) := by
  unfold depositFromBasketCurrency MintRequest.start
  simp only [Protocol.wp_bind, Protocol.wp_fromExcept, Protocol.wp_ensure, Protocol.wp_orThrow,
    implies_true, and_true]
  intro body _ _ _ amount _ userId _
  apply wp_assertUserWalletAddress
  intro _
  refine Protocol.wp_await.mpr ⟨fun paused => ⟨_, rfl, fun _ => ?_⟩, fun _ => ⟨_, rfl, trivial⟩⟩
  apply wp_convertLocal (fun amountUsd => ?_) (fun _ => trivial)
  exact Protocol.wp_await.mpr
    ⟨fun _ => ⟨_, rfl, wp_submitDeposit⟩, fun _ => ⟨_, rfl, trivial⟩⟩

theorem wp_redeemSingle {row : TxId} {user recipient : String} {units : Except JsError ℤ}
    {currency key : String} {Q : ContractResult → Phase → Prop} {E : JsError → Phase → Prop}
    (hQ : ∀ result, Q result ⟨request, .compensating row⟩)
    (hE : ∀ error, E error ⟨request, .compensating row⟩)
    : (mintProtocol dep).wp (redeemSingle row user recipient units currency key)
        ⟨request, .compensating row⟩ Q E := by
  simp [redeemSingle, nextStage, afterInvoke, ContractCall.isMint, hQ, hE]

theorem wp_completeUsdcMint {req : UsdcMintRequest} {id : TxId} {sourceAccount : String}
    {result : ContractResult}
    : (mintProtocol dep).wp (completeUsdcMint id sourceAccount result) ⟨.usdc req, .minted id⟩
        (fun _ phase => phase = ⟨.usdc req, .recorded id⟩)
        (fun _ phase => Unrecorded (.usdc req) id phase) := by
  have lapsed : Unrecorded (.usdc req) id ⟨.usdc req, .lapsed id⟩ := Or.inr rfl
  unfold completeUsdcMint
  simp only [Protocol.wp_catchWith, Protocol.wp_await]
  constructor
  · exact fun _ => ⟨⟨.usdc req, .recorded id⟩, by simp [nextStage, afterUpdate], rfl⟩
  · intro _
    refine ⟨⟨.usdc req, .compensating id⟩,
      by simp [nextStage, afterUpdate, MintRequest.isUsdc], ?_⟩
    have again : (mintProtocol dep).wp
        (ask (.updateTransaction id
          { status := .completed
            acbuAmount := some (recordedAmount result.result)
            blockchainTxHash := some result.transactionHash }))
        ⟨.usdc req, .compensating id⟩
        (fun _ phase => phase = ⟨.usdc req, .recorded id⟩)
        (fun _ phase => Unrecorded (.usdc req) id phase) := by
      simp [nextStage, afterUpdate, lapsed]
    simp only [Protocol.wp_bind, Protocol.wp_swallow, Protocol.wp_pure]
    exact wp_redeemSingle (fun _ => again) (fun _ => again)

theorem wp_mintUsdc {req : UsdcMintRequest} {id : TxId} {sourceAccount : String}
    : (mintProtocol dep).wp (mintUsdc req id sourceAccount) ⟨.usdc req, .holding id⟩
        (fun _ _ => True) (fun _ _ => True) := by
  unfold mintUsdc
  rw [Protocol.wp_catchWith]
  apply Protocol.wp_mono (Q := fun _ _ => True)
    (E := fun _ phase => Unrecorded (.usdc req) id phase)
  · rw [Protocol.wp_bind]
    apply Protocol.wp_mono
      (wp_invokeMint (fun _ => rfl) (fun _ => rfl) (fun _ named => by cases named))
    · rintro result _ rfl
      rw [Protocol.wp_bind]
      apply Protocol.wp_mono wp_completeUsdcMint
      · rintro _ _ rfl
        simp [nextStage, afterAudit, MintRequest.isConfirm]
      · exact fun _ _ held => held
    · exact fun _ _ held => held
  · exact fun _ _ _ => trivial
  · exact fun _ _ held => wp_recordFailure held

theorem wp_usdc (req : UsdcMintRequest)
    : (mintProtocol dep).wp (mintFromUsdcInternal req) (MintRequest.usdc req).start
        (fun _ _ => True) (fun _ _ => True) := by
  unfold mintFromUsdcInternal MintRequest.start
  simp only [Protocol.wp_bind, Protocol.wp_await]
  constructor
  · intro id
    refine ⟨⟨.usdc req, .holding id⟩, by simp [nextStage, MintRequest.isConfirm], ?_⟩
    refine ⟨fun mintingAddress => ⟨_, rfl, ?_⟩, fun _ => ⟨_, rfl, trivial⟩⟩
    by_cases unset : mintingAddress = ""
    · simp [unset, nextStage, afterUpdate]
    · simp only [unset, if_false, Protocol.wp_bind, Protocol.wp_await]
      refine ⟨fun publicKey => ⟨_, rfl, ?_⟩, fun _ => ⟨_, rfl, trivial⟩⟩
      cases publicKey with
      | none => simp [nextStage, afterUpdate]
      | some sourceAccount => exact wp_mintUsdc
  · exact fun _ => ⟨⟨.usdc req, .admitted⟩, by simp [nextStage, MintRequest.isConfirm], trivial⟩

theorem wp_mintConfirmed {req : ConfirmRequest} {body : ParsedConfirm}
    {sourceAccount userWallet : String} {acbuAmount : ℚ}
    : (mintProtocol dep).wp (mintConfirmed body sourceAccount userWallet acbuAmount)
        ⟨.confirm req, .holding body.transactionId⟩ (fun _ _ => True) (fun _ _ => True) := by
  unfold mintConfirmed
  rw [Protocol.wp_catchWith]
  apply Protocol.wp_mono (Q := fun _ _ => True)
    (E := fun _ phase => Unrecorded (.confirm req) body.transactionId phase)
  · rw [Protocol.wp_bind]
    apply Protocol.wp_mono
      (wp_invokeMint (fun _ => rfl) (fun _ => rfl) (fun _ named => (Option.some.inj named).symm))
    · rintro mintResult _ rfl
      simp [nextStage, afterUpdate, afterAudit, MintRequest.isUsdc, MintRequest.isConfirm,
        Unrecorded]
    · exact fun _ _ held => held
  · exact fun _ _ _ => trivial
  · intro mintErr phase held
    rw [Protocol.wp_bind]
    exact wp_markFailed held trivial (fun _ => trivial)

theorem wp_confirmPending {req : ConfirmRequest} {body : ParsedConfirm} {tx : Transaction}
    (parsed : mintConfirmBodySchema req.body = .ok body)
    : (mintProtocol dep).wp (confirmPending body tx) ⟨.confirm req, .admitted⟩
        (fun _ _ => True) (fun _ _ => True) := by
  have named : (MintRequest.confirm req).confirms? = some body.transactionId := by
    simp [MintRequest.confirms?, ConfirmRequest.transactionId?, parsed, Except.toOption]
  unfold confirmPending
  simp only [Protocol.wp_bind, Protocol.wp_ensure, implies_true, and_true]
  intro _
  refine Protocol.wp_await.mpr ⟨fun paused => ⟨_, rfl, fun _ => ?_⟩, fun _ => ⟨_, rfl, trivial⟩⟩
  refine Protocol.wp_await.mpr ⟨fun wallet => ⟨_, rfl, ?_⟩, fun _ => ⟨_, rfl, trivial⟩⟩
  simp only [Protocol.wp_orThrow, Protocol.wp_fromExcept, implies_true, and_true]
  intro userWallet _ amount _
  apply wp_convertLocal (fun acbuAmountInfo => ?_) (fun _ => trivial)
  refine Protocol.wp_await.mpr ⟨fun publicKey => ⟨_, rfl, ?_⟩, fun _ => ⟨_, rfl, trivial⟩⟩
  intro sourceAccount _ _
  refine Protocol.wp_await.mpr ⟨fun _ => ?_, fun _ => ?_⟩
  · exact ⟨⟨.confirm req, .holding body.transactionId⟩,
      by simp [nextStage, afterUpdate, named], wp_mintConfirmed⟩
  · exact ⟨⟨.confirm req, .admitted⟩, by simp [nextStage, afterUpdate, named], trivial⟩

theorem wp_confirm (req : ConfirmRequest)
    : (mintProtocol dep).wp (confirmRoute dep req) (MintRequest.confirm req).start
        (fun _ _ => True) (fun _ _ => True) := by
  unfold confirmRoute verifyMintConfirmationSignature MintRequest.start
  simp only [Protocol.wp_bind, Protocol.wp_fromExcept, implies_true, and_true]
  rintro ⟨secret, tsNum⟩ timestamp
  refine Protocol.wp_await.mpr ⟨fun nowS => ?_, fun _ => ⟨_, rfl, trivial⟩⟩
  refine ⟨_, rfl, ?_⟩
  intro verified signature
  cases verified with
  | false => simp
  | true =>
      have accepted : (MintRequest.confirm req).accepts dep nowS = true := by
        simp [MintRequest.accepts, ConfirmRequest.signatureAccepted, timestamp, signature]
      simp only [if_true, afterClock, accepted, and_self, confirmMint, Protocol.wp_bind,
        Protocol.wp_fromExcept, implies_true, and_true]
      intro body parsed
      refine Protocol.wp_await.mpr ⟨fun found => ⟨_, rfl, ?_⟩, fun _ => ⟨_, rfl, trivial⟩⟩
      simp only [Protocol.wp_orThrow, Protocol.wp_ite, Protocol.wp_pure, implies_true, and_true,
        true_and]
      intro tx _ _
      exact wp_confirmPending parsed

theorem wp_program (dep : Deployment) (request : MintRequest)
    : (mintProtocol dep).wp (request.program dep) request.start
        (fun _ _ => True) (fun _ _ => True) := by
  cases request with
  | deposit req => exact wp_deposit req
  | confirm req => exact wp_confirm req
  | usdc req => exact wp_usdc req

end AcbuBackend.Mint

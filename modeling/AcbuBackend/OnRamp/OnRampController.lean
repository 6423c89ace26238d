import AcbuBackend.Mint.MintController

/-! The on-ramp: the table of swaps, the two job queues, the handlers that register a swap, and
the jobs that process it. A queued message stays with the broker until it is acknowledged, and may
be delivered any number of times until then.
-/

namespace AcbuBackend.OnRamp

open Effects AcbuBackend.Runtime Mint

abbrev SwapId := String

inductive SwapSource
  | usdc_deposit
  | xlm_deposit
deriving DecidableEq

inductive SwapStatus
  | pending_convert
  | processing
  | completed
  | failed
deriving DecidableEq

/-- A row of `on_ramp_swaps`. Its id is the key of the table. -/
structure OnRampSwap where
  userId : String
  idempotencyKey : Option String
  stellarAddress : String
  source : SwapSource
  xlmAmount : Option ℚ
  usdcAmount : Option ℚ
  status : SwapStatus
  transactionId : Option TxId := none
deriving DecidableEq

/-- The `data` of an update. A field that is `none` is not written. -/
structure SwapUpdate where
  status : Option SwapStatus := none
  xlmAmount : Option ℚ := none
  transactionId : Option TxId := none
deriving DecidableEq

def OnRampSwap.apply (row : OnRampSwap) (data : SwapUpdate) : OnRampSwap :=
  { row with
    status := data.status.getD row.status
    xlmAmount := data.xlmAmount.or row.xlmAmount
    transactionId := data.transactionId.or row.transactionId }

-- Messages

/-- The queues of `QUEUES` the on-ramp uses. -/
inductive Queue
  | USDC_CONVERT_AND_MINT
  | XLM_TO_ACBU
deriving DecidableEq

structure XlmToAcbuPayload where
  onRampSwapId : SwapId
  userId : String
  stellarAddress : String
  xlmAmount : String
  usdcEquivalent : Option String
deriving DecidableEq

inductive Payload
  | usdcConvertAndMint (onRampSwapId : SwapId)
  | xlmToAcbu (payload : XlmToAcbuPayload)
deriving DecidableEq

def Payload.queue : Payload → Queue
  | .usdcConvertAndMint _ => .USDC_CONVERT_AND_MINT
  | .xlmToAcbu _ => .XLM_TO_ACBU

def Payload.onRampSwapId : Payload → SwapId
  | .usdcConvertAndMint id => id
  | .xlmToAcbu payload => payload.onRampSwapId

/-- A message with its `x-retries` header. -/
structure Message where
  payload : Payload
  retries : Nat := 0
deriving DecidableEq

-- Calls

/-- What `swapUsdcToXlm` returns. -/
structure SwapResult where
  xlmReceived : ℚ
  txHash : String

/-- The calls of the on-ramp. A call of the mint code and a conversion name the swap they
are made for, which is not sent anywhere.
-/
inductive OnRampOp
  | mint (onRampSwapId : Option SwapId) (op : MintOp)
  | findByIdempotencyKey (idempotencyKey userId : String)
  | createSwap (data : OnRampSwap)
  | claimSwap (id : SwapId) (source : Option SwapSource)
  | findSwap (id : SwapId)
  | updateSwap (id : SwapId) (data : SwapUpdate)
  | swapUsdcToXlm (onRampSwapId : SwapId) (usdcAmount : ℚ)
  | fetchXlmRateUsd
  | receive (queue : Queue)
  | sendToQueue (message : Message)
  | ack (message : Message)
  | nack (message : Message)
deriving DecidableEq

abbrev OnRampOp.Ret : OnRampOp → Type
  | .mint _ op => op.Ret
  | .findByIdempotencyKey .. => Option (SwapId × OnRampSwap)
  | .createSwap _ => SwapId
  | .claimSwap .. => Nat
  | .findSwap _ => Option OnRampSwap
  | .updateSwap .. => Unit
  | .swapUsdcToXlm .. => SwapResult
  | .fetchXlmRateUsd => Option ℚ
  | .receive _ => Message
  | .sendToQueue _ | .ack _ | .nack _ => Unit

abbrev onRampInterface : Interface where
  Op := OnRampOp
  Ret := OnRampOp.Ret
  Err := JsError

abbrev issue (op : OnRampOp) : Prog onRampInterface op.Ret :=
  Prog.await (I := onRampInterface) op

def mintCalls (onRampSwapId : Option SwapId) : Inclusion mintInterface onRampInterface where
  op := .mint onRampSwapId
  value := fun _ value => value
  error := id
  throws := id

-- The world

/-- The tables and queues, every payload ever sent, and the swaps a conversion or a mint was
applied for. The lists are newest first.
-/
structure World where
  mint : Mint.World
  swaps : AList (fun _ : SwapId => OnRampSwap)
  queue : List Message
  published : List Payload
  converted : List SwapId
  minted : List SwapId

/-- Tables and queues before any of the modelled requests and deliveries. -/
def World.start (swaps : AList (fun _ : SwapId => OnRampSwap)) (queue : List Message) : World where
  mint := .start ∅
  swaps := swaps
  queue := queue
  published := queue.map (·.payload)
  converted := []
  minted := []

/-- What the environment answers a call with. -/
structure Choice extends Mint.Choice where
  message : Message := { payload := .usdcConvertAndMint "" }
  swapResult : SwapResult := { xlmReceived := 0, txHash := "" }
  xlmRateUsd : Option ℚ := none
  freshSwapId : SwapId := ""

def mintedFor? : Option SwapId → MintOp → Option SwapId
  | some id, .invokeContract _ call _ => if call.isMint then some id else none
  | _, _ => none

/-- The world after a call of the mint code that left `mint`. -/
def World.afterMint (w : World) (onRampSwapId : Option SwapId) (op : MintOp) (mint : Mint.World)
    : World :=
  { w with mint, minted := (mintedFor? onRampSwapId op).toList ++ w.minted }

def World.put (w : World) (id : SwapId) (row : OnRampSwap) : World :=
  { w with swaps := w.swaps.insert id row }

/-- `prisma.onRampSwap.create` under a fresh id; the idempotency key is unique. -/
def World.create (w : World) (id : SwapId) (data : OnRampSwap) : Except JsError SwapId × World :=
  if data.idempotencyKey.isSome
      ∧ (w.swaps.entries.any (fun e => e.2.idempotencyKey = data.idempotencyKey))
  then (.error .uniqueConstraint, w)
  else (.ok id, w.put id data)

/-- Whether `updateMany` matches a row when a swap is claimed. -/
def OnRampSwap.claimable (row : OnRampSwap) (source : Option SwapSource) : Bool :=
  row.status = .pending_convert && source.all (fun wanted => row.source = wanted)

/-- `prisma.onRampSwap.updateMany` from `pending_convert` to `processing`: the number of rows
it has changed.
-/
def World.claim (w : World) (id : SwapId) (source : Option SwapSource)
    : Except JsError Nat × World :=
  match w.swaps.lookup id with
  | none => (.ok 0, w)
  | some row =>
      if row.claimable source then (.ok 1, w.put id { row with status := .processing })
      else (.ok 0, w)

/-- `prisma.onRampSwap.update` by id. -/
def World.update (w : World) (id : SwapId) (data : SwapUpdate) : Except JsError Unit × World :=
  match w.swaps.lookup id with
  | none => (.error (.error "Record to update not found."), w)
  | some row => (.ok (), w.put id (row.apply data))

/-- `prisma.onRampSwap.findFirst` by key and user. -/
def World.findFirst (w : World) (idempotencyKey userId : String) : Option (SwapId × OnRampSwap) :=
  (w.swaps.entries.find?
    (fun e => e.2.idempotencyKey = some idempotencyKey ∧ e.2.userId = userId)).map
    (fun e => (e.1, e.2))

/-- What a call that takes place answers, and the world it leaves. -/
def effect (x : Choice) (w : World) : (op : OnRampOp) → Except JsError op.Ret × World
  | .mint onRampSwapId op =>
      let (reply, mint) := Mint.effect x.toChoice w.mint op
      (reply, w.afterMint onRampSwapId op mint)
  | .findByIdempotencyKey key userId => (.ok (w.findFirst key userId), w)
  | .createSwap data => w.create x.freshSwapId data
  | .claimSwap id source => w.claim id source
  | .findSwap id => (.ok (w.swaps.lookup id), w)
  | .updateSwap id data => w.update id data
  | .swapUsdcToXlm id _ => (.ok x.swapResult, { w with converted := id :: w.converted })
  | .fetchXlmRateUsd => (.ok x.xlmRateUsd, w)
  | .receive _ => (.ok x.message, w)
  | .sendToQueue message =>
      (.ok (), { w with
        queue := message :: w.queue
        published := message.payload :: w.published })
  | .ack message | .nack message => (.ok (), { w with queue := w.queue.erase message })

/-- The environment's part of a call: a new id is not in use, a price that cannot be fetched
is none, and only a message the broker holds is delivered.
-/
def admissible (op : OnRampOp) (x : Choice) (w : World) : Bool :=
  match op with
  | .mint _ op => Mint.admissible op x.toChoice w.mint
  | .createSwap _ => x.freshSwapId ∉ w.swaps
  | .fetchXlmRateUsd => x.outcome = .done
  | .receive queue =>
      x.outcome = .done ∧ x.message ∈ w.queue ∧ x.message.payload.queue = queue
  | _ => true

def onRampEnvironment : Environment onRampInterface World Choice where
  outcome x := x.outcome
  effect := effect
  admissible := admissible

def onRampSemantics : Semantics onRampInterface World Choice :=
  onRampEnvironment.semantics

theorem act_eq_some {i : Nat} {op : OnRampOp} {x : Choice} {w w' : World}
    {reply : onRampInterface.Reply op}
    (h : onRampSemantics.act i op x w = some (reply, w'))
    : admissible op x w = true ∧ x.outcome.answer (effect x w op) w = (reply, w') :=
  Environment.act_eq_some h

-- The handlers and the jobs

open Effects.Prog

/-- The deployment of the mint code, with the environment variable of the XLM job. -/
structure Deployment extends Mint.Deployment where
  XLM_USD_RATE : Option String

/-- A part of the mint code, run for a swap or for none. -/
def service {α : Type} (onRampSwapId : Option SwapId) (prog : Prog mintInterface α)
    : Prog onRampInterface α :=
  prog.within (mintCalls onRampSwapId)

/-- The body of the 202 answers. -/
structure AcceptedResponse where
  on_ramp_swap_id : SwapId
  status : SwapStatus
  message : String
deriving DecidableEq

/-- What a request or a delivery ends with when it does not throw. -/
inductive OnRampResult
  | accepted (body : AcceptedResponse)
  | settled
deriving DecidableEq

-- Registration of a swap

def findExisting (idempotencyKey : Option String) (userId : String)
    : Prog onRampInterface (Option (SwapId × OnRampSwap)) :=
  match idempotencyKey with
  | some key => issue (.findByIdempotencyKey key userId)
  | none => pure none

/-- Creates a row. `.inr` is the caller's row that took the key in the meantime. -/
def createSwap (data : OnRampSwap) : Prog onRampInterface (SwapId ⊕ SwapId × OnRampSwap) :=
  catchWith
    (do
      let id ← issue (.createSwap data)
      return .inl id)
    (fun createError =>
      match data.idempotencyKey, createError with
      | some key, .uniqueConstraint => do
          let existingSwap ← issue (.findByIdempotencyKey key data.userId)
          let existing ← orThrow existingSwap createError
          return .inr existing
      | _, _ => fail createError)

/-- The common end of the handlers: a new row is announced to the job, an existing one is
answered as it stands.
-/
def registerSwap (data : OnRampSwap) (payload : SwapId → Payload) (message : String)
    : Prog onRampInterface OnRampResult := do
  let created ← createSwap data
  match created with
  | .inr (id, row) =>
      return .accepted { on_ramp_swap_id := id, status := row.status, message }
  | .inl id =>
      issue (.sendToQueue { payload := payload id })
      return .accepted { on_ramp_swap_id := id, status := .pending_convert, message }

-- mintFromUsdc

structure UsdcBody where
  usdc_amount : BodyField
  wallet_address : BodyField
  currency_preference : BodyField

structure UsdcRequest where
  apiKey : Option ApiKey
  audience : Option String
  idempotencyHeader : Option String
  body : UsdcBody

structure ParsedUsdc where
  usdcAmount : String
  walletAddress : String

/-- `z.enum(["auto"]).optional()`. -/
def isAutoPreference : BodyField → Bool
  | .absent => true
  | .text value => value = "auto"
  | .other _ => false

def usdcBodySchema (body : UsdcBody) : Except JsError ParsedUsdc :=
  let usdcAmount := body.usdc_amount.string? isMonetaryText
  let walletAddress := body.wallet_address.string? isWalletText
  let preference := isAutoPreference body.currency_preference
  match usdcAmount, walletAddress, preference with
  | some usdcAmount, some walletAddress, true => .ok { usdcAmount, walletAddress }
  | usdcAmount, walletAddress, preference =>
      .error (appError "Invalid request" 400 .VALIDATION_ERROR
        (invalidFields
          [("usdc_amount", usdcAmount.isSome), ("wallet_address", walletAddress.isSome),
            ("currency_preference", preference)]))

def usdcReceived : String :=
  "USDC deposit received. We will convert USDC→XLM in the backend and mint ACBU to your wallet; you do not need to wait for pools or swaps."

/-- The part of `mintFromUsdc` behind the lookup of the key. -/
def submitUsdc (dep : Deployment) (req : UsdcRequest) (userId : String)
    (idempotencyKey : Option String)
    : Prog onRampInterface OnRampResult := do
  let body ← fromExcept (usdcBodySchema req.body)
  let userWalletAddress ←
    service none (assertUserWalletAddress dep.toDeployment userId body.walletAddress)
  let usdcDecimal ← fromExcept (parseMonetaryString body.usdcAmount "usdc_amount")
  let paused ← service none (ask .isMintingPaused)
  ensure (!paused) mintingPaused
  service none (ask (.checkDepositLimits ((req.audience.filter (fun a => a ≠ "")).getD "retail")
    usdcDecimal userId (req.apiKey.bind (·.organizationId))))
  registerSwap
    { userId
      idempotencyKey
      stellarAddress := userWalletAddress
      source := .usdc_deposit
      xlmAmount := none
      usdcAmount := some usdcDecimal
      status := .pending_convert }
    .usdcConvertAndMint usdcReceived

def mintFromUsdc (dep : Deployment) (req : UsdcRequest) : Prog onRampInterface OnRampResult := do
  let userId ← orThrow (callerId? req.apiKey)
    (plainAppError "User context required for USDC deposit" 401)
  let idempotencyKey ← fromExcept (extractIdempotencyKey req.idempotencyHeader)
  let existingSwap ← findExisting idempotencyKey userId
  match existingSwap with
  | some (id, row) =>
      return .accepted { on_ramp_swap_id := id, status := row.status, message := usdcReceived }
  | none => submitUsdc dep req userId idempotencyKey

-- registerOnRampSwap

structure RegisterBody where
  stellar_address : BodyField
  xlm_amount : BodyField
  usdc_amount : BodyField

structure RegisterRequest where
  apiKey : Option ApiKey
  idempotencyHeader : Option String
  body : RegisterBody

structure ParsedRegister where
  stellarAddress : String
  xlmAmount : String
  usdcAmount : Option String

/-- The rule for `usdc_amount`: `some none` when it is absent. -/
def declaredUsdcSchema : BodyField → Option (Option String)
  | .absent => some none
  | .text value => if 1 ≤ jsLength value ∧ (jsNumber value).ge 0 then some (some value) else none
  | .other _ => none

def bodySchema (dep : Deployment) (body : RegisterBody) : Except JsError ParsedRegister :=
  let stellarAddress :=
    body.stellar_address.string? (fun s => isWalletText s && dep.isValidStellarAddress s)
  let xlmAmount := body.xlm_amount.string? (fun s => 1 ≤ jsLength s && (jsNumber s).gt 0)
  let usdcAmount := declaredUsdcSchema body.usdc_amount
  match stellarAddress, xlmAmount, usdcAmount with
  | some stellarAddress, some xlmAmount, some usdcAmount =>
      .ok { stellarAddress, xlmAmount, usdcAmount }
  | stellarAddress, xlmAmount, usdcAmount =>
      .error (appError "Invalid request" 400 .VALIDATION_ERROR
        (invalidFields
          [("stellar_address", stellarAddress.isSome), ("xlm_amount", xlmAmount.isSome),
            ("usdc_amount", usdcAmount.isSome)]))

def xlmQueued : String :=
  "XLM→ACBU job queued. ACBU will be minted to your wallet when processing completes."

/-- A number as the value of a decimal column, which holds finite numbers only. -/
def decimalColumn : JsNumber → Except JsError ℚ
  | .finite value => .ok value
  | _ => .error (.error "Invalid decimal value")

def registerOnRampSwap (dep : Deployment) (req : RegisterRequest)
    : Prog onRampInterface OnRampResult := do
  let userId ← orThrow (callerId? req.apiKey)
    (plainAppError "User context required for on-ramp registration" 401)
  let body ← fromExcept (bodySchema dep req.body)
  let userWalletAddress ←
    service none (assertUserWalletAddress dep.toDeployment userId body.stellarAddress)
  let idempotencyKey ← fromExcept (extractIdempotencyKey req.idempotencyHeader)
  let existingSwap ← findExisting idempotencyKey userId
  match existingSwap with
  | some (id, row) =>
      return .accepted { on_ramp_swap_id := id, status := row.status, message := xlmQueued }
  | none =>
      let xlmAmount ← fromExcept (decimalColumn (jsNumber body.xlmAmount))
      let usdcAmount ← fromExcept (body.usdcAmount.mapM (fun s => decimalColumn (jsNumber s)))
      registerSwap
        { userId
          idempotencyKey
          stellarAddress := userWalletAddress
          source := .xlm_deposit
          xlmAmount := some xlmAmount
          usdcAmount
          status := .pending_convert }
        (fun id => .xlmToAcbu
          { onRampSwapId := id
            userId
            stellarAddress := userWalletAddress
            xlmAmount := body.xlmAmount
            usdcEquivalent := body.usdcAmount })
        xlmQueued

-- Jobs

/-- `getQueueMaxRetries` of both queues. -/
def MAX_RETRIES : Nat := 5

/-- The callback of a consumer: a message whose processing throws is sent again with a higher
retry count, or given up.
-/
def consume (queue : Queue) (process : Message → Prog onRampInterface Unit)
    : Prog onRampInterface OnRampResult := do
  let msg ← issue (.receive queue)
  catchWith
    (do
      process msg
      issue (.ack msg))
    (fun _ =>
      if MAX_RETRIES ≤ msg.retries then issue (.nack msg)
      else do
        issue (.sendToQueue { msg with retries := msg.retries + 1 })
        issue (.ack msg))
  return .settled

def transactionOf : MintResult → Option TxId
  | .minted transactionId _ => some transactionId
  | _ => none

def mintForSwap (id : SwapId) (req : UsdcMintRequest) : Prog onRampInterface Unit := do
  let minted ← service (some id) (mintFromUsdcInternal req)
  issue (.updateSwap id { status := some .completed, transactionId := transactionOf minted })

/-- The conversion, unless an earlier attempt has recorded one. -/
def convertUsdc (id : SwapId) (swap : OnRampSwap) (usdcAmount : ℚ) : Prog onRampInterface Unit :=
  match swap.xlmAmount with
  | some _ => pure ()
  | none => do
      let swapped ← issue (.swapUsdcToXlm id usdcAmount)
      issue (.updateSwap id { xlmAmount := some swapped.xlmReceived })

/-- The start of both jobs: only the worker whose update has changed the row goes on. -/
def withClaimedSwap (onRampSwapId : SwapId) (source : Option SwapSource)
    (work : OnRampSwap → Prog onRampInterface Unit)
    : Prog onRampInterface Unit := do
  let claimed ← issue (.claimSwap onRampSwapId source)
  if claimed = 0 then return ()
  else
    let found ← issue (.findSwap onRampSwapId)
    match found with
    | none => return ()
    | some swap => work swap

def processUsdcConvertAndMint (onRampSwapId : SwapId) (finalAttempt : Bool)
    : Prog onRampInterface Unit :=
  withClaimedSwap onRampSwapId (some .usdc_deposit) (fun swap =>
    let usdcAmount := swap.usdcAmount.getD 0
    if usdcAmount ≤ 0 then issue (.updateSwap onRampSwapId { status := some .failed })
    else
      catchWith
        (do
          convertUsdc onRampSwapId swap usdcAmount
          mintForSwap onRampSwapId
            { usdcAmount
              walletAddress := swap.stellarAddress
              userId := some swap.userId
              organizationId := none })
        (fun e => do
          issue (.updateSwap onRampSwapId
            { status := some (if finalAttempt then .failed else .pending_convert) })
          fail e))

/-- `startUsdcConvertAndMintConsumer`: the delivery of one message. -/
def usdcConvertAndMintConsumer : Prog onRampInterface OnRampResult :=
  consume .USDC_CONVERT_AND_MINT (fun msg =>
    processUsdcConvertAndMint msg.payload.onRampSwapId (MAX_RETRIES - 1 ≤ msg.retries))

def rateInForce (dep : Deployment) (liveRate : Option ℚ) : JsNumber :=
  match liveRate with
  | some rate => .finite rate
  | none => jsNumber (dep.XLM_USD_RATE.getD "0.2")

/-- The USDC amount `processXlmToAcbu` mints for. A declared equivalent is taken as it is. -/
def usdcAmountOf (dep : Deployment) (payload : XlmToAcbuPayload) : Prog onRampInterface JsNumber :=
  match payload.usdcEquivalent.filter (fun s => s ≠ "") with
  | some usdcEquivalent => pure (jsNumber usdcEquivalent)
  | none => do
      let liveRate ← issue .fetchXlmRateUsd
      return (jsNumber payload.xlmAmount).mul (rateInForce dep liveRate)

def processXlmToAcbu (dep : Deployment) (payload : XlmToAcbuPayload)
    : Prog onRampInterface Unit := do
  let usdcAmount ← usdcAmountOf dep payload
  withClaimedSwap payload.onRampSwapId none (fun _ =>
    catchWith
      (do
        -- an amount that is not finite is refused by the first insert of the mint
        let usdcAmount ← fromExcept (decimalColumn usdcAmount)
        mintForSwap payload.onRampSwapId
          { usdcAmount
            walletAddress := payload.stellarAddress
            userId := some payload.userId
            organizationId := none })
      (fun e => do
        issue (.updateSwap payload.onRampSwapId { status := some .failed })
        fail e))

/-- `startXlmToAcbuConsumer`: the delivery of one message. -/
def xlmToAcbuConsumer (dep : Deployment) : Prog onRampInterface OnRampResult :=
  consume .XLM_TO_ACBU (fun msg =>
    match msg.payload with
    | .xlmToAcbu payload => processXlmToAcbu dep payload
    | .usdcConvertAndMint _ => pure ())

-- All parties

/-- A request of the on-ramp, or a delivery of one message to a consumer. -/
inductive Party
  | mintFromUsdc (req : UsdcRequest)
  | registerOnRampSwap (req : RegisterRequest)
  | usdcDelivery
  | xlmDelivery

def Party.program (dep : Deployment) : Party → Prog onRampInterface OnRampResult
  | .mintFromUsdc req => OnRamp.mintFromUsdc dep req
  | .registerOnRampSwap req => OnRamp.registerOnRampSwap dep req
  | .usdcDelivery => usdcConvertAndMintConsumer
  | .xlmDelivery => xlmToAcbuConsumer dep

instance : Inhabited Party := ⟨.usdcDelivery⟩

abbrev OnRampConfig := Config onRampInterface OnRampResult World

def initialConfig (dep : Deployment) (parties : List Party)
    (swaps : AList (fun _ : SwapId => OnRampSwap)) (queue : List Message)
    : OnRampConfig :=
  .initial (World.start swaps queue) (parties.map (Party.program dep))

def partyAt (parties : List Party) (i : Nat) : Party :=
  parties[i]?.getD default

end AcbuBackend.OnRamp

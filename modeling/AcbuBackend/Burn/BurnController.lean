import AcbuBackend.Mint.MintController

/-! The wallets, the burns, and the burn handler, with the fee policy and the withdrawal limits in
front of it. The reserve status, the limits and what has been withdrawn so far are chosen by the
environment anew at every call.
-/

namespace AcbuBackend.Burn

open Effects Effects.Prog AcbuBackend.Runtime AcbuBackend.Units Mint

abbrev BurnId := String

abbrev WalletId := String

/-- The currencies of `burnBodySchema`. -/
inductive BurnCurrency
  | NGN
  | KES
  | RWF
deriving DecidableEq

def BurnCurrency.code : BurnCurrency → String
  | .NGN => "NGN"
  | .KES => "KES"
  | .RWF => "RWF"

inductive BurnStatus
  | PENDING
  | CONFIRMED
  | FAILED
deriving DecidableEq

/-- A wallet. The user is unique in the table. -/
structure Wallet where
  userId : String
  acbuBalance : ℚ

/-- A burn. The idempotency key is unique in the table. -/
structure BurnTransaction where
  userId : String
  acbuAmount : ℚ
  feeAmount : ℚ
  currency : BurnCurrency
  idempotencyKey : String
  status : BurnStatus
  contractTxHash : Option String := none

/-- The `data` of an update. A field that is `none` is not written. -/
structure BurnUpdate where
  status : BurnStatus
  contractTxHash : Option String := none

def BurnTransaction.apply (row : BurnTransaction) (data : BurnUpdate) : BurnTransaction :=
  { row with
    status := data.status
    contractTxHash := data.contractTxHash.or row.contractTxHash }

-- Services

/-- The reserve of one currency, as `getReserveStatus` reports it. -/
structure ReserveStatus where
  currency : String
  targetWeight : ℚ
  actualWeight : ℚ

/-- The withdrawal caps of an audience. -/
structure LimitConfig where
  withdrawalSingleCurrencyDailyUsd : ℚ
  withdrawalSingleCurrencyMonthlyUsd : ℚ
deriving DecidableEq

structure LimitsSnapshot where
  retail : LimitConfig
  business : LimitConfig
  government : LimitConfig
  reserveWeightThresholdPct : ℚ
deriving DecidableEq

/-- `snapshot.audiences[audience]`. -/
def LimitsSnapshot.audience? (snapshot : LimitsSnapshot) (audience : String)
    : Option LimitConfig :=
  if audience = "retail" then some snapshot.retail
  else if audience = "business" then some snapshot.business
  else if audience = "government" then some snapshot.government
  else none

/-- The window a withdrawal limit is checked over. -/
inductive Window
  | startOfDay
  | startOfMonth

/-- What `buildActorWhere` selects the transactions of an actor by. -/
inductive ActorWhere
  | user (userId : String)
  | organization (organizationId : String)
  | noUser
deriving DecidableEq

def buildActorWhere (userId organizationId : Option String) : ActorWhere :=
  match userId.filter (fun id => id ≠ ""), organizationId.filter (fun id => id ≠ "") with
  | some userId, _ => .user userId
  | none, some organizationId => .organization organizationId
  | none, none => .noUser

-- Calls

/-- The calls of the burn handler. A contract call names the burn it is made for, which is
not sent to the chain. A `localCurrency` of `none` does not restrict the sum.
-/
inductive BurnOp
  | mint (op : MintOp)
  | getReserveStatus
  | getLimitsSnapshot
  | sumAcbuAmountBurned (since : Window) (localCurrency : Option String) (actor : ActorWhere)
  | getAcbuUsdRate
  | findWallet (userId : String)
  | findBurn (idempotencyKey : String)
  | createBurn (data : BurnTransaction)
  | updateBurn (id : BurnId) (data : BurnUpdate)
  | decrementBalance (id : WalletId) (amount : ℚ)

abbrev BurnOp.Ret : BurnOp → Type
  | .mint op => op.Ret
  | .getReserveStatus => List ReserveStatus
  | .getLimitsSnapshot => LimitsSnapshot
  | .sumAcbuAmountBurned .. => ℚ
  | .getAcbuUsdRate => ℚ
  | .findWallet _ => Option (WalletId × Wallet)
  | .findBurn _ => Option (BurnId × BurnTransaction)
  | .createBurn _ => BurnId
  | .updateBurn .. => Unit
  | .decrementBalance .. => Unit

abbrev burnInterface : Interface where
  Op := BurnOp
  Ret := BurnOp.Ret
  Err := JsError

/-- Issues a call of the burn handler. -/
abbrev perform (op : BurnOp) : Prog burnInterface op.Ret :=
  Prog.await (I := burnInterface) op

/-- The calls shared with the mint code: the signing key, the chain and the audit log. -/
def mintCalls : Inclusion mintInterface burnInterface where
  op := .mint
  value := fun _ value => value
  error := id
  throws := id

-- The world

/-- The tables, and the contract calls applied on chain, each with its burn. -/
structure World where
  mint : Mint.World
  wallets : AList (fun _ : WalletId => Wallet)
  burns : AList (fun _ : BurnId => BurnTransaction)

/-- The tables before any of the modelled requests. -/
def World.start (wallets : AList (fun _ : WalletId => Wallet))
    (burns : AList (fun _ : BurnId => BurnTransaction))
    : World :=
  { mint := .start ∅, wallets, burns }

/-- What the environment answers a call with. -/
structure Choice extends Mint.Choice where
  reserveStatus : List ReserveStatus := []
  limits : LimitsSnapshot
  burned : ℚ := 0
  acbuUsdRate : ℚ := 0
  freshBurnId : BurnId := ""

/-- `prisma.wallet.findUnique` by user. -/
def World.findWallet (w : World) (userId : String) : Option (WalletId × Wallet) :=
  (w.wallets.entries.find? (fun e => e.2.userId = userId)).map (fun e => (e.1, e.2))

/-- `prisma.burnTransaction.findUnique` by key. -/
def World.findBurn (w : World) (idempotencyKey : String) : Option (BurnId × BurnTransaction) :=
  (w.burns.entries.find? (fun e => e.2.idempotencyKey = idempotencyKey)).map
    (fun e => (e.1, e.2))

/-- `prisma.burnTransaction.create` under a fresh id. -/
def World.createBurn (w : World) (id : BurnId) (data : BurnTransaction)
    : Except JsError BurnId × World :=
  if (w.findBurn data.idempotencyKey).isSome then (.error .uniqueConstraint, w)
  else (.ok id, { w with burns := w.burns.insert id data })

/-- `prisma.burnTransaction.update` by id. -/
def World.updateBurn (w : World) (id : BurnId) (data : BurnUpdate)
    : Except JsError Unit × World :=
  match w.burns.lookup id with
  | none => (.error (.error "Record to update not found."), w)
  | some row => (.ok (), { w with burns := w.burns.insert id (row.apply data) })

/-- `prisma.wallet.update` that decrements the balance. -/
def World.decrementBalance (w : World) (id : WalletId) (amount : ℚ)
    : Except JsError Unit × World :=
  match w.wallets.lookup id with
  | none => (.error (.error "Record to update not found."), w)
  | some wallet =>
      (.ok (), { w with
        wallets :=
          w.wallets.insert id { wallet with acbuBalance := wallet.acbuBalance - amount } })

/-- What a call that takes place answers, and the world it leaves. -/
def effect (x : Choice) (w : World) : (op : BurnOp) → Except JsError op.Ret × World
  | .mint op =>
      let (reply, mint) := Mint.effect x.toChoice w.mint op
      (reply, { w with mint })
  | .getReserveStatus => (.ok x.reserveStatus, w)
  | .getLimitsSnapshot => (.ok x.limits, w)
  | .sumAcbuAmountBurned .. => (.ok x.burned, w)
  | .getAcbuUsdRate => (.ok x.acbuUsdRate, w)
  | .findWallet userId => (.ok (w.findWallet userId), w)
  | .findBurn key => (.ok (w.findBurn key), w)
  | .createBurn data => w.createBurn x.freshBurnId data
  | .updateBurn id data => w.updateBurn id data
  | .decrementBalance id amount => w.decrementBalance id amount

/-- The environment's part of a call: a new id is not in use, and limits that cannot be
loaded are the default ones.
-/
def admissible (op : BurnOp) (x : Choice) (w : World) : Bool :=
  match op with
  | .mint op => Mint.admissible op x.toChoice w.mint
  | .getLimitsSnapshot => x.outcome = .done
  | .createBurn _ => x.freshBurnId ∉ w.burns
  | _ => true

def burnEnvironment : Environment burnInterface World Choice where
  outcome x := x.outcome
  effect := effect
  admissible := admissible

def burnSemantics : Semantics burnInterface World Choice :=
  burnEnvironment.semantics

/-- Whether a `redeemSingle` was applied on chain for a burn. -/
def World.redeemed (w : World) (id : BurnId) : Bool :=
  w.mint.applied.any (fun entry => !entry.1.isMint && entry.2 = id)

/-- Amount plus fee of the burns of a user whose `redeemSingle` was applied. -/
def World.charged (w : World) (userId : String) : ℚ :=
  ((w.burns.entries.filter (fun e => e.2.userId = userId && w.redeemed e.1)).map
    (fun e => e.2.acbuAmount + e.2.feeAmount)).sum

-- The handler

/-- What the handler takes from the configuration, and how the decimal library writes
numbers.
-/
structure Deployment where
  burning : String
  toText : ℚ → String
  toFixed : ℚ → Nat → String

/-- How a template literal writes an optional text. -/
def optionText (text : Option String) : String :=
  text.getD "undefined"

-- Requests

/-- The value of a header as the server hands it over. -/
inductive Header
  | absent
  | text (value : String)
  | texts (values : List String)

/-- `extractIdempotencyKey` of the handler, which takes the header as it stands. -/
def extractIdempotencyKey : Header → Option String
  | .absent => none
  | .text value => some value
  | .texts values => values.head?

/-- The body of `POST /v1/burn/acbu`. -/
structure BurnBody where
  acbu_amount : BodyField
  currency : BodyField

structure ParsedBurn where
  acbuAmount : String
  currency : BurnCurrency

structure BurnRequest where
  apiKey : Option ApiKey
  idempotencyHeader : Header
  body : BurnBody

/-- `z.enum(["NGN", "KES", "RWF"])`. -/
def burnCurrency? : BodyField → Option BurnCurrency
  | .text value => [BurnCurrency.NGN, .KES, .RWF].find? (fun currency => currency.code = value)
  | _ => none

def burnBodySchema (body : BurnBody) : Option ParsedBurn := do
  let acbuAmount ← body.acbu_amount.string? (fun s => 1 ≤ jsLength s)
  let currency ← burnCurrency? body.currency
  return { acbuAmount, currency }

/-- The key of a request, an empty one being refused like a missing one. -/
def BurnRequest.key? (req : BurnRequest) : Option String :=
  (extractIdempotencyKey req.idempotencyHeader).filter (fun key => key ≠ "")

structure BurnResponse where
  statusCode : Nat
  transaction_id : BurnId
  status : BurnStatus
  amount : ℚ
  fee : ℚ
  transaction_hash : Option String := none
  message : Option String := none

-- limitsService

/-- How much of its target weight a reserve holds, in percent. -/
def ReserveStatus.pctOfTarget (curr : ReserveStatus) : ℚ :=
  curr.actualWeight / curr.targetWeight * 100

def isCurrencyWithdrawalPaused (currency : String) : Prog burnInterface Bool := do
  let status ← perform .getReserveStatus
  match status.find? (fun c => c.currency = currency) with
  | none => return false
  | some curr =>
      if curr.targetWeight ≤ 0 then return false
      else do
        let limits ← perform .getLimitsSnapshot
        return curr.pctOfTarget < limits.reserveWeightThresholdPct

/-- Throws when what has been withdrawn exceeds a cap. -/
def ensureWithinCap (dep : Deployment) (window : String) (currency : Option String)
    (usd cap : ℚ)
    : Prog burnInterface Unit :=
  ensure (usd ≤ cap)
    (plainAppError
      s!"Withdrawal {window} limit for {optionText currency} exceeded (${dep.toText cap} equivalent)."
      429)

def checkWithdrawalLimits (dep : Deployment) (audience : String) (amountAcbu : ℚ)
    (currency userId organizationId : Option String)
    : Prog burnInterface Unit := do
  let limits ← perform .getLimitsSnapshot
  let actor := buildActorWhere userId organizationId
  let burnedDaily ← perform (.sumAcbuAmountBurned .startOfDay currency actor)
  let burnedMonthly ← perform (.sumAcbuAmountBurned .startOfMonth currency actor)
  let acbuUsdRate ← perform .getAcbuUsdRate
  let config ← orThrow (limits.audience? audience)
    (.error "Cannot read properties of undefined (reading 'withdrawalSingleCurrencyDailyUsd')")
  ensureWithinCap dep "daily" currency ((burnedDaily + amountAcbu) * acbuUsdRate)
    config.withdrawalSingleCurrencyDailyUsd
  ensureWithinCap dep "monthly" currency ((burnedMonthly + amountAcbu) * acbuUsdRate)
    config.withdrawalSingleCurrencyMonthlyUsd

-- feePolicyService

def BASE_BURN_FEE_BPS : ℚ := 30

def LOW_RESERVE_BURN_FEE_BPS : ℚ := 200

def HIGH_RESERVE_BURN_FEE_BPS : ℚ := 5

def LOW_RESERVE_THRESHOLD_PCT : ℚ := 85

def HIGH_RESERVE_THRESHOLD_PCT : ℚ := 115

def RESERVE_THRESHOLD_EPSILON : ℚ := 1 / 10 ^ 9

def MIN_SANITY_FEE_BPS : ℚ := 1

def MAX_SANITY_FEE_BPS : ℚ := 500

def validateFeeSanity (dep : Deployment) (feeBps : ℚ) (context : String)
    : Prog burnInterface Unit :=
  ensure (MIN_SANITY_FEE_BPS ≤ feeBps && feeBps ≤ MAX_SANITY_FEE_BPS)
    (.error
      (s!"Fee sanity check failed for {context}: {dep.toText feeBps} BPS is outside "
        ++ s!"acceptable range [{dep.toText MIN_SANITY_FEE_BPS}, {dep.toText MAX_SANITY_FEE_BPS}]"))

/-- The fee tier of `getBurnFeeBps`. -/
def burnFeeBpsAt (pctOfTarget : ℚ) : ℚ :=
  if pctOfTarget < LOW_RESERVE_THRESHOLD_PCT - RESERVE_THRESHOLD_EPSILON then
    LOW_RESERVE_BURN_FEE_BPS
  else if HIGH_RESERVE_THRESHOLD_PCT + RESERVE_THRESHOLD_EPSILON < pctOfTarget then
    HIGH_RESERVE_BURN_FEE_BPS
  else BASE_BURN_FEE_BPS

def currencyNotFound (currency : Option String) : JsError :=
  .error s!"Currency {optionText currency} not found in reserve status. Cannot calculate burn fee."

/-- `getBurnFeeBps`. A `currency` of `none` is an argument that is not passed, which is the
currency of no reserve.
-/
def getBurnFeeBps (dep : Deployment) (currency : Option String) : Prog burnInterface ℚ := do
  let status ← perform .getReserveStatus
  let curr ← orThrow (status.find? (fun c => some c.currency = currency))
    (currencyNotFound currency)
  ensure (0 < curr.targetWeight)
    (.error
      (s!"Invalid target weight for {optionText currency}: {dep.toText curr.targetWeight}. "
        ++ "Cannot calculate burn fee."))
  let feeBps := burnFeeBpsAt curr.pctOfTarget
  validateFeeSanity dep feeBps
    (s!"burn {optionText currency} (actual: {dep.toFixed curr.actualWeight 2}%, "
      ++ s!"target: {dep.toFixed curr.targetWeight 2}%, ratio: {dep.toFixed curr.pctOfTarget 2}%)")
  return feeBps

-- burnAcbu

/-- A burn that has passed the checks on its balance. -/
structure BurnOrder where
  userId : String
  walletId : WalletId
  idempotencyKey : String
  currency : BurnCurrency
  acbuAmount : ℚ
  fee : ℚ

def BurnOrder.totalDeduction (order : BurnOrder) : ℚ :=
  order.acbuAmount + order.fee

def BurnOrder.pendingRow (order : BurnOrder) : BurnTransaction where
  userId := order.userId
  acbuAmount := order.acbuAmount
  feeAmount := order.fee
  currency := order.currency
  idempotencyKey := order.idempotencyKey
  status := .PENDING

/-- The answer to a request whose key is already in use. -/
def existingBurnResponse (id : BurnId) (row : BurnTransaction) : BurnResponse where
  statusCode := 200
  transaction_id := id
  status := row.status
  amount := row.acbuAmount
  fee := row.feeAmount

/-- The redemption of the burn `id`, and the writes that record it. Any error in here, also
one of a write behind the redemption, marks the burn failed.
-/
def redeemBurn (order : BurnOrder) (id : BurnId) : Prog burnInterface BurnResponse :=
  catchWith
    (do
      let result ← Prog.within mintCalls
        (redeemSingle id order.userId order.walletId
          (numberToBigInt (decimalToContractNumber order.acbuAmount)) order.currency.code
          order.idempotencyKey)
      perform (.updateBurn id
        { status := .CONFIRMED, contractTxHash := some result.transactionHash })
      perform (.decrementBalance order.walletId order.totalDeduction)
      perform (.mint (.logAudit id "burn_success"))
      return {
        statusCode := 200
        transaction_id := id
        status := .CONFIRMED
        amount := order.acbuAmount
        fee := order.fee
        transaction_hash := some result.transactionHash })
    (fun _ => do
      perform (.updateBurn id { status := .FAILED })
      perform (.mint (.logAudit id "burn_failed"))
      fail (plainAppError "Contract invocation failed. Please try again later." 500))

/-- What `burnAcbu` does behind the checks on the balance. -/
def placeBurn (dep : Deployment) (order : BurnOrder) : Prog burnInterface BurnResponse := do
  -- the user is passed for the audience, and the currency not at all
  checkWithdrawalLimits dep order.userId order.acbuAmount none none none
  let existingBurn ← perform (.findBurn order.idempotencyKey)
  match existingBurn with
  | some (id, row) => return existingBurnResponse id row
  | none =>
      let id ← perform (.createBurn order.pendingRow)
      if dep.burning = "" then
        return {
          statusCode := 202
          transaction_id := id
          status := .PENDING
          amount := order.acbuAmount
          fee := order.fee
          message := some "Burn transaction submitted and is being processed" }
      else redeemBurn order id

def burnAcbu (dep : Deployment) (req : BurnRequest) : Prog burnInterface BurnResponse := do
  let userId ← orThrow (callerId? req.apiKey) (plainAppError "Authentication required" 401)
  let idempotencyKey ← orThrow req.key?
    (plainAppError "Idempotency-Key header is required" 400)
  let body ← orThrow (burnBodySchema req.body) (plainAppError "Invalid request body" 400)
  let paused ← isCurrencyWithdrawalPaused body.currency.code
  ensure (!paused)
    (plainAppError s!"Withdrawals for {body.currency.code} are temporarily paused" 503)
  let acbuAmount ← fromExcept (parseMonetaryString body.acbuAmount)
  ensure (0 ≤ acbuAmount) (plainAppError "Invalid ACBU amount" 400)
  let found ← perform (.findWallet userId)
  let (walletId, wallet) ← orThrow found (plainAppError "Wallet not found" 404)
  ensure (acbuAmount ≤ wallet.acbuBalance)
    (plainAppError
      (s!"Insufficient ACBU balance. Available: {dep.toText wallet.acbuBalance}, "
        ++ s!"Requested: {dep.toText acbuAmount}")
      400)
  -- the fee is asked for without the currency
  let feeBps ← getBurnFeeBps dep none
  let order : BurnOrder :=
    { userId, walletId, idempotencyKey
      currency := body.currency
      acbuAmount
      fee := calculateFee acbuAmount feeBps }
  ensure (order.totalDeduction ≤ wallet.acbuBalance)
    (plainAppError
      (s!"Insufficient balance for burn and fees. Required: {dep.toText order.totalDeduction}, "
        ++ s!"Available: {dep.toText wallet.acbuBalance}")
      400)
  placeBurn dep order

abbrev BurnConfig := Config burnInterface BurnResponse World

/-- The requests, all before their first call, on the two tables. -/
def initialConfig (dep : Deployment) (requests : List BurnRequest)
    (wallets : AList (fun _ : WalletId => Wallet))
    (burns : AList (fun _ : BurnId => BurnTransaction))
    : BurnConfig :=
  .initial (World.start wallets burns) (requests.map (burnAcbu dep))

end AcbuBackend.Burn

import AcbuBackend.Mint.Model
import AcbuBackend.Units.ContractAmount

/-! The mint handlers and the contract service behind them. -/

namespace AcbuBackend.Mint

open Effects Effects.Prog AcbuBackend.Runtime AcbuBackend.Units Rates

/-- What the handlers take from the configuration and from cryptographic libraries. -/
structure Deployment where
  confirmationSecret : Option String
  sha256Hex : String → String
  /-- The bytes of the HMAC-SHA256 of a raw body under a secret. -/
  hmacSha256 : String → String → List Nat
  isValidStellarAddress : String → Bool

-- Requests

def basketCurrencies : List String :=
  ["NGN", "ZAR", "KES", "EGP", "GHS", "RWF", "XOF", "MAD", "TZS", "UGX"]

def forbiddenDepositCurrencies : List String := ["USDC", "USDT"]

def basketCurrencyList : String := String.intercalate ", " basketCurrencies

def isAllowedDepositCurrency (currency : String) : Bool :=
  basketCurrencies.contains currency

def isForbiddenDepositCurrency (currency : String) : Bool :=
  forbiddenDepositCurrencies.contains (jsToUpperCase currency)

/-- The body of `POST /v1/mint/deposit`. -/
structure DepositBody where
  currency : BodyField
  amount : BodyField
  wallet_address : BodyField
  fintech_tx_id : BodyField

structure DepositRequest where
  apiKey : Option ApiKey
  audience : Option String
  idempotencyHeader : Option String
  body : DepositBody

structure ParsedDeposit where
  currency : String
  amount : String
  walletAddress : String
  fintechTxId : Option String

/-- `fintechTxIdSchema`: `some none` for an absent id. -/
def fintechTxIdSchema : BodyField → Option (Option String)
  | .absent => some none
  | .text value =>
      let trimmed := jsTrim value
      if 1 ≤ jsLength trimmed ∧ jsLength trimmed ≤ 255 ∧ ¬ trimmed.toList.any isJsSpace
      then some (some trimmed)
      else none
  | .other _ => none

def depositBodySchema (body : DepositBody) : Except JsError ParsedDeposit :=
  let currency := (body.currency.string? (fun s => jsLength s = 3)).map jsToUpperCase
  let currency :=
    currency.filter (fun c => isAllowedDepositCurrency c || isForbiddenDepositCurrency c)
  let amount := body.amount.string? isMonetaryText
  let wallet := body.wallet_address.string? isWalletText
  let fintechTxId := fintechTxIdSchema body.fintech_tx_id
  match currency, amount, wallet, fintechTxId with
  | some currency, some amount, some walletAddress, some fintechTxId =>
      .ok { currency, amount, walletAddress, fintechTxId }
  | currency, amount, wallet, fintechTxId =>
      .error (appError "Invalid request" 400 .VALIDATION_ERROR
        (invalidFields
          [("currency", currency.isSome), ("amount", amount.isSome),
            ("wallet_address", wallet.isSome), ("fintech_tx_id", fintechTxId.isSome)]))

/-- The body of `POST /v1/mint/confirm`. -/
structure ConfirmBody where
  transaction_id : BodyField
  partner_reference : BodyField
  amount : BodyField
  currency : BodyField
  confirmed_at : BodyField

structure ConfirmRequest where
  timestampHeader : Option String
  signatureHeader : Option String
  rawBody : Option String
  body : ConfirmBody

structure ParsedConfirm where
  transactionId : TxId
  partnerReference : String
  amount : String
  currency : String
  confirmedAt : ℚ
deriving DecidableEq

/-- `z.coerce.number().int().positive()`. -/
def positiveInteger? (field : BodyField) : Option ℚ :=
  match field.coerced with
  | .finite value => if value.den = 1 ∧ 0 < value then some value else none
  | _ => none

def mintConfirmBodySchema (body : ConfirmBody) : Except JsError ParsedConfirm :=
  let transactionId := body.transaction_id.string? (fun s => 1 ≤ jsLength s)
  let partnerReference := body.partner_reference.string? (fun s =>
    1 ≤ jsLength s && jsLength s ≤ 255 && !s.toList.any isJsSpace)
  let amount := body.amount.string? isMonetaryText
  let currency := (body.currency.string? (fun s => jsLength s = 3)).map jsToUpperCase
  let confirmedAt := positiveInteger? body.confirmed_at
  match transactionId, partnerReference, amount, currency, confirmedAt with
  | some transactionId, some partnerReference, some amount, some currency, some confirmedAt =>
      .ok { transactionId, partnerReference, amount, currency, confirmedAt }
  | transactionId, partnerReference, amount, currency, confirmedAt =>
      .error (appError "Invalid mint confirmation payload" 400 .VALIDATION_ERROR
        (invalidFields
          [("transaction_id", transactionId.isSome),
            ("partner_reference", partnerReference.isSome), ("amount", amount.isSome),
            ("currency", currency.isSome), ("confirmed_at", confirmedAt.isSome)]))

-- Responses

structure DepositResponse where
  transaction_id : TxId
  currency : String
  amount : ℚ
  wallet_address : String := "***"
  status : TransactionStatus
  message : String
deriving DecidableEq

structure ConfirmResponse where
  ok : Bool := true
  transaction_id : TxId
  status : TransactionStatus := .completed
  acbu_amount : Option ℚ
  blockchain_tx_hash : Option String
  message : String
deriving DecidableEq

/-- What a request of the module ends with when it does not throw. -/
inductive MintResult
  | deposit (statusCode : Nat) (body : DepositResponse)
  | confirmation (statusCode : Nat) (body : ConfirmResponse)
  | rejected (statusCode : Nat) (error : String)
  | minted (transactionId : TxId) (acbuAmount : ℚ)
deriving DecidableEq

-- Services

/-- `markTransactionFailed`: an error of the update is dropped. -/
def markTransactionFailed (txId : Option TxId) : Prog mintInterface Unit :=
  match txId with
  | none => pure ()
  | some id => swallow (ask (.updateTransaction id { status := .failed }))

def noSourceAccount : JsError := .error "No source account available"

/-- The shape the mint functions of `MintingService` share. `row` is the transaction the
call is made for, `txId` the one named in its parameters, `amount` the text of the units.
-/
def invokeMint (row : TxId) (txId : Option TxId) (amount : String) (call : ℤ → ContractCall)
    : Prog mintInterface ContractResult :=
  catchWith
    (do
      let publicKey ← ask .getKeypair
      let sourceAccount ← orThrow publicKey noSourceAccount
      let units ← fromExcept (stringToBigInt amount)
      ask (.invokeContract sourceAccount (call units) row))
    (fun error => do
      markTransactionFailed txId
      fail error)

/-- `MintingService.mintFromBasket`. -/
def mintFromBasket (txId : TxId) (user recipient acbuAmount : String)
    : Prog mintInterface ContractResult :=
  invokeMint txId (some txId) acbuAmount (fun units => .mintFromBasket user recipient units)

/-- `MintingService.mintFromUsdc`, called without a `txId` for the row `row`. -/
def mintFromUsdc (row : TxId) (user usdcAmount recipient : String)
    : Prog mintInterface ContractResult :=
  invokeMint row none usdcAmount (fun units => .mintFromUsdc user units recipient)

/-- `BurningService.redeemSingle`, for the row `row`. `units` is `BigInt(acbuAmount)`. -/
def redeemSingle (row : TxId) (user recipient : String) (units : Except JsError ℤ)
    (currency idempotencyKey : String)
    : Prog mintInterface ContractResult := do
  ensure (idempotencyKey ≠ "") (.error "Idempotency key is required")
  let publicKey ← ask .getKeypair
  let sourceAccount ← orThrow publicKey noSourceAccount
  let units ← fromExcept units
  ask (.invokeContract sourceAccount
    (.redeemSingle user recipient units currency idempotencyKey) row)

def assertUserWalletAddress (dep : Deployment) (userId providedAddress : String)
    : Prog mintInterface String := do
  let wallet ← ask (.findUserWallet userId)
  let stellarAddress ← orThrow (wallet.filter (fun address => address ≠ ""))
    (plainAppError "User wallet address not set" 400)
  ensure (dep.isValidStellarAddress stellarAddress)
    (plainAppError "Invalid wallet address format" 500)
  ensure (stellarAddress = providedAddress)
    (plainAppError "Wallet address does not match user" 403)
  return stellarAddress

def convertLocal (localAmount : ℚ) (currency : String)
    : Prog mintInterface ConversionResult := do
  ensure (currencyToRateField currency).isSome (unsupportedCurrency currency)
  let latestRate ← ask .getLatestAcbuRate
  fromExcept (convertAtRate latestRate localAmount currency)

/-- `contractNumberToDecimal(Number(units))`. The double of units with 128 bits is finite. -/
def recordedAmount (units : ℤ) : ℚ :=
  (contractNumberToDecimal (numberValue units)).getD 0

/-- `decimalToContractNumber(amount).toString()`. -/
def unitsText (amount : ℚ) : String :=
  numberToString (decimalToContractNumber amount)

def mintingPaused : JsError :=
  appError "New minting is temporarily paused (reserve ratio below 102%)." 503 .CIRCUIT_BREAKER

-- mintFromUsdcInternal

structure UsdcMintRequest where
  usdcAmount : ℚ
  walletAddress : String
  userId : Option String
  organizationId : Option String

def mintFeeBps : ℚ := 30

/-- Writes the completed row. When that fails the minted tokens are burnt again and the
write is repeated.
-/
def completeUsdcMint (id : TxId) (sourceAccount : String) (result : ContractResult)
    : Prog mintInterface Unit :=
  let acbuAmount := recordedAmount result.result
  let completed : TransactionUpdate :=
    { status := .completed
      acbuAmount := some acbuAmount
      blockchainTxHash := some result.transactionHash }
  catchWith (ask (.updateTransaction id completed))
    (fun _ => do
      -- the compensation passes the decimal amount where units are expected
      swallow (do
        let _ ← redeemSingle id sourceAccount sourceAccount (toBigInt acbuAmount) "USDC"
          s!"compensation:{id}"
        return ())
      ask (.updateTransaction id completed))

/-- The mint of `mintFromUsdcInternal` for the row it has created. -/
def mintUsdc (req : UsdcMintRequest) (id : TxId) (sourceAccount : String)
    : Prog mintInterface MintResult :=
  catchWith
    (do
      let result ← mintFromUsdc id sourceAccount (unitsText req.usdcAmount)
        req.walletAddress
      completeUsdcMint id sourceAccount result
      swallow (ask (.logAudit id "mint_completed"))
      return .minted id (recordedAmount result.result))
    (fun error => do
      ask (.updateTransaction id { status := .failed })
      swallow (ask (.logAudit id "mint_failed"))
      fail error)

def mintFromUsdcInternal (req : UsdcMintRequest) : Prog mintInterface MintResult := do
  let id ← ask (.createTransaction
    { userId := req.userId
      organizationId := req.organizationId
      status := .pending
      usdcAmount := some req.usdcAmount
      fee := some (calculateFee req.usdcAmount mintFeeBps) })
  let mintingAddress ← ask .mintingAddress
  if mintingAddress = "" then
    ask (.updateTransaction id { status := .failed })
    fail (.error "Minting contract address not configured")
  else
    let publicKey ← ask .getKeypair
    match publicKey with
    | none =>
        ask (.updateTransaction id { status := .failed })
        fail noSourceAccount
    | some sourceAccount => mintUsdc req id sourceAccount

-- depositFromBasketCurrency

/-- The answer to a deposit whose key is already in use. -/
def existingDeposit (id : TxId) (row : Transaction) (currency : String) (amount : ℚ)
    : MintResult :=
  .deposit 202
    { transaction_id := id
      currency := row.localCurrency.getD currency
      amount := row.localAmount.getD amount
      status := row.status
      message :=
        if row.status = .completed then "Deposit already processed."
        else "Deposit already received and is still being processed." }

/-- Creates the row of a deposit. `.inr` is the row that took the key in the meantime. -/
def createDeposit (idempotencyKey : Option String) (data : Transaction)
    : Prog mintInterface (TxId ⊕ TxId × Transaction) :=
  catchWith
    (do
      let id ← ask (.createTransaction data)
      return .inl id)
    (fun createError =>
      match idempotencyKey, createError with
      | some key, .uniqueConstraint => do
          let existingTx ← ask (.findByIdempotencyKey key)
          let existing ← orThrow existingTx createError
          return .inr existing
      | _, _ => fail createError)

def mintDeposit (id : TxId) (amount : ℚ) (currency walletAddress : String)
    : Prog mintInterface Unit :=
  catchWith
    (do
      let acbuAmountInfo ← convertLocal amount currency
      let publicKey ← ask .getKeypair
      let sourceAccount ← orThrow publicKey noSourceAccount
      let mintResult ← mintFromBasket id sourceAccount walletAddress
        (unitsText acbuAmountInfo.acbuEquivalent)
      ask (.updateTransaction id
        { status := .completed
          acbuAmount := some (recordedAmount mintResult.result)
          blockchainTxHash := some mintResult.transactionHash }))
    (fun error => do
      ask (.updateTransaction id { status := .failed })
      swallow (ask (.logAudit id "deposit_failed"))
      fail error)

def findDeposit (idempotencyKey : Option String)
    : Prog mintInterface (Option (TxId × Transaction)) :=
  match idempotencyKey with
  | some key => ask (.findByIdempotencyKey key)
  | none => pure none

/-- The part of `depositFromBasketCurrency` behind its checks. -/
def submitDeposit (dep : Deployment) (req : DepositRequest) (body : ParsedDeposit) (amount : ℚ)
    (userId : String)
    : Prog mintInterface MintResult := do
  let headerKey ← fromExcept (extractIdempotencyKey req.idempotencyHeader)
  let idempotencyKey :=
    (headerKey.or body.fintechTxId).map (scopeIdempotencyKey dep.sha256Hex userId)
  let existingTx ← findDeposit idempotencyKey
  match existingTx with
  | some (id, row) => return existingDeposit id row body.currency amount
  | none =>
      let created ← createDeposit idempotencyKey
        { userId := some userId
          organizationId := req.apiKey.bind (·.organizationId)
          idempotencyKey
          status := .pending
          localCurrency := some body.currency
          localAmount := some amount }
      match created with
      | .inr (id, row) => return existingDeposit id row body.currency amount
      | .inl id =>
          mintDeposit id amount body.currency body.walletAddress
          ask (.logAudit id "deposit_created")
          return .deposit 202
            { transaction_id := id
              currency := body.currency
              amount
              status := .completed
              message := "Deposit received and ACBU has been minted to the wallet." }

def depositFromBasketCurrency (dep : Deployment) (req : DepositRequest)
    : Prog mintInterface MintResult := do
  let body ← fromExcept (depositBodySchema req.body)
  ensure (!isForbiddenDepositCurrency body.currency)
    (appError
      s!"Deposits in {body.currency} are not allowed. Only basket (pool) currencies are accepted: {basketCurrencyList}. For USDC, use the on-ramp (swap USDC→XLM via Stellar LP)."
      400 .DEPOSIT_ONLY_BASKET_CURRENCIES ["deposit_currencies_allowed"])
  ensure (isAllowedDepositCurrency body.currency)
    (appError
      s!"Currency {body.currency} is not supported for deposit. Allowed basket currencies: {basketCurrencyList}."
      400 .INVALID_CURRENCY ["deposit_currencies_allowed"])
  let amount ← fromExcept (parseMonetaryString body.amount "amount")
  let userId ← orThrow (callerId? req.apiKey)
    (plainAppError "User context required for deposit" 401)
  let _ ← assertUserWalletAddress dep userId body.walletAddress
  let paused ← ask .isMintingPaused
  ensure (!paused) mintingPaused
  let amountUsd ← convertLocal amount body.currency
  ask (.checkDepositLimits ((req.audience.filter (fun a => a ≠ "")).getD "retail")
    amountUsd.usdAmount userId (req.apiKey.bind (·.organizationId)))
  submitDeposit dep req body amount userId

-- confirmMint

/-- `Buffer.from(s, "hex")`: decoding stops at the first pair that is not hexadecimal. -/
def bufferFromHex : List Char → List Nat
  | high :: low :: rest =>
      match radixDigit? 16 high, radixDigit? 16 low with
      | some h, some l => (16 * h + l) :: bufferFromHex rest
      | _, _ => []
  | _ => []

/-- The checks of `verifyMintConfirmationSignature` before the clock is read. -/
def confirmationTimestamp (dep : Deployment) (req : ConfirmRequest)
    : Except JsError (String × ℚ) :=
  match dep.confirmationSecret.filter (fun s => s ≠ "") with
  | none =>
      .error (appError "Mint confirmation unavailable: secret not configured" 503 .CONFIG_ERROR)
  | some secret =>
      match req.timestampHeader.filter (fun s => s ≠ "") with
      | none => .error (appError "Missing x-mint-timestamp header" 401 .MISSING_SIGNATURE)
      | some rawTs =>
          match jsNumber rawTs with
          | .finite tsNum => .ok (secret, tsNum)
          | _ => .error (appError "Invalid x-mint-timestamp header" 401 .INVALID_SIGNATURE)

/-- The checks after it; `false` when the timestamp was answered with a 401. -/
def confirmationSignature (dep : Deployment) (req : ConfirmRequest) (secret : String)
    (tsNum nowS : ℚ)
    : Except JsError Bool :=
  if 300 < |nowS - tsNum| then .ok false
  else
    match req.signatureHeader.filter (fun s => s ≠ "") with
    | none => .error (appError "Missing x-mint-signature header" 401 .MISSING_SIGNATURE)
    | some received =>
        match req.rawBody with
        | none =>
            .error (appError "Raw body required for verification" 400 .RAW_BODY_REQUIRED)
        | some rawBody =>
            if bufferFromHex received.toList = dep.hmacSha256 secret rawBody then .ok true
            else
              .error (appError "Invalid mint confirmation signature" 401 .INVALID_SIGNATURE)

/-- `verifyMintConfirmationSignature`: whether `next()` is called. -/
def verifyMintConfirmationSignature (dep : Deployment) (req : ConfirmRequest)
    : Prog mintInterface Bool := do
  let (secret, tsNum) ← fromExcept (confirmationTimestamp dep req)
  let nowS ← ask .now
  fromExcept (confirmationSignature dep req secret tsNum nowS)

def TransactionStatus.text : TransactionStatus → String
  | .pending => "pending"
  | .processing => "processing"
  | .completed => "completed"
  | .failed => "failed"
  | .refunded => "refunded"

/-- The mint a confirmation performs for the row it has marked as processing. -/
def mintConfirmed (body : ParsedConfirm) (sourceAccount userWallet : String) (acbuAmount : ℚ)
    : Prog mintInterface MintResult :=
  catchWith
    (do
      let mintResult ← mintFromBasket body.transactionId sourceAccount userWallet
        (unitsText acbuAmount)
      let acbuNum := recordedAmount mintResult.result
      ask (.updateTransaction body.transactionId
        { status := .completed
          acbuAmount := some acbuNum
          blockchainTxHash := some mintResult.transactionHash })
      ask (.logAudit body.transactionId "mint_confirmed")
      return .confirmation 200
        { transaction_id := body.transactionId
          acbu_amount := some acbuNum
          blockchain_tx_hash := some mintResult.transactionHash
          message := "Deposit confirmed and ACBU minted on-chain." })
    (fun mintErr => do
      ask (.updateTransaction body.transactionId { status := .failed })
      fail mintErr)

/-- The part of `confirmMint` for a row that is not completed. -/
def confirmPending (body : ParsedConfirm) (tx : Transaction) : Prog mintInterface MintResult := do
  ensure (tx.status = .pending)
    (appError
      s!"Transaction {body.transactionId} is in status \"{tx.status.text}\" and cannot be confirmed"
      409 .BAD_REQUEST)
  let paused ← ask .isMintingPaused
  ensure (!paused) mintingPaused
  let wallet ← ask (.findUserWallet (tx.userId.getD ""))
  let userWallet ← orThrow (wallet.filter (fun address => address ≠ ""))
    (appError
      "Cannot resolve wallet address for transaction — user wallet not configured"
      422 .VALIDATION_ERROR)
  let amount ← fromExcept (parseMonetaryString body.amount "amount")
  let acbuAmountInfo ← convertLocal amount body.currency
  let publicKey ← ask .getKeypair
  let sourceAccount ← orThrow publicKey
    (appError "Stellar source account not configured" 503 .CONFIG_ERROR)
  -- the timestamp of the snapshot is formatted before the update is issued
  ensure (body.confirmedAt ≤ 8640000000000) (.error "Invalid time value")
  ask (.updateTransaction body.transactionId { status := .processing })
  mintConfirmed body sourceAccount userWallet acbuAmountInfo.acbuEquivalent

def confirmMint (req : ConfirmRequest) : Prog mintInterface MintResult := do
  let body ← fromExcept (mintConfirmBodySchema req.body)
  let found ← ask (.findTransaction body.transactionId)
  let tx ← orThrow found
    (appError s!"Transaction {body.transactionId} not found" 404 .NOT_FOUND)
  if tx.status = .completed then
    return .confirmation 200
      { transaction_id := body.transactionId
        acbu_amount := tx.acbuAmount
        blockchain_tx_hash := tx.blockchainTxHash
        message := "Transaction already confirmed and minted." }
  else confirmPending body tx

/-- `POST /v1/mint/confirm`: the signature check, then the handler. -/
def confirmRoute (dep : Deployment) (req : ConfirmRequest) : Prog mintInterface MintResult := do
  let verified ← verifyMintConfirmationSignature dep req
  if verified then confirmMint req
  else return .rejected 401 "Mint confirmation timestamp invalid or expired"

-- All entry points

inductive MintRequest
  | deposit (req : DepositRequest)
  | confirm (req : ConfirmRequest)
  | usdc (req : UsdcMintRequest)

def MintRequest.program (dep : Deployment) : MintRequest → Prog mintInterface MintResult
  | .deposit req => depositFromBasketCurrency dep req
  | .confirm req => confirmRoute dep req
  | .usdc req => mintFromUsdcInternal req

def ConfirmRequest.transactionId? (req : ConfirmRequest) : Option TxId :=
  (mintConfirmBodySchema req.body).toOption.map (·.transactionId)

/-- Whether the signature check passes at the time `nowS`. -/
def ConfirmRequest.signatureAccepted (dep : Deployment) (req : ConfirmRequest) (nowS : ℚ) : Bool :=
  match confirmationTimestamp dep req with
  | .ok (secret, tsNum) =>
      match confirmationSignature dep req secret tsNum nowS with
      | .ok verified => verified
      | .error _ => false
  | .error _ => false

end AcbuBackend.Mint

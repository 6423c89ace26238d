import AcbuBackend.Effects.Concurrent
import AcbuBackend.Transfer.Model

/-! `createTransfer`, the second definition of its file, which is the one in force. -/

namespace AcbuBackend.Transfer

open Effects Effects.Prog AcbuBackend.Runtime
open Mint (TxId TransactionStatus)

-- Amounts

/-- The double nearest to a natural number, ties to even. -/
def natToDouble (n : Nat) : Nat :=
  if n < 2 ^ 53 then n
  else
    let unit := 2 ^ (n.log2 - 52)
    let below := n / unit
    let rest := 2 * (n % unit)
    (if unit < rest ∨ unit = rest ∧ below % 2 = 1 then below + 1 else below) * unit

/-- The double nearest to an integer. -/
def toDouble (n : ℤ) : ℤ :=
  n.sign * natToDouble n.natAbs

/-- `parseInt(s, 10)`; `none` is `NaN`. -/
def parseInt? (cs : List Char) : Option ℤ :=
  let (sign, unsigned) : ℤ × List Char :=
    match cs.dropWhile isJsSpace with
    | '-' :: rest => (-1, rest)
    | '+' :: rest => (1, rest)
    | rest => (1, rest)
  let digits := unsigned.takeWhile isDigit
  if digits = [] then none else some (toDouble (sign * digitsValue digits))

/-- `amountToSmallestUnit`, in doubles. -/
def amountToSmallestUnit (amount : String) : Option ℤ :=
  let cs := amount.toList
  let wholePart := cs.takeWhile (fun c => c ≠ '.')
  let fracPart := (((cs.dropWhile (fun c => c ≠ '.')).drop 1).takeWhile (fun c => c ≠ '.')).take 7
  match parseInt? wholePart, parseInt? (fracPart ++ List.replicate (7 - fracPart.length) '0') with
  | some whole, some frac => some (toDouble (toDouble (whole * 10000000) + frac))
  | _, _ => none

/-- `balance < amount`, which no `NaN` is. -/
def isBelow : Option ℤ → Option ℤ → Bool
  | some balance, some amount => balance < amount
  | _, _ => false

-- Configuration and requests

/-- `config.travelRule`. -/
structure TravelRule where
  thresholdAcbu : ℚ
  enforce : Bool
  mode : String

structure Deployment where
  travelRule : TravelRule
  toText : ℚ → String

structure CreateTransferParams where
  senderUserId : String
  recipient : String
  amountAcbu : String
  idempotencyKey : Option String := none

/-- `getSenderSigningKey` stands for the function having been passed. -/
structure CreateTransferOptions where
  getSenderSigningKey : Bool := false
  submittedBlockchainTxHash : Option String := none
  ifMatch : Option String := none

structure CreateTransferResult where
  transactionId : TxId
  status : TransactionStatus

/-- `checkTravelRuleCompliance`, of a transfer that no VASP intermediates. -/
def checkTravelRuleCompliance (rule : TravelRule) (amount : ℚ) : Bool :=
  amount ≤ rule.thresholdAcbu || !((rule.mode = "allowlist" || rule.mode = "strict") &&
    rule.enforce)

-- The wallet version

/-- The token of an entity tag, `W/"token"` or `"token"`. -/
def etagToken? (cs : List Char) : Option (List Char) :=
  let quoted :=
    match cs with
    | 'W' :: '/' :: '"' :: rest => some rest
    | '"' :: rest => some rest
    | _ => none
  match quoted with
  | none => none
  | some rest =>
      if rest.getLast? = some '"' ∧ 2 ≤ rest.length then some rest.dropLast else none

/-- The first tag of an `If-Match` header that is not `*`. -/
def firstTag? (headerValue : String) : Option (List Char) :=
  ((headerValue.toList.splitOn ',').map trimChars).find? (fun part => part ≠ ['*'])

def parseIfMatchHeader (headerValue : Option String) : Option ℤ := do
  let header ← headerValue.filter (fun value => value ≠ "")
  let raw ← firstTag? header
  let token ← etagToken? raw
  (parseInt? token).filter (fun version => 0 ≤ version)

def reserveWalletVersion (userId : String) (ifMatch : Option String)
    : Prog transferInterface Unit := do
  let expectedVersion ← orThrow (parseIfMatchHeader ifMatch)
    (appError "If-Match header with wallet ETag is required for this operation" 428
      .PRECONDITION_REQUIRED)
  let count ← issue (.incrementWalletVersion userId expectedVersion)
  ensure (count ≠ 0)
    (appError "Wallet was modified by another request; refresh and retry with the current ETag" 412
      .PRECONDITION_FAILED)

-- createTransfer

def acceptedAmount (amountAcbu : String) : Option ℚ :=
  (plainDecimal? (trimChars amountAcbu.toList)).filter (fun amount => 0 < amount)

/-- `StellarFeeSurgeError`, by its code. -/
def isFeeSurge : JsError → Bool
  | .app e => e.code = .STELLAR_FEE_SURGE
  | _ => false

def findExisting (idempotencyKey : Option String) (userId : String)
    : Prog transferInterface (Option (TxId × TransactionStatus)) :=
  match idempotencyKey.filter (fun key => key ≠ "") with
  | none => return none
  | some key => issue (.findTransfer key userId)

/-- A transfer that has passed its checks. -/
structure TransferOrder where
  params : CreateTransferParams
  recipientAddress : String

def TransferOrder.amount (order : TransferOrder) : String :=
  jsTrim order.params.amountAcbu

def TransferOrder.pendingRow (order : TransferOrder) : TransferRow where
  userId := order.params.senderUserId
  status := .pending
  recipientAddress := order.recipientAddress
  acbuAmount := order.amount
  idempotencyKey := order.params.idempotencyKey

/-- Creates the row, or finds the one that has taken its key meanwhile. -/
def createOrFind (order : TransferOrder)
    : Prog transferInterface (TxId ⊕ (TxId × TransactionStatus)) :=
  catchWith
    (do
      let id ← issue (.createTransaction order.pendingRow)
      return .inl id)
    (fun createError =>
      match order.params.idempotencyKey.filter (fun key => key ≠ ""), createError with
      | some key, .uniqueConstraint => do
          let existing ← issue (.findTransfer key order.params.senderUserId)
          match existing with
          | some found => return .inr found
          | none => fail createError
      | _, _ => fail createError)

/-- The submission of a transfer whose sender's key is known. A payment that fails marks the
row failed; only a fee surge is thrown again.
-/
def submitTransfer (order : TransferOrder) (id : TxId) (secretKey : String)
    : Prog transferInterface TransactionStatus :=
  catchWith
    (do
      let hash ← issue (.submitStellarPayment secretKey order.recipientAddress order.amount id)
      issue (.updateTransaction id { status := .completed, blockchainTxHash := some hash })
      swallow (issue (.logAudit id "transfer_completed"))
      return .completed)
    (fun err => do
      issue (.updateTransaction id { status := .failed })
      swallow (issue (.logAudit id "transfer_failed"))
      if isFeeSurge err then fail err else return .failed)

/-- The status of the row `id` when its request is answered. -/
def settleTransfer (options : CreateTransferOptions) (order : TransferOrder) (id : TxId)
    : Prog transferInterface TransactionStatus :=
  match options.submittedBlockchainTxHash.filter (fun hash => hash ≠ "") with
  | some hash => do
      issue (.updateTransaction id { status := .completed, blockchainTxHash := some hash })
      swallow (issue (.logAudit id "transfer_completed"))
      return .completed
  | none =>
      if options.getSenderSigningKey then do
        let secretKey ← issue (.getSenderSigningKey order.params.senderUserId)
        match secretKey.filter (fun key => key ≠ "") with
        | some secretKey => submitTransfer order id secretKey
        | none => return .pending
      else return .pending

/-- What `createTransfer` does once its checks have passed. -/
def placeTransfer (options : CreateTransferOptions) (order : TransferOrder)
    : Prog transferInterface CreateTransferResult := do
  let created ← createOrFind order
  match created with
  | .inr (transactionId, status) => return { transactionId, status }
  | .inl id =>
      swallow (issue (.logAudit id "transfer_initiated"))
      let status ← settleTransfer options order id
      return { transactionId := id, status }

/-- The check of `createTransfer` on the balance it has fetched. -/
def checksBalance (balance amountAcbu : String) : Bool :=
  !isBelow (amountToSmallestUnit (if balance = "" then "0" else balance))
    (amountToSmallestUnit (jsTrim amountAcbu))

/-- The checks of `createTransfer` behind the key. -/
def checkTransfer (dep : Deployment) (params : CreateTransferParams)
    (options : CreateTransferOptions) (sender : User) (amount : ℚ)
    : Prog transferInterface TransferOrder := do
  reserveWalletVersion params.senderUserId options.ifMatch
  let balance ← issue (.fetchWalletBalance params.senderUserId)
  ensure (checksBalance balance params.amountAcbu) (.error "Insufficient balance")
  let resolved ← issue (.resolveRecipientAddress params.recipient params.senderUserId)
  let recipientAddress ← orThrow (resolved.filter (fun address => address ≠ ""))
    (.error "Recipient not found or not available")
  ensure (!((sender.stellarAddress.filter (fun address => address ≠ "")) = some recipientAddress))
    (.error "Cannot transfer to yourself")
  ensure (checkTravelRuleCompliance dep.travelRule amount)
    (.error
      (s!"Transfer amount {jsTrim params.amountAcbu} ACBU exceeds Travel Rule threshold of "
        ++ s!"{dep.toText dep.travelRule.thresholdAcbu} ACBU. "
        ++ "Direct P2P transfers cannot satisfy Travel Rule requirements. "
        ++ "Use on/off-ramp services or enable VASP intermediation for compliance."))
  return { params, recipientAddress }

/-- `createTransfer`. Options that are not passed are the default ones. -/
def createTransfer (dep : Deployment) (params : CreateTransferParams)
    (options : CreateTransferOptions := {})
    : Prog transferInterface CreateTransferResult := do
  let amount ← orThrow (acceptedAmount params.amountAcbu)
    (.error "amount_acbu must be a positive number with up to 7 decimal places")
  let found ← issue (.findUser params.senderUserId)
  let sender ← orThrow found (.error "Sender user not found")
  ensure (sender.kycStatus = "verified")
    (.error "KYC required to make payments. Complete verification first.")
  let existingTransfer ← findExisting params.idempotencyKey params.senderUserId
  match existingTransfer with
  | some (transactionId, status) => return { transactionId, status }
  | none => do
      let order ← checkTransfer dep params options sender amount
      placeTransfer options order

theorem createTransfer_unversioned {dep : Deployment} {params : CreateTransferParams}
    {options : CreateTransferOptions} {p : TransferOp → Prop}
    (unversioned : options.ifMatch = none) (unkeyed : params.idempotencyKey = none)
    (reads : p (.findUser params.senderUserId))
    : (Protocol.only (I := transferInterface) p).wp (createTransfer dep params options) ()
        (fun _ _ => False) (fun _ _ => True) := by
  have refused : parseIfMatchHeader options.ifMatch = none := by
    rw [unversioned]
    rfl
  simp [createTransfer, findExisting, checkTransfer, reserveWalletVersion, unkeyed, refused, reads]

end AcbuBackend.Transfer

import AcbuBackend.Reads.Pagination
import AcbuBackend.Runtime.Request
import Mathlib.Data.List.AList

/-! The endpoints that show transactions, transfers and withdrawal requests.
Each makes one read of the database. Amounts and JSON columns are the texts that are shown.
-/

namespace AcbuBackend.Reads

open AcbuBackend.Runtime

-- Rows

/-- The `rate_snapshot` column: its text, and its `source` where that is a text. -/
structure RateSnapshot where
  json : String
  source : Option String := none
deriving DecidableEq

/-- A row of `transactions`. -/
structure Transaction where
  userId : Option String
  organizationId : Option String := none
  type : String
  status : String
  usdcAmount : Option String := none
  acbuAmount : Option String := none
  acbuAmountBurned : Option String := none
  localCurrency : Option String := none
  localAmount : Option String := none
  recipientAccount : Option String := none
  recipientAddress : Option String := none
  fee : Option String := none
  rateSnapshot : Option RateSnapshot := none
  blockchainTxHash : Option String := none
  confirmations : Nat := 0
  createdAt : Nat
  completedAt : Option Nat := none
deriving DecidableEq

/-- A row of `investment_withdrawal_requests`. -/
structure InvestmentWithdrawalRequest where
  userId : Option String
  organizationId : Option String := none
  amountAcbu : String
  status : String
  forcedRemoval : Bool := false
  feePercent : Option String := none
  availableAt : Nat
  createdAt : Nat

structure Database where
  transactions : AList (fun _ : String => Transaction)
  withdrawalRequests : AList (fun _ : String => InvestmentWithdrawalRequest)

def rowsOf {ρ : Type} (table : AList (fun _ : String => ρ)) : List (String × ρ) :=
  table.entries.map (fun e => (e.1, e.2))

theorem lookup_of_mem_rowsOf {ρ : Type} {table : AList (fun _ : String => ρ)} {row : String × ρ}
    (h : row ∈ rowsOf table)
    : table.lookup row.1 = some row.2 := by
  obtain ⟨e, member, rfl⟩ := List.mem_map.mp h
  exact AList.mem_lookup_iff.mpr member

-- Responses

/-- An entry of `listMyTransactions`. -/
structure TransactionItem where
  transaction_id : String
  type : String
  status : String
  usdc_amount : Option String
  amount_acbu : Option String
  acbu_amount_burned : Option String
  local_currency : Option String
  local_amount : Option String
  recipient_address : Option String
  fee : Option String
  blockchain_tx_hash : Option String
  confirmations : Nat
  created_at : Nat
  completed_at : Option Nat
deriving DecidableEq

def transactionItem (id : String) (t : Transaction) : TransactionItem where
  transaction_id := id
  type := t.type
  status := t.status
  usdc_amount := t.usdcAmount
  amount_acbu := t.acbuAmount
  acbu_amount_burned := t.acbuAmountBurned
  local_currency := t.localCurrency
  local_amount := t.localAmount
  recipient_address := t.recipientAddress
  fee := t.fee
  blockchain_tx_hash := t.blockchainTxHash
  confirmations := t.confirmations
  created_at := t.createdAt
  completed_at := t.completedAt

/-- The response of `getTransactionById`: an entry, the account of the recipient and the rates. -/
structure TransactionDetail extends TransactionItem where
  recipient_account : Option String
  rate_snapshot : Option String
deriving DecidableEq

def transactionDetail (id : String) (t : Transaction) : TransactionDetail :=
  { transactionItem id t with
    recipient_account := t.recipientAccount
    rate_snapshot := t.rateSnapshot.map RateSnapshot.json }

/-- An entry of `getTransfers`. -/
structure TransferItem where
  transaction_id : String
  type : String
  status : String
  amount_acbu : Option String
  local_currency : Option String
  local_amount : Option String
  blockchain_tx_hash : Option String
  created_at : Nat
  completed_at : Option Nat
deriving DecidableEq

def transferItem (id : String) (t : Transaction) : TransferItem where
  transaction_id := id
  type := t.type
  status := t.status
  amount_acbu := t.acbuAmount
  local_currency := t.localCurrency
  local_amount := t.localAmount
  blockchain_tx_hash := t.blockchainTxHash
  created_at := t.createdAt
  completed_at := t.completedAt

/-- The response of `getTransferById`: an entry and the address of the recipient. -/
structure TransferDetail extends TransferItem where
  recipient_address : Option String
deriving DecidableEq

def transferDetail (id : String) (t : Transaction) : TransferDetail :=
  { transferItem id t with
    recipient_address := if t.type = "transfer" then t.recipientAddress else none }

/-- An entry of `getInvestmentWithdrawRequests`. -/
structure WithdrawRequestItem where
  id : String
  amount_acbu : String
  status : String
  forced_removal : Bool
  fee_percent : Option String
  available_at : Nat
  created_at : Nat
deriving DecidableEq

def withdrawRequestItem (id : String) (r : InvestmentWithdrawalRequest) : WithdrawRequestItem where
  id
  amount_acbu := r.amountAcbu
  status := r.status
  forced_removal := r.forcedRemoval
  fee_percent := r.feePercent
  available_at := r.availableAt
  created_at := r.createdAt

inductive ReadResponse
  | transactions (items : List TransactionItem) (next_cursor : Option String)
  | transaction (detail : TransactionDetail)
  | transfers (items : List TransferItem) (next_cursor : Option String)
  | transfer (detail : TransferDetail)
  | requests (items : List WithdrawRequestItem) (next_cursor : Option String)
deriving DecidableEq

-- Endpoints

section

variable (codec : CursorCodec) (db : Database) (apiKey : ApiKey)

def requireUser (refusal : JsError) : Except JsError String :=
  match callerId? (some apiKey) with
  | none => .error refusal
  | some userId => .ok userId

/-- The messages about a query, one after the other. -/
def badQuery (issues : List (String × String)) : JsError :=
  plainAppError (String.intercalate "; " (issues.map Prod.snd)) 400

/-- The rows of `listMyTransactions`. -/
def isListed (userId : String) (t : Transaction) : Bool :=
  t.userId = some userId && ["mint", "burn", "transfer", "bill_payment"].contains t.type

/-- `listMyTransactions`, with rows of one time in any order. -/
def listMyTransactionsBy (order : RowOrder Transaction.createdAt) (limit cursor : QueryParam)
    : Except JsError ReadResponse := do
  let userId ← requireUser apiKey (appError "User-scoped API key required" 401 .UNAUTHORIZED)
  match readLimit limit, readText cursor with
  | .ok limit, .ok cursor => do
      let cursorId ← codec.decodeCursor cursor userId
      let list := findManyBy order (rowsOf db.transactions) (isListed userId) cursorId (limit + 1)
      let page := pageOf limit list
      return .transactions (page.rows.map (fun row => transactionItem row.1 row.2))
        (page.nextCursor codec userId)
  | limit, cursor =>
      .error (appError "Invalid query parameters" 400 .VALIDATION_ERROR
        ((issue "limit" limit ++ issue "cursor" cursor).map Prod.fst))

def listMyTransactions (limit cursor : QueryParam) : Except JsError ReadResponse :=
  listMyTransactionsBy codec db apiKey (RowOrder.stable Transaction.createdAt) limit cursor

/-- Refuses a row of another user, where the key and the row both have one. -/
def rejectForeign (t : Transaction) : Except JsError Unit :=
  match callerId? (some apiKey), t.userId.filter (fun userId => userId ≠ "") with
  | some caller, some owner =>
      if owner ≠ caller then .error (appError "Forbidden" 403 .FORBIDDEN) else .ok ()
  | _, _ => .ok ()

def getTransactionById (id : String) : Except JsError ReadResponse :=
  match db.transactions.lookup id with
  | none => .error (appError "Transaction not found" 404 .NOT_FOUND)
  | some t => do
      rejectForeign apiKey t
      return .transaction (transactionDetail id t)

/-- The rows that are shown as transfers: transfers, and the drips of the faucet. -/
def isTransfer (t : Transaction) : Bool :=
  t.type = "transfer"
  || t.type = "mint" && t.rateSnapshot.any (fun snapshot => snapshot.source
    = some "admin_drip_demo_fiat")

/-- The rows of `getTransfers`. -/
def isListedTransfer (userId : String) (t : Transaction) : Bool :=
  t.userId = some userId && isTransfer t

/-- `getTransfers`, with rows of one time in any order. -/
def getTransfersBy (order : RowOrder Transaction.createdAt) (limit cursor : QueryParam)
    : Except JsError ReadResponse := do
  let userId ← requireUser apiKey (plainAppError "User-scoped API key required" 401)
  match readLimit limit, readText cursor with
  | .ok limit, .ok cursor => do
      let cursorId ← codec.decodeCursor cursor userId
      let list := findManyBy order (rowsOf db.transactions) (isListedTransfer userId) cursorId
        (limit + 1)
      let page := pageOf limit list
      return .transfers (page.rows.map (fun row => transferItem row.1 row.2))
        (page.nextCursor codec userId)
  | limit, cursor => .error (badQuery (issue "limit" limit ++ issue "cursor" cursor))

def getTransfers (limit cursor : QueryParam) : Except JsError ReadResponse :=
  getTransfersBy codec db apiKey (RowOrder.stable Transaction.createdAt) limit cursor

def getTransferById (id : String) : Except JsError ReadResponse := do
  let userId ← requireUser apiKey (plainAppError "User-scoped API key required" 401)
  match (db.transactions.lookup id).filter (fun t => t.userId = some userId && isTransfer t) with
  | none => .error (plainAppError "Transfer not found" 404)
  | some t => return .transfer (transferDetail id t)

def WITHDRAWAL_STATUSES : List String :=
  ["requested", "available", "completed", "cancelled"]

/-- `z.enum(WITHDRAWAL_STATUSES).optional()`. -/
def readStatus : QueryParam → Except String (Option String)
  | .absent => .ok none
  | .other kind =>
      .error s!"Expected 'requested' | 'available' | 'completed' | 'cancelled', received {kind}"
  | .text value =>
      if WITHDRAWAL_STATUSES.contains value then .ok (some value)
      else .error
        ("Invalid enum value. Expected 'requested' | 'available' | 'completed' | 'cancelled', "
        ++ s!"received '{value}'")

/-- The filter of `getInvestmentWithdrawRequests`: the rows of the user of a key, else those of its
organisation, which are those of none where the key has none.
-/
def inScope (row : InvestmentWithdrawalRequest) : Bool :=
  match callerId? (some apiKey) with
  | some userId => row.userId = some userId
  | none => row.organizationId = apiKey.organizationId

/-- The scope of the cursors of `getInvestmentWithdrawRequests`. -/
def cursorScope : String :=
  (apiKey.userId.or apiKey.organizationId).getD ""

def getInvestmentWithdrawRequests (limit cursor status : QueryParam)
    : Except JsError ReadResponse :=
  match readLimit limit, readText cursor, readStatus status with
  | .ok limit, .ok cursor, .ok status => do
      let cursorId ← codec.decodeCursor cursor (cursorScope apiKey)
      let list := findMany InvestmentWithdrawalRequest.createdAt (rowsOf db.withdrawalRequests)
        (fun row => inScope apiKey row && status.all (fun status => row.status = status))
        cursorId (limit + 1)
      let page := pageOf limit list
      return .requests (page.rows.map (fun row => withdrawRequestItem row.1 row.2))
        (page.nextCursor codec (cursorScope apiKey))
  | limit, cursor, status =>
      .error (badQuery (issue "limit" limit ++ issue "cursor" cursor ++ issue "status" status))

end

inductive ReadRequest
  | listMyTransactions (limit cursor : QueryParam)
  | getTransactionById (id : String)
  | getTransfers (limit cursor : QueryParam)
  | getTransferById (id : String)
  | getInvestmentWithdrawRequests (limit cursor status : QueryParam)

def respond (codec : CursorCodec) (db : Database) (apiKey : ApiKey)
    : ReadRequest → Except JsError ReadResponse
  | .listMyTransactions limit cursor => listMyTransactions codec db apiKey limit cursor
  | .getTransactionById id => getTransactionById db apiKey id
  | .getTransfers limit cursor => getTransfers codec db apiKey limit cursor
  | .getTransferById id => getTransferById db apiKey id
  | .getInvestmentWithdrawRequests limit cursor status =>
      getInvestmentWithdrawRequests codec db apiKey limit cursor status

end AcbuBackend.Reads

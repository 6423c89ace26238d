import AcbuBackend.Mint.Model

/-! The transfers, and the calls of the transfer service.
Users, balances, recipients and signing keys are answers of the environment.
-/

namespace AcbuBackend.Transfer

open Effects AcbuBackend.Runtime
open Mint (TxId TransactionStatus)

/-- The columns of a user that a transfer reads. -/
structure User where
  stellarAddress : Option String
  kycStatus : String

/-- A row of `transactions` of type `transfer`. -/
structure TransferRow where
  userId : String
  status : TransactionStatus
  recipientAddress : String
  acbuAmount : String
  idempotencyKey : Option String := none
  blockchainTxHash : Option String := none
deriving DecidableEq

/-- The `data` of an update. A field that is `none` is not written. -/
structure TransferUpdate where
  status : TransactionStatus
  blockchainTxHash : Option String := none
deriving DecidableEq

def TransferRow.apply (row : TransferRow) (data : TransferUpdate) : TransferRow :=
  { row with
    status := data.status
    blockchainTxHash := data.blockchainTxHash.or row.blockchainTxHash }

/-- The calls of the transfer service. A payment names the row it is made for, which is not
sent to the network.
-/
inductive TransferOp
  | findUser (id : String)
  | findTransfer (idempotencyKey userId : String)
  | incrementWalletVersion (userId : String) (expectedVersion : ℤ)
  | fetchWalletBalance (userId : String)
  | resolveRecipientAddress (recipient callerUserId : String)
  | createTransaction (data : TransferRow)
  | updateTransaction (id : TxId) (data : TransferUpdate)
  | logAudit (entityId : TxId) (action : String)
  | getSenderSigningKey (userId : String)
  | submitStellarPayment (secretKey recipientAddress amount : String) (id : TxId)
deriving DecidableEq

abbrev TransferOp.Ret : TransferOp → Type
  | .findUser _ => Option User
  | .findTransfer .. => Option (TxId × TransactionStatus)
  | .incrementWalletVersion .. => Nat
  | .fetchWalletBalance _ => String
  | .resolveRecipientAddress .. => Option String
  | .createTransaction _ => TxId
  | .updateTransaction .. | .logAudit .. => Unit
  | .getSenderSigningKey _ => Option String
  | .submitStellarPayment .. => String

abbrev transferInterface : Interface where
  Op := TransferOp
  Ret := TransferOp.Ret
  Err := JsError

abbrev issue (op : TransferOp) : Prog transferInterface op.Ret :=
  Prog.await (I := transferInterface) op

/-- The table, and the payments the network has accepted, each with its row and its hash. -/
structure World where
  transfers : AList (fun _ : TxId => TransferRow)
  payments : List (TxId × String) := []

/-- What the environment answers a call with. -/
structure Choice where
  outcome : Outcome JsError := .done
  user : Option User := none
  versionMatches : Nat := 0
  balance : String := ""
  recipientAddress : Option String := none
  signingKey : Option String := none
  hash : String := ""
  freshId : TxId := ""

/-- `prisma.transaction.findFirst` by key and user. -/
def World.findTransfer (w : World) (idempotencyKey userId : String)
    : Option (TxId × TransactionStatus) :=
  (w.transfers.entries.find? (fun e =>
    e.2.idempotencyKey = some idempotencyKey && e.2.userId = userId)).map
    (fun e => (e.1, e.2.status))

/-- `prisma.transaction.create` under a fresh id; the idempotency key is unique. -/
def World.create (w : World) (id : TxId) (data : TransferRow) : Except JsError TxId × World :=
  if data.idempotencyKey.isSome
      ∧ w.transfers.entries.any (fun e => e.2.idempotencyKey = data.idempotencyKey)
  then (.error .uniqueConstraint, w)
  else (.ok id, { w with transfers := w.transfers.insert id data })

/-- `prisma.transaction.update` by id. -/
def World.update (w : World) (id : TxId) (data : TransferUpdate) : Except JsError Unit × World :=
  match w.transfers.lookup id with
  | none => (.error (.error "Record to update not found."), w)
  | some row => (.ok (), { w with transfers := w.transfers.insert id (row.apply data) })

/-- What a call that takes place answers, and the world it leaves. -/
def effect (x : Choice) (w : World) : (op : TransferOp) → Except JsError op.Ret × World
  | .findUser _ => (.ok x.user, w)
  | .findTransfer key userId => (.ok (w.findTransfer key userId), w)
  | .incrementWalletVersion .. => (.ok x.versionMatches, w)
  | .fetchWalletBalance _ => (.ok x.balance, w)
  | .resolveRecipientAddress .. => (.ok x.recipientAddress, w)
  | .createTransaction data => w.create x.freshId data
  | .updateTransaction id data => w.update id data
  | .logAudit .. => (.ok (), w)
  | .getSenderSigningKey _ => (.ok x.signingKey, w)
  | .submitStellarPayment _ _ _ id =>
      (.ok x.hash, { w with payments := (id, x.hash) :: w.payments })

/-- The environment's part of a call: a new id is not in use. -/
def admissible (op : TransferOp) (x : Choice) (w : World) : Bool :=
  match op with
  | .createTransaction _ => x.freshId ∉ w.transfers
  | _ => true

end AcbuBackend.Transfer

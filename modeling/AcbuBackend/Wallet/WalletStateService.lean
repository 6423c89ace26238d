import AcbuBackend.Transfer.TransferService

/-! The wallet of a user and its version.
Every change of the wallet is a conditional update that raises the version of the row. The caller
names the version it expects by the entity tag of its `If-Match` header.
-/

namespace AcbuBackend.Wallet

open Effects Effects.Prog AcbuBackend.Runtime

abbrev UserId := String

/-- The wallet columns of a user. -/
structure UserRow where
  stellarAddress : Option String := none
  encryptedStellarSecret : Option String := none
  keyEncryptionHint : Option String := none
  walletVersion : ℤ := 0
deriving DecidableEq

/-- The fields of the `data` of an update. A field that is `none` is not written. -/
structure WalletUpdate where
  stellarAddress : Option (Option String) := none
  encryptedStellarSecret : Option (Option String) := none
  keyEncryptionHint : Option (Option String) := none
deriving DecidableEq

def UserRow.apply (row : UserRow) (data : WalletUpdate) : UserRow where
  stellarAddress := data.stellarAddress.getD row.stellarAddress
  encryptedStellarSecret := data.encryptedStellarSecret.getD row.encryptedStellarSecret
  keyEncryptionHint := data.keyEncryptionHint.getD row.keyEncryptionHint
  walletVersion := row.walletVersion + 1

@[simp] theorem walletVersion_apply {row : UserRow} {data : WalletUpdate}
    : (row.apply data).walletVersion = row.walletVersion + 1 :=
  rfl

-- Calls

/-- `findUser` selects the address. `updateMany` is by id and version. -/
inductive WalletOp
  | findUser (id : UserId)
  | updateMany (id : UserId) (walletVersion : ℤ) (data : WalletUpdate)

abbrev WalletOp.Ret : WalletOp → Type
  | .findUser _ => Option (Option String)
  | .updateMany .. => Nat

abbrev walletInterface : Interface where
  Op := WalletOp
  Ret := WalletOp.Ret
  Err := JsError

abbrev issue (op : WalletOp) : Prog walletInterface op.Ret :=
  Prog.await (I := walletInterface) op

def assertIfMatchHeaderPresent (ifMatch : Option String) : Except JsError ℤ :=
  match Transfer.parseIfMatchHeader ifMatch with
  | none =>
      .error (appError "If-Match header with wallet ETag is required for this operation" 428
        .PRECONDITION_REQUIRED)
  | some version => .ok version

/-- `updateWalletWithConcurrency`, which answers with the new version. -/
def updateWalletWithConcurrency (userId : UserId) (ifMatch : Option String) (data : WalletUpdate)
    : Prog walletInterface ℤ := do
  let expectedVersion ← fromExcept (assertIfMatchHeaderPresent ifMatch)
  let count ← issue (.updateMany userId expectedVersion data)
  ensure (count ≠ 0)
    (appError "Wallet was modified by another request; refresh and retry with the current ETag" 412
      .PRECONDITION_FAILED)
  return expectedVersion + 1

/-- `reserveWalletVersion`: the same with nothing but the version to write. -/
def reserveWalletVersion (userId : UserId) (ifMatch : Option String) : Prog walletInterface ℤ :=
  updateWalletWithConcurrency userId ifMatch {}

-- Backups

/-- What the service takes from the Stellar library and from buffers. -/
structure Deployment where
  isValidEd25519PublicKey : String → Bool
  isValidEd25519SecretSeed : String → Bool
  base64Bytes : String → List Nat
  utf8Text : List Nat → String

def CLIENT_WRAPPED_KEY_HINT : String := "client_wrapped"

def MAX_WRAPPED_KEY_LENGTH : Nat := 512

def MIN_WRAPPED_KEY_LENGTH : Nat := 1

def MAX_METADATA_LENGTH : Nat := 64

def MIN_WRAPPED_KEY_BYTES : Nat := 29

def isBase64Char (c : Char) : Bool :=
  ('A' ≤ c && c ≤ 'Z') || ('a' ≤ c && c ≤ 'z') || isDigit c || c = '+' || c = '/'

/-- `BASE64_RE`: one or more characters of the alphabet, and at most two signs of padding. -/
def isBase64Text (cs : List Char) : Bool :=
  let padding := cs.dropWhile isBase64Char
  cs.head?.any isBase64Char && (padding = [] || padding = ['='] || padding = ['=', '='])

/-- `SECRET_SEED_RE`. -/
def isSeedText (cs : List Char) : Bool :=
  cs.length = 56 && cs.head? = some 'S'
    && cs.tail.all (fun c => ('A' ≤ c && c ≤ 'Z') || ('2' ≤ c && c ≤ '7'))

def isStellarSecretSeed (dep : Deployment) (value : String) : Bool :=
  isSeedText value.toList && dep.isValidEd25519SecretSeed value

def assertMetadata (value field : String) : Except JsError Unit :=
  if value = "" ∨ MAX_METADATA_LENGTH < jsLength value then
    .error (plainAppError
      s!"{field} must be a non-empty string of at most {MAX_METADATA_LENGTH} characters" 400)
  else .ok ()

def unencryptedSecret : JsError :=
  plainAppError "Refusing to store unencrypted Stellar secret" 400

def assertClientWrappedBackup (dep : Deployment) (wrappedKey algorithm kdf : String)
    : Except JsError Unit := do
  assertMetadata algorithm "wrap_algorithm"
  assertMetadata kdf "wrap_kdf"
  if jsLength wrappedKey < MIN_WRAPPED_KEY_LENGTH
    ∨ MAX_WRAPPED_KEY_LENGTH < jsLength wrappedKey then
    .error (plainAppError
      (s!"wrapped_key must be between {MIN_WRAPPED_KEY_LENGTH} and "
        ++ s!"{MAX_WRAPPED_KEY_LENGTH} characters")
      400)
  else if isStellarSecretSeed dep wrappedKey then .error unencryptedSecret
  else if isBase64Text wrappedKey.toList = false then
    .error (plainAppError "wrapped_key must be base64-encoded" 400)
  else if isStellarSecretSeed dep (dep.utf8Text (dep.base64Bytes wrappedKey)) then
    .error unencryptedSecret
  else if (dep.base64Bytes wrappedKey).length < MIN_WRAPPED_KEY_BYTES then
    .error (plainAppError "wrapped_key does not look like an encrypted wallet backup" 400)
  else .ok ()

-- Enrolment

structure EnrollWalletParams where
  stellarAddress : String
  wrappedKey : Option String := none
  wrapAlgorithm : Option String := none
  wrapKdf : Option String := none

def isValidStellarAddress (dep : Deployment) (address : String) : Bool :=
  jsLength address = 56 && address.toList.head? = some 'G' && dep.isValidEd25519PublicKey address

def isPlaceholderAddress (address : String) : Bool :=
  address = "" || jsLength address ≠ 56
    || ['A', 'B', '0'].any (fun c => address.toList = 'G' :: List.replicate 55 c)
    || ["GTEST", "GDUMMY", "GPLACEHOLDER", "GXXXXXXXX"].any
        (fun start => start.toList.isPrefixOf address.toList)

/-- The checks of an enrolment before the user is read. -/
def checkAddress (dep : Deployment) (address : String) : Except JsError Unit :=
  if isValidStellarAddress dep address = false then
    .error (plainAppError "Invalid stellar address: must be a valid Stellar public key" 400)
  else if isPlaceholderAddress address then
    .error (plainAppError "Invalid stellar address: appears to be a placeholder" 400)
  else .ok ()

def checkBackup (dep : Deployment) (params : EnrollWalletParams) : Except JsError Unit :=
  match params.wrappedKey with
  | none => .ok ()
  | some wrappedKey =>
      assertClientWrappedBackup dep wrappedKey (params.wrapAlgorithm.getD "")
        (params.wrapKdf.getD "")

/-- What an enrolment writes. -/
def EnrollWalletParams.data (params : EnrollWalletParams) : WalletUpdate where
  stellarAddress := some (some params.stellarAddress)
  encryptedStellarSecret := some params.wrappedKey
  keyEncryptionHint := some (some (if params.wrappedKey.isSome then CLIENT_WRAPPED_KEY_HINT else
    "external"))

def setAddress (address : Option String) : Option String :=
  address.filter (fun address => address ≠ "")

def otherEnrolled (found : Option (Option String)) (stellarAddress : String) : Bool :=
  (setAddress (found.getD none)).any (fun address => address ≠ stellarAddress)

def enrollClientGeneratedWallet (dep : Deployment) (userId : UserId) (ifMatch : Option String)
    (params : EnrollWalletParams)
    : Prog walletInterface ℤ := do
  fromExcept (checkAddress dep params.stellarAddress)
  let user ← issue (.findUser userId)
  ensure (!otherEnrolled user params.stellarAddress)
    (plainAppError "Wallet already enrolled; rotate the address with PUT /users/me/wallet" 409)
  fromExcept (checkBackup dep params)
  updateWalletWithConcurrency userId ifMatch params.data

-- The users

structure World where
  users : AList (fun _ : UserId => UserRow)

/-- What becomes of a call. -/
structure Choice where
  outcome : Outcome JsError := .done

/-- `prisma.user.updateMany` by id and version: the number of rows it has changed. -/
def World.updateMany (w : World) (id : UserId) (walletVersion : ℤ) (data : WalletUpdate)
    : Nat × World :=
  match w.users.lookup id with
  | none => (0, w)
  | some row =>
      if row.walletVersion = walletVersion then (1,
        { w with users := w.users.insert id (row.apply data) })
      else (0, w)

def effect (w : World) : (op : WalletOp) → Except JsError op.Ret × World
  | .findUser id => (.ok ((w.users.lookup id).map (·.stellarAddress)), w)
  | .updateMany id walletVersion data =>
      let (count, w') := w.updateMany id walletVersion data
      (.ok count, w')

def walletEnvironment : Environment walletInterface World Choice where
  outcome := Choice.outcome
  effect := fun _ => effect
  admissible := fun _ _ _ => true

def walletSemantics : Semantics walletInterface World Choice :=
  walletEnvironment.semantics

-- Runs

inductive WalletCall
  | reserve (userId : UserId) (ifMatch : Option String)
  | update (userId : UserId) (ifMatch : Option String) (data : WalletUpdate)
  | enroll (userId : UserId) (ifMatch : Option String) (params : EnrollWalletParams)

namespace WalletCall

def prog (dep : Deployment) : WalletCall → Prog walletInterface ℤ
  | .reserve userId ifMatch => reserveWalletVersion userId ifMatch
  | .update userId ifMatch data => updateWalletWithConcurrency userId ifMatch data
  | .enroll userId ifMatch params => enrollClientGeneratedWallet dep userId ifMatch params

def userId : WalletCall → UserId
  | .reserve userId _ | .update userId _ _ | .enroll userId _ _ => userId

def ifMatch : WalletCall → Option String
  | .reserve _ ifMatch | .update _ ifMatch _ | .enroll _ ifMatch _ => ifMatch

/-- What the call writes besides the version. -/
def data : WalletCall → WalletUpdate
  | .reserve _ _ => {}
  | .update _ _ data => data
  | .enroll _ _ params => params.data

def enrolled? : WalletCall → Option String
  | .enroll _ _ params => some params.stellarAddress
  | _ => none

end WalletCall

instance : Inhabited WalletCall :=
  ⟨.reserve "" none⟩

abbrev WalletConfig := Config walletInterface ℤ World

def initialConfig (dep : Deployment) (calls : List WalletCall)
    (users : AList (fun _ : UserId => UserRow))
    : WalletConfig :=
  .initial { users } (calls.map (WalletCall.prog dep))

def callAt (calls : List WalletCall) (i : Nat) : WalletCall :=
  calls[i]?.getD default

end AcbuBackend.Wallet

import AcbuBackend.Kyc.S3Service
import AcbuBackend.Mint.MintController

/-! The requests about the documents of a user, the callback of the scanner, and what clients and
the scanner do with the objects themselves.
-/

namespace AcbuBackend.Kyc

open Effects AcbuBackend.Runtime

-- Bodies

/-- A field of a JSON body: not given, a text, a number, or anything else of a kind. -/
inductive JsonField
  | absent
  | text (value : String)
  | number (value : JsNumber)
  | other (kind : String)

def unexpected (expected : String) : JsonField → String
  | .absent => "Required"
  | .text _ => s!"Expected {expected}, received string"
  | .number _ => s!"Expected {expected}, received number"
  | .other kind => s!"Expected {expected}, received {kind}"

/-- A value, where no check of it has failed. -/
def checked {α : Type} (value : α) (failures : List (Bool × String)) : Except (List String) α :=
  match (failures.filter Prod.fst).map Prod.snd with
  | [] => .ok value
  | messages => .error messages

/-- `z.enum(values)`. -/
def readEnum {α : Type} (values : List (String × α)) (field : JsonField) : Except (List String) α :=
  let expected := String.intercalate " | " (values.map (fun value => s!"'{value.1}'"))
  match field with
  | .text value =>
      match values.lookup value with
      | some read => .ok read
      | none => .error [s!"Invalid enum value. Expected {expected}, received '{value}'"]
  | field => .error [unexpected expected field]

/-- `z.string()` with its checks. -/
def readString (failures : String → List (Bool × String)) : JsonField → Except (List String) String
  | .text value => checked value (failures value)
  | field => .error [unexpected "string" field]

/-- `.optional()`. -/
def readOptional {α : Type} (read : JsonField → Except (List String) α)
    : JsonField → Except (List String) (Option α)
  | .absent => .ok none
  | field => (read field).map some

/-- `z.number().int().positive().max(MAX_FILE_SIZE_BYTES)`. -/
def readFileSize : JsonField → Except (List String) Nat
  | .number (.finite value) =>
      checked value.num.toNat
        [(value.den ≠ 1, "Expected integer, received float"),
          (value ≤ 0, "Number must be greater than 0"),
          (MAX_FILE_SIZE_BYTES < value,
            s!"Number must be less than or equal to {MAX_FILE_SIZE_BYTES}")]
  | .number (.infinity negative) =>
      .error ["Expected integer, received float",
        if negative then "Number must be greater than 0"
        else s!"Number must be less than or equal to {MAX_FILE_SIZE_BYTES}"]
  | .number .nan => .error ["Expected number, received nan"]
  | field => .error [unexpected "number" field]

def readKind : JsonField → Except (List String) String :=
  readEnum (documentKinds.map (fun kind => (kind, kind)))

def readMimeType : JsonField → Except (List String) String :=
  readString (fun value =>
    [(jsLength value < 1, "String must contain at least 1 character(s)"),
      (100 < jsLength value, "String must contain at most 100 character(s)")])

def readDocumentId : JsonField → Except (List String) (Option String) :=
  readOptional (readString (fun value => [(!isUuid value, "Invalid uuid")]))

/-- `^[a-f0-9]{64}$`. -/
def isChecksum (s : String) : Bool :=
  s.toList.length = 64 && s.toList.all (fun c => isDigit c || ('a' ≤ c && c ≤ 'f'))

def readChecksum : JsonField → Except (List String) String :=
  readString (fun value => [(!isChecksum value, "Must be a 64-char hex SHA-256 checksum")])

def readObjectKey : JsonField → Except (List String) String :=
  readString (fun value => [(jsLength value < 1, "String must contain at least 1 character(s)")])

def readScanResult : JsonField → Except (List String) ScanResult :=
  readEnum [("clean", .clean), ("infected", .infected)]

def readThreatName : JsonField → Except (List String) (Option String) :=
  readOptional (readString (fun _ => []))

/-- The messages about a field. -/
def messagesOf {α : Type} : Except (List String) α → List String
  | .ok _ => []
  | .error messages => messages

def invalidBody (messages : List String) : KycError :=
  .thrown (plainAppError (String.intercalate "; " messages) 400)

structure UploadUrlBody where
  document_kind : JsonField
  mime_type : JsonField
  document_id : JsonField := .absent

structure ParsedUploadUrlBody where
  document_kind : String
  mime_type : String
  document_id : Option String

/-- `requestUploadUrlSchema`. -/
def UploadUrlBody.parse (body : UploadUrlBody) : Except KycError ParsedUploadUrlBody :=
  match readKind body.document_kind, readMimeType body.mime_type,
    readDocumentId body.document_id with
  | .ok document_kind, .ok mime_type, .ok document_id =>
      .ok { document_kind, mime_type, document_id }
  | kind, mimeType, id =>
      .error (invalidBody (messagesOf kind ++ messagesOf mimeType ++ messagesOf id))

structure ConfirmBody where
  checksum : JsonField
  file_size_bytes : JsonField

/-- `confirmUploadSchema`. -/
def ConfirmBody.parse (body : ConfirmBody) : Except KycError (String × Nat) :=
  match readChecksum body.checksum, readFileSize body.file_size_bytes with
  | .ok checksum, .ok file_size_bytes => .ok (checksum, file_size_bytes)
  | checksum, size => .error (invalidBody (messagesOf checksum ++ messagesOf size))

/-- A callback: its signature, the text of its body and the fields of it. -/
structure ScanWebhookRequest where
  signature : Option String
  rawBody : String
  object_key : JsonField
  scan_result : JsonField
  threat_name : JsonField := .absent

/-- `scanWebhookSchema`. -/
def ScanWebhookRequest.parse (request : ScanWebhookRequest)
    : Except KycError (String × ScanResult) :=
  match readObjectKey request.object_key, readScanResult request.scan_result,
    readThreatName request.threat_name with
  | .ok object_key, .ok scan_result, .ok _ => .ok (object_key, scan_result)
  | key, result, threat =>
      .error (invalidBody (messagesOf key ++ messagesOf result ++ messagesOf threat))

-- Applications

section

variable (config : KycConfig)

def checkJurisdictionLicensing (countryCode : String) : Bool :=
  config.kycOperatingModel = "partner"
  || config.licensedJurisdictions.contains (jsToUpperCase countryCode)
  || !config.enforce

def unlicensed (countryCode : String) : KycError :=
  .thrown (plainAppError
    (s!"KYC operations are not licensed for jurisdiction {countryCode}. "
      ++ "ACBU currently holds licenses for: " ++ listed config.licensedJurisdictions ++ ". "
      ++ "If this is a partner-operated KYC, set KYC_OPERATING_MODEL=partner. "
      ++ "Otherwise, contact legal/compliance to obtain the required license.") 422)

def createApplication (userId : UserId) : Prog kycInterface String := do
  let known ← issue (.findCountryCode userId)
  Prog.ensure (checkJurisdictionLicensing config (known.getD "XX"))
    (unlicensed config (known.getD "XX"))
  issue (.createApplication
    { userId, countryCode := known.getD "XX", status := "pending", feePaidAcbu := 0 })

def getOrCreateApplication (userId : UserId) : Prog kycInterface String := do
  let existing ← issue (.findApplication userId)
  match existing with
  | some id => return id
  | none => createApplication config userId

-- Handlers

inductive KycResponse
  | uploadUrl (document_id : String) (result : PresignedUploadResult)
  | confirmed (document_id kind : String) (checksum : Option String) (scan_status : String)
      (created_at : Nat)
  | downloadUrl (document_id : String) (result : PresignedDownloadResult)
  | scanned (scan_result : ScanResult)
  /-- What clients and the scanner do is not answered. -/
  | nothing
deriving DecidableEq

def requireUser (userId : Option UserId) : Prog kycInterface UserId :=
  Prog.orThrow userId (.thrown (plainAppError "User-scoped API key required" 401))

/-- `body.document_id ?? generateId()`. -/
def documentIdOf (given : Option String) : Prog kycInterface String :=
  match given with
  | some id => return id
  | none => issue .generateId

def requestUploadUrl (userId : Option UserId) (body : UploadUrlBody)
    : Prog kycInterface KycResponse := do
  let userId ← requireUser userId
  let body ← Prog.fromExcept (I := kycInterface) body.parse
  let documentId ← documentIdOf body.document_id
  let result ← generateUploadUrl config userId body.document_kind documentId body.mime_type
  let applicationId ← getOrCreateApplication config userId
  let (id, _) ← issue (.upsertDocument documentId {
    applicationId
    kind := body.document_kind
    storageRef := result.object_key
    mimeType := body.mime_type })
  return .uploadUrl id result

def findOwnDocument (userId : UserId) (id : String) : Prog kycInterface KycDocument := do
  let found ← issue (.findDocument id)
  let (doc, owner) ← Prog.orThrow found (.thrown (plainAppError "Document not found" 404))
  Prog.ensure (owner = userId) (.thrown (plainAppError "Access denied" 403))
  return doc

def confirmUpload (userId : Option UserId) (id : String) (body : ConfirmBody)
    : Prog kycInterface KycResponse := do
  let userId ← requireUser userId
  let (checksum, fileSizeBytes) ← Prog.fromExcept (I := kycInterface) body.parse
  let doc ← findOwnDocument userId id
  assertKeyOwnership doc.storageRef userId.text
  let (id, updated) ← issue (.updateDocument id checksum fileSizeBytes)
  return .confirmed id updated.kind updated.checksum updated.scanStatus updated.createdAt

/-- `s.includes(part)`. -/
def includesText (s part : String) : Bool :=
  s.toList.tails.any (fun rest => part.toList.isPrefixOf rest)

def scanGateError (error : KycError) : KycError :=
  if includesText error.message "virus scan" || includesText error.message "pending scan" then
    .thrown (plainAppError error.message 422)
  else error

def requestDownloadUrl (userId : Option UserId) (id : String) : Prog kycInterface KycResponse :=
  Prog.catchWith (do
    let userId ← requireUser userId
    let doc ← findOwnDocument userId id
    let result ← generateDownloadUrl config userId doc.storageRef
    return .downloadUrl id result)
    (fun error => .fail (scanGateError error))

/-- The signature of a callback, checked where there is a secret. -/
def verifySignature (request : ScanWebhookRequest) : Except KycError Unit :=
  match config.scanWebhookSecret.filter (fun secret => secret ≠ "") with
  | some secret =>
      match request.signature.filter (fun signature => signature ≠ "") with
      | none => .error (.thrown (plainAppError "Missing scan webhook signature" 401))
      | some signature =>
          if Mint.bufferFromHex signature.toList = config.hmacSha256 secret request.rawBody then
            .ok ()
          else .error (.thrown (plainAppError "Invalid scan webhook signature" 401))
  | none =>
      if config.nodeEnv = "production" then
        .error (.thrown (plainAppError "Scan webhook secret not configured" 500))
      else .ok ()

def markScanned (objectKey : String) : ScanResult → Prog kycInterface Unit
  | .clean => markObjectClean config objectKey
  | .infected => markObjectInfected config objectKey

def scanWebhook (request : ScanWebhookRequest) : Prog kycInterface KycResponse := do
  Prog.fromExcept (I := kycInterface) (verifySignature config request)
  let (object_key, scan_result) ← Prog.fromExcept (I := kycInterface) request.parse
  markScanned config object_key scan_result
  issue (.updateScanStatus object_key scan_result.text)
  return .scanned scan_result

-- Everyone's calls

/-- What a client does with an upload URL. -/
def upload (objectKey contentType content : String) : Prog kycInterface KycResponse := do
  issue (.putObject objectKey contentType content)
  return .nothing

def scan (objectKey : String) (verdict : String → ScanResult) : Prog kycInterface KycResponse := do
  let content ← issue (.readObject objectKey)
  issue (.report { objectKey, content, result := verdict content })
  return .nothing

end

/-- A request to the server, or a part of someone else's. -/
inductive KycCall
  | requestUploadUrl (userId : Option UserId) (body : UploadUrlBody)
  | confirmUpload (userId : Option UserId) (id : String) (body : ConfirmBody)
  | requestDownloadUrl (userId : Option UserId) (id : String)
  | scanWebhook (request : ScanWebhookRequest)
  | upload (objectKey contentType content : String)
  | scan (objectKey : String) (verdict : String → ScanResult)

def KycCall.userId : KycCall → Option UserId
  | .requestUploadUrl userId _ | .confirmUpload userId _ _ | .requestDownloadUrl userId _ => userId
  | .scanWebhook _ | .upload .. | .scan .. => none

def KycCall.prog (config : KycConfig) : KycCall → Prog kycInterface KycResponse
  | .requestUploadUrl userId body => Kyc.requestUploadUrl config userId body
  | .confirmUpload userId id body => Kyc.confirmUpload userId id body
  | .requestDownloadUrl userId id => Kyc.requestDownloadUrl config userId id
  | .scanWebhook request => Kyc.scanWebhook config request
  | .upload objectKey contentType content => Kyc.upload objectKey contentType content
  | .scan objectKey verdict => Kyc.scan objectKey verdict

end AcbuBackend.Kyc

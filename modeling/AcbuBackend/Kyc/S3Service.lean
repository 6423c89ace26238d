import AcbuBackend.Runtime.Errors
import AcbuBackend.Runtime.Text
import Mathlib.Data.List.AList

/-! Documents of users in the object storage, and the calls of everyone who takes part in them.
An object is reached through URLs that are signed for a while: one to upload it, and once the
scanner has found it clean one to download it. Its verdict is a tag of its key.
-/

namespace AcbuBackend.Kyc

open Effects AcbuBackend.Runtime

-- Users and documents

def isHexDigit (c : Char) : Bool :=
  (radixDigit? 16 c).isSome

/-- Groups of hexadecimal digits of the lengths 8, 4, 4, 4 and 12. -/
def isUuid (s : String) : Bool :=
  let groups := s.toList.splitOn '-'
  groups.map List.length = [8, 4, 4, 4, 12] && groups.all (List.all · isHexDigit)

/-- The id of a user, as the database writes it. -/
structure UserId where
  text : String
  uuid : isUuid text = true
deriving DecidableEq

/-- A row of `kyc_applications`. -/
structure KycApplication where
  userId : UserId
  countryCode : String
  status : String
  feePaidAcbu : ℚ
deriving DecidableEq

/-- A row of `kyc_documents`. -/
structure KycDocument where
  applicationId : String
  kind : String
  storageRef : String
  checksum : Option String := none
  mimeType : Option String := none
  scanStatus : String := "pending"
  fileSizeBytes : Option Nat := none
  createdAt : Nat

/-- A row to create or update a document with. -/
structure DocumentUpsert where
  applicationId : String
  kind : String
  storageRef : String
  mimeType : String
deriving DecidableEq

-- Objects

abbrev TagSet := List (String × String)

/-- `PutObjectCommand`. The text of `Tagging` is the tags one after the other. -/
structure PutObjectCommand where
  Key : String
  ContentType : String
  ACL : String
  ServerSideEncryption : String
  Tagging : TagSet
  Metadata : List (String × String)
  initiatedAt : Nat
deriving DecidableEq

inductive ScanResult
  | clean
  | infected
deriving DecidableEq

def ScanResult.text : ScanResult → String
  | .clean => "clean"
  | .infected => "infected"

/-- What the scanner reports: of which key, of which content it found there, and what. -/
structure ScanReport where
  objectKey : String
  content : String
  result : ScanResult
deriving DecidableEq

-- Calls

/-- The calls of the server, then the upload of a client and the calls of the scanner. -/
inductive KycOp
  | now
  | generateId
  | signPutObject (command : PutObjectCommand) (expiresIn : Nat)
  | signGetObject (objectKey : String) (expiresIn : Nat)
  | headObject (objectKey : String)
  | getObjectTagging (objectKey : String)
  | putObjectTagging (objectKey : String) (tags : TagSet)
  | findApplication (userId : UserId)
  | findCountryCode (userId : UserId)
  | createApplication (application : KycApplication)
  | upsertDocument (id : String) (data : DocumentUpsert)
  | findDocument (id : String)
  | updateDocument (id : String) (checksum : String) (fileSizeBytes : Nat)
  | updateScanStatus (storageRef : String) (status : String)
  | putObject (objectKey contentType content : String)
  | readObject (objectKey : String)
  | report (report : ScanReport)
deriving DecidableEq

/-- A document that was written: its id and the row. -/
abbrev KycOp.Ret : KycOp → Type
  | .now => Nat
  | .generateId => String
  | .signPutObject .. => String
  | .signGetObject .. => String
  | .headObject .. => Unit
  | .getObjectTagging .. => TagSet
  | .putObjectTagging .. => Unit
  | .findApplication .. => Option String
  | .findCountryCode .. => Option String
  | .createApplication .. => String
  | .upsertDocument .. => String × KycDocument
  | .findDocument .. => Option (KycDocument × UserId)
  | .updateDocument .. => String × KycDocument
  | .updateScanStatus .. => Unit
  | .putObject .. => Unit
  | .readObject .. => String
  | .report .. => Unit

/-- What a call throws: an error of the storage, and whether it says that the object is not there;
or any other error.
-/
inductive KycError
  | storage (missing : Bool) (message : String)
  | thrown (error : JsError)

def KycError.message : KycError → String
  | .storage _ message => message
  | .thrown error => error.message

/-- `throw new Error(message)`. -/
def errorOf (message : String) : KycError :=
  .thrown (.error message)

abbrev kycInterface : Interface where
  Op := KycOp
  Ret := KycOp.Ret
  Err := KycError

abbrev issue (op : KycOp) : Prog kycInterface op.Ret :=
  Prog.await (I := kycInterface) op

/-- The settings that are read. -/
structure KycConfig where
  nodeEnv : String
  bucket : Option String
  uploadUrlTtlSeconds : Nat
  downloadUrlTtlSeconds : Nat
  scanWebhookSecret : Option String
  licensedJurisdictions : List String
  enforce : Bool
  kycOperatingModel : String
  sha256Hex : String → String
  hmacSha256 : String → String → List Nat

-- Kinds and keys

def ALLOWED_MIME_TYPES : List (String × List String) :=
  [("passport", ["image/jpeg", "image/png", "application/pdf"]),
    ("national_id", ["image/jpeg", "image/png", "application/pdf"]),
    ("drivers_license", ["image/jpeg", "image/png", "application/pdf"]),
    ("proof_of_address", ["image/jpeg", "image/png", "application/pdf"]),
    ("selfie", ["image/jpeg", "image/png"])]

def documentKinds : List String :=
  ALLOWED_MIME_TYPES.map Prod.fst

/-- `texts.join(", ")`. -/
def listed (texts : List String) : String :=
  String.intercalate ", " texts

def MAX_FILE_SIZE_BYTES : Nat :=
  10 * 1024 * 1024

/-- The characters of a text that a set allows. -/
def keepChars (allowed : Char → Bool) (s : String) : String :=
  String.ofList (s.toList.filter allowed)

def isAlphanumeric (c : Char) : Bool :=
  ('a' ≤ c && c ≤ 'z') || ('A' ≤ c && c ≤ 'Z') || ('0' ≤ c && c ≤ '9')

def isIdChar (c : Char) : Bool :=
  isAlphanumeric c || c = '-'

def isKindChar (c : Char) : Bool :=
  isAlphanumeric c || c = '_'

def buildObjectKey (userId documentKind documentId : String) : String :=
  let safeUserId := keepChars isIdChar userId
  let safeKind := keepChars isKindChar documentKind
  let safeDocId := keepChars isIdChar documentId
  s!"kyc/{safeUserId}/{safeKind}/{safeDocId}"

/-- The parts of a key are those of a document of the user. -/
def ownsKey (objectKey userId : String) : Bool :=
  match objectKey.toList.splitOn '/' with
  | root :: owner :: _ :: _ :: _ => root = "kyc".toList && owner = userId.toList
  | _ => false

def assertKeyOwnership (objectKey userId : String) : Prog kycInterface Unit :=
  Prog.ensure (ownsKey objectKey userId) (errorOf
    "Access denied: object does not belong to this user")

section

variable (config : KycConfig)

def requireConfiguredS3Bucket : Prog kycInterface String :=
  Prog.orThrow ((config.bucket.map jsTrim).filter (fun bucket => bucket ≠ ""))
    (errorOf "S3 bucket is not configured")

-- Upload URLs

structure PresignedUploadResult where
  upload_url : String
  object_key : String
  content_type : String
  expires_at : Nat
  key_checksum : String
deriving DecidableEq

def uploadCommand (userId : UserId) (documentKind documentId mimeType : String) (initiatedAt : Nat)
    : PutObjectCommand where
  Key := buildObjectKey userId.text documentKind documentId
  ContentType := mimeType
  ACL := "private"
  ServerSideEncryption := "AES256"
  Tagging := [("scan-status", "pending"), ("owner", userId.text)]
  Metadata := [("user-id", userId.text), ("document-kind", documentKind),
    ("document-id", documentId)]
  initiatedAt

def generateUploadUrl (userId : UserId) (documentKind documentId mimeType : String)
    : Prog kycInterface PresignedUploadResult := do
  let allowedForKind ← Prog.orThrow (ALLOWED_MIME_TYPES.lookup documentKind) (errorOf
    (s!"Invalid document kind: {documentKind}. Allowed: " ++ listed documentKinds))
  Prog.ensure (allowedForKind.contains mimeType) (errorOf
    (s!"MIME type {mimeType} is not allowed for {documentKind}. Allowed: "
      ++ listed allowedForKind))
  let now ← issue .now
  let _ ← requireConfiguredS3Bucket config
  let initiatedAt ← issue .now
  let upload_url ← issue (.signPutObject
    (uploadCommand userId documentKind documentId mimeType initiatedAt) config.uploadUrlTtlSeconds)
  return {
    upload_url
    object_key := buildObjectKey userId.text documentKind documentId
    content_type := mimeType
    expires_at := now / 1000 + config.uploadUrlTtlSeconds
    key_checksum := config.sha256Hex (buildObjectKey userId.text documentKind documentId) }

-- Download URLs

structure PresignedDownloadResult where
  download_url : String
  expires_at : Nat
  scan_status : String
deriving DecidableEq

def assertScanAllowsDownload (scanStatus : String) : Prog kycInterface Unit :=
  if scanStatus = "clean" then return ()
  else if scanStatus = "infected" then
    .fail (errorOf "Document failed virus scan and cannot be downloaded. Contact support.")
  else if scanStatus = "pending" then
    .fail (errorOf "Document is pending virus scan. Please try again in a few minutes.")
  else
    .fail (errorOf "Document virus scan status could not be confirmed. Please try again later.")

/-- The status that the tags of an object say, `pending` where they say none that is known. -/
def taggedStatus (tags : TagSet) : String :=
  let status := (tags.lookup "scan-status").getD "pending"
  if ["clean", "infected", "pending"].contains status then status else "pending"

def readScanTag (objectKey : String) : Prog kycInterface String :=
  if config.nodeEnv = "test" ∨ config.nodeEnv = "development" then return "clean"
  else do
    let tags ← issue (.getObjectTagging objectKey)
    return taggedStatus tags

def lookUpScanStatus (objectKey : String) : Prog kycInterface String := do
  let _ ← requireConfiguredS3Bucket config
  issue (.headObject objectKey)
  readScanTag config objectKey

/-- The error says that there is no such object. -/
def isNotFound : KycError → Bool
  | .storage missing _ => missing
  | .thrown _ => false

/-- `getObjectScanStatus`. A failed lookup is `pending`. -/
def getObjectScanStatus (objectKey : String) : Prog kycInterface String :=
  (lookUpScanStatus config objectKey).catchWith (fun error =>
    if isNotFound error then .fail (errorOf "Document not found in storage") else return "pending")

def generateDownloadUrl (userId : UserId) (objectKey : String)
    : Prog kycInterface PresignedDownloadResult := do
  assertKeyOwnership objectKey userId.text
  let scanStatus ← getObjectScanStatus config objectKey
  assertScanAllowsDownload scanStatus
  let now ← issue .now
  let _ ← requireConfiguredS3Bucket config
  let download_url ← issue (.signGetObject objectKey config.downloadUrlTtlSeconds)
  return {
    download_url
    expires_at := now / 1000 + config.downloadUrlTtlSeconds
    scan_status := scanStatus }

-- Verdicts

/-- Tags an object with a verdict. -/
def markObject (objectKey : String) (result : ScanResult) : Prog kycInterface Unit := do
  let _ ← requireConfiguredS3Bucket config
  issue (.putObjectTagging objectKey [("scan-status", result.text)])

def markObjectClean (objectKey : String) : Prog kycInterface Unit :=
  markObject config objectKey .clean

def markObjectInfected (objectKey : String) : Prog kycInterface Unit :=
  markObject config objectKey .infected

end

end AcbuBackend.Kyc

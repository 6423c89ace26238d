import AcbuBackend.Kyc.KycController
import AcbuBackend.Runtime.Tables

/-! The database, the object storage and the reports of the scanner.
An upload through a URL replaces the object at its key, with the tags that were signed. The ids of
rows are what the database reads in a text.
-/

namespace AcbuBackend.Kyc

open Effects AcbuBackend.Runtime

structure StoredObject where
  content : String
  tags : TagSet

/-- The rows and objects that are there, the upload URLs with the times they expire at, and the
reports of the scanner.
-/
structure World where
  clock : Nat
  countryCodes : UserId → Option String
  applications : AList (fun _ : String => KycApplication)
  documents : AList (fun _ : String => KycDocument)
  objects : AList (fun _ : String => StoredObject)
  uploadUrls : List (PutObjectCommand × Nat)
  reports : List ScanReport

/-- When a call takes place, whether it does, and the text that is drawn: an id or a URL. -/
structure Choice where
  time : Nat
  outcome : Outcome KycError := .done
  text : String := ""

def World.at (w : World) (x : Choice) : World :=
  { w with clock := x.time }

/-- An application that takes documents. -/
def isOpen (userId : UserId) (application : KycApplication) : Bool :=
  application.userId = userId && ["pending", "submitted"].contains application.status

def invalidUuid : KycError :=
  errorOf "Inconsistent column data: Error creating UUID"

def noSuchKey : KycError :=
  .storage true "The specified key does not exist."

section

variable (readUuid : String → Option String)

/-- `create` or `update` of a document, by its id. -/
def upsertDocument (w : World) (id : String) (data : DocumentUpsert)
    : Except KycError (String × KycDocument) × World :=
  match readUuid id with
  | none => (.error invalidUuid, w)
  | some key =>
      match w.documents.lookup key with
      | some doc =>
          let updated := { doc with storageRef := data.storageRef, mimeType := some data.mimeType }
          (.ok (key, updated), { w with documents := w.documents.insert key updated })
      | none =>
          if w.applications.lookup data.applicationId = none then
            (.error (errorOf "Foreign key constraint violated"), w)
          else
            let created : KycDocument :=
              { applicationId := data.applicationId, kind := data.kind
                storageRef := data.storageRef
                mimeType := some data.mimeType, createdAt := w.clock }
            (.ok (key, created), { w with documents := w.documents.insert key created })

def findDocument (w : World) (id : String) : Except KycError (Option (KycDocument × UserId)) :=
  match readUuid id with
  | none => .error invalidUuid
  | some key =>
      .ok ((w.documents.lookup key).bind (fun doc =>
        (w.applications.lookup doc.applicationId).map
        (fun application => (doc, application.userId))))

def updateDocument (w : World) (id checksum : String) (fileSizeBytes : Nat)
    : Except KycError (String × KycDocument) × World :=
  match readUuid id with
  | none => (.error invalidUuid, w)
  | some key =>
      match w.documents.lookup key with
      | none => (.error (errorOf "No record was found for an update."), w)
      | some doc =>
          let updated := { doc with checksum := some checksum, fileSizeBytes := some fileSizeBytes }
          (.ok (key, updated), { w with documents := w.documents.insert key updated })

/-- The upload of a client with a URL that has not expired. -/
def putObject (w : World) (objectKey contentType content : String) : Except KycError Unit × World :=
  match w.uploadUrls.find? (fun (command, expiresAt) =>
    command.Key = objectKey && command.ContentType = contentType && w.clock < expiresAt) with
  | none => (.error (.storage false "Access Denied"), w)
  | some (command, _) =>
      (.ok (), { w with objects := w.objects.insert objectKey { content, tags := command.Tagging } })

def putObjectTagging (w : World) (objectKey : String) (tags : TagSet)
    : Except KycError Unit × World :=
  match w.objects.lookup objectKey with
  | none => (.error noSuchKey, w)
  | some object => (.ok (), { w with objects := w.objects.insert objectKey { object with tags } })

/-- What a call answers, and the world it leaves. -/
def effect (x : Choice) (w : World) : (op : KycOp) → Except KycError op.Ret × World
  | .now => (.ok w.clock, w)
  | .generateId => (.ok x.text, w)
  | .signPutObject command expiresIn =>
      (.ok x.text, { w with uploadUrls := (command, w.clock + expiresIn * 1000) :: w.uploadUrls })
  | .signGetObject .. => (.ok x.text, w)
  | .headObject objectKey =>
      (if (w.objects.lookup objectKey).isSome then .ok () else .error noSuchKey, w)
  | .getObjectTagging objectKey =>
      (((w.objects.lookup objectKey).map StoredObject.tags).elim (.error noSuchKey) .ok, w)
  | .putObjectTagging objectKey tags => putObjectTagging w objectKey tags
  | .findApplication userId =>
      (.ok ((w.applications.entries.find? (fun e => isOpen userId e.2)).map (·.1)), w)
  | .findCountryCode userId => (.ok (w.countryCodes userId), w)
  | .createApplication application =>
      if (w.applications.lookup x.text).isSome then (.error (.thrown .uniqueConstraint), w)
      else (.ok x.text, { w with applications := w.applications.insert x.text application })
  | .upsertDocument id data => upsertDocument readUuid w id data
  | .findDocument id => (findDocument readUuid w id, w)
  | .updateDocument id checksum fileSizeBytes => updateDocument readUuid w id checksum fileSizeBytes
  | .updateScanStatus storageRef status =>
      (.ok (), { w with documents := updateRows w.documents (fun _ doc =>
        if doc.storageRef = storageRef then { doc with scanStatus := status } else doc) })
  | .putObject objectKey contentType content => putObject w objectKey contentType content
  | .readObject objectKey =>
      (((w.objects.lookup objectKey).map StoredObject.content).elim (.error noSuchKey) .ok, w)
  | .report report => (.ok (), { w with reports := report :: w.reports })

/-- Time does not go back; reading it and drawing an id do not fail. -/
def admissible (op : KycOp) (x : Choice) (w : World) : Bool :=
  w.clock ≤ x.time
  && match op with
    | .now => !x.outcome.isLost && !x.outcome.isFailed
    | .generateId => isUuid x.text && !x.outcome.isLost && !x.outcome.isFailed
    | _ => true

def kycEnvironment : Environment kycInterface World Choice where
  outcome := Choice.outcome
  effect := fun x w op => effect readUuid x (w.at x) op
  admissible := admissible

def kycSemantics : Semantics kycInterface World Choice :=
  (kycEnvironment readUuid).semantics

end

theorem effect_of_answered {readUuid : String → Option String} {i : Nat} {x : Choice} {w w' : World}
    {op : KycOp} {value : op.Ret}
    (answered : (kycSemantics readUuid).act i op x w
      = some ((.ok value : kycInterface.Reply op), w'))
    : effect readUuid x (w.at x) op = (.ok value, w') := by
  obtain ⟨-, ⟨-, failed⟩ | ⟨same, replied⟩⟩ := Environment.act_cases answered
  · cases failed
  · exact Prod.ext (replied rfl).symm same.symm

abbrev KycRun := Config kycInterface KycResponse World

/-- Calls before their first step. -/
def kycCalls (config : KycConfig) (calls : List KycCall) (w : World) : KycRun :=
  .initial w (calls.map (KycCall.prog config))

end AcbuBackend.Kyc

import AcbuBackend.Kyc.KycStorage

/-! Who a document belongs to, and who changes it.
The owner of a document is the user of its application, which an update does not change; the key of
its object is that of whoever updates it. So keys stay under the prefixes of the owners as long as a
request that names a document which is there names an own one, of the same kind.
-/

namespace AcbuBackend.Kyc

open Effects AcbuBackend.Runtime

-- Owners and prefixes

def keyPrefix (owner : UserId) (kind : String) : String :=
  s!"kyc/{owner.text}/{kind}/"

def underPrefix (owner : UserId) (kind storageRef : String) : Bool :=
  (keyPrefix owner kind).toList.isPrefixOf storageRef.toList

def World.owner? (w : World) (doc : KycDocument) : Option UserId :=
  (w.applications.lookup doc.applicationId).map KycApplication.userId

/-- Every document has an owner, and its key is under the prefix of the owner and of its kind. -/
def World.Owned (w : World) : Prop :=
  ∀ id doc, w.documents.lookup id = some doc →
    ∃ owner, w.owner? doc = some owner ∧ underPrefix owner doc.kind doc.storageRef = true

/-- The documents of others than a user are as they were. -/
def World.LeavesOthers (w w' : World) (user : UserId) : Prop :=
  ∀ id doc, w.documents.lookup id = some doc → w.owner? doc ≠ some user →
    w'.documents.lookup id = some doc ∧ w'.owner? doc = w.owner? doc

def callerOf (calls : List KycCall) (i : Nat) : Option UserId :=
  (calls[i]?).bind KycCall.userId

/-- A document that is written by an upsert and is there already is one of the caller, of the kind
that was asked for.
-/
def NamesOwn (readUuid : String → Option String) (calls : List KycCall) (c : KycRun) (i : Nat)
    (_ : Choice)
    : Prop :=
  match c.pending? i with
  | some (.upsertDocument id data) =>
      ∀ doc ∈ (readUuid id).bind (c.world.documents.lookup ·),
        c.world.owner? doc = callerOf calls i ∧ doc.kind = data.kind
  | _ => True

instance {readUuid : String → Option String} {calls : List KycCall} (c : KycRun) (i : Nat)
    (x : Choice)
    : Decidable (NamesOwn readUuid calls c i x) := by
  unfold NamesOwn
  split <;> infer_instance

-- Keys

/-- What is between separators is the separator, or was there before. -/
theorem mem_of_mem_intersperse {α : Type} {sep part : α} {parts : List α}
    (h : part ∈ parts.intersperse sep)
    : part = sep ∨ part ∈ parts := by
  fun_induction List.intersperse sep parts with
  | case1 => exact .inr h
  | case2 a => exact .inr h
  | case3 a rest nonempty ih =>
      rcases List.mem_cons.mp h with rfl | h
      · exact .inr List.mem_cons_self
      · rcases List.mem_cons.mp h with rfl | h
        · exact .inl rfl
        · exact (ih h).imp_right (List.mem_cons_of_mem a)

theorem isIdChar_of_isHexDigit {c : Char} (h : isHexDigit c = true) : isIdChar c = true := by
  unfold isHexDigit radixDigit? at h
  simp only [Option.isSome_filter, Option.any_eq_true] at h
  obtain ⟨digit, known, -⟩ := h
  simp only [isIdChar, isAlphanumeric, Bool.or_eq_true, Bool.and_eq_true, decide_eq_true_eq]
  split at known
  · rename_i h
    simp only [isDigit, Bool.and_eq_true, decide_eq_true_eq] at h
    exact .inl (.inr h)
  · split at known
    · rename_i h
      exact .inl (.inl (.inl ⟨h.1, Char.le_trans h.2 (by decide)⟩))
    · split at known
      · rename_i h
        exact .inl (.inl (.inr ⟨h.1, Char.le_trans h.2 (by decide)⟩))
      · cases known

theorem isIdChar_of_isUuid {s : String} (h : isUuid s = true)
    : ∀ c ∈ s.toList, isIdChar c = true := by
  intro c member
  obtain ⟨-, digits⟩ := (Bool.and_eq_true _ _).mp h
  have whole : ['-'].intercalate (s.toList.splitOn '-') = s.toList := List.intercalate_splitOn '-'
  rw [← whole, List.intercalate, List.mem_flatten] at member
  obtain ⟨group, member, inside⟩ := member
  rcases mem_of_mem_intersperse member with rfl | member
  · obtain rfl := List.mem_singleton.mp inside
    rfl
  · exact isIdChar_of_isHexDigit (List.all_eq_true.mp
      (List.all_eq_true.mp digits group member) c inside)

theorem keepChars_eq_self {allowed : Char → Bool} {s : String}
    (h : ∀ c ∈ s.toList, allowed c = true)
    : keepChars allowed s = s := by
  rw [keepChars, List.filter_eq_self.mpr h, String.ofList_toList]

theorem isKindChar_of_mem {kind : String} (known : kind ∈ documentKinds)
    : ∀ c ∈ kind.toList, isKindChar c = true := by
  have all : documentKinds.all (fun kind => kind.toList.all isKindChar) = true := by decide +kernel
  exact List.all_eq_true.mp (List.all_eq_true.mp all kind known)

theorem underPrefix_buildObjectKey (userId : UserId) {kind : String} (documentId : String)
    (known : kind ∈ documentKinds)
    : underPrefix userId kind (buildObjectKey userId.text kind documentId) = true := by
  have key : buildObjectKey userId.text kind documentId
      = keyPrefix userId kind ++ keepChars isIdChar documentId := by
    unfold buildObjectKey
    rw [keepChars_eq_self (isIdChar_of_isUuid userId.uuid),
      keepChars_eq_self (isKindChar_of_mem known)]
    simp only [keyPrefix, String.append_assoc]
    rfl
  rw [underPrefix, key, String.toList_append, List.isPrefixOf_iff_prefix]
  exact List.prefix_append ..

-- The calls of a user

/-- What a call has learned: an application of its caller, and a document of its caller. -/
structure Standing where
  caller : Option UserId
  application : Option String := none
  document : Option String := none

/-- A call creates and finds applications of its caller, writes documents under the prefix of the
caller and updates a document of the caller; callbacks are not made by a user.
-/
def ownershipProtocol : Protocol kycInterface Standing where
  next
    | phase, .findApplication userId, reply =>
        if phase.caller = some userId then
          some { phase with application := reply.toOption.join.or phase.application }
        else none
    | phase, .createApplication application, reply =>
        if phase.caller = some application.userId then
          some { phase with application := reply.toOption.or phase.application }
        else none
    | phase, .upsertDocument _ data, _ =>
        if phase.application = some data.applicationId
          ∧ phase.caller.any (fun caller => underPrefix caller data.kind data.storageRef)
            = true then
          some phase
        else none
    | phase, .findDocument id, reply =>
        some { phase with
          document := (reply.toOption.join.filter (fun found => phase.caller = some found.2)).map
            (fun _ => id) }
    | phase, .updateDocument id _ _, _ => if phase.document = some id then some phase else none
    | phase, .updateScanStatus .., _ => if phase.caller = none then some phase else none
    | phase, _, _ => some phase

section

variable {config : KycConfig} {phase : Standing}

theorem wp_generateUploadUrl {userId : UserId} {kind documentId mimeType : String}
    : ownershipProtocol.wp (generateUploadUrl config userId kind documentId mimeType) phase
        (fun result phase' => phase' = phase
          ∧ result.object_key = buildObjectKey userId.text kind documentId)
        (fun _ _ => True) := by
  simp [generateUploadUrl, requireConfiguredS3Bucket, ownershipProtocol, issue]

theorem wp_getOrCreateApplication {userId : UserId}
    : ownershipProtocol.wp (getOrCreateApplication config userId) { caller := some userId }
        (fun id phase' => phase' = { caller := some userId, application := some id })
        (fun _ _ => True) := by
  unfold getOrCreateApplication
  rw [Protocol.wp_bind]
  refine Protocol.wp_await.mpr ⟨fun existing => ⟨_, if_pos rfl, ?_⟩,
    fun _ => ⟨_, if_pos rfl, trivial⟩⟩
  cases existing with
  | some id => exact Protocol.wp_pure.mpr rfl
  | none => simp [createApplication, ownershipProtocol, issue, Except.toOption]

theorem wp_documentIdOf {given : Option String}
    : ownershipProtocol.wp (documentIdOf given) phase (fun _ phase' => phase' = phase)
        (fun _ _ => True) := by
  cases given <;> simp [documentIdOf, ownershipProtocol, issue]

theorem mem_documentKinds_of_lookup {value read : String}
    (found : (documentKinds.map (fun kind => (kind, kind))).lookup value = some read)
    : read ∈ documentKinds := by
  obtain ⟨before, after, split, -⟩ := List.lookup_eq_some_iff.mp found
  have member : (value, read) ∈ documentKinds.map (fun kind => (kind, kind)) := by
    rw [split]
    exact List.mem_append_right _ List.mem_cons_self
  obtain ⟨kind, known, same⟩ := List.mem_map.mp member
  obtain ⟨-, rfl⟩ := Prod.mk.inj same
  exact known

theorem mem_documentKinds_of_parse {body : UploadUrlBody} {parsed : ParsedUploadUrlBody}
    (h : body.parse = .ok parsed)
    : parsed.document_kind ∈ documentKinds := by
  unfold UploadUrlBody.parse at h
  split at h
  · rename_i kind mimeType id known _ _
    obtain rfl := Except.ok.inj h
    unfold readKind readEnum at known
    dsimp only at known
    split at known
    · split at known
      · rename_i read found
        obtain rfl := Except.ok.inj known
        exact mem_documentKinds_of_lookup found
      · cases known
    · cases known
  · cases h

theorem wp_requestUploadUrl {userId : Option UserId} {body : UploadUrlBody}
    : ownershipProtocol.wp (requestUploadUrl config userId body) { caller := userId }
        (fun _ _ => True) (fun _ _ => True) := by
  unfold requestUploadUrl
  simp only [Protocol.wp_bind]
  refine Protocol.wp_orThrow.mpr ⟨fun user known => ?_, fun _ => trivial⟩
  obtain rfl := known
  refine Protocol.wp_fromExcept.mpr ⟨fun body parsed => ?_, fun _ _ => trivial⟩
  refine Protocol.wp_mono wp_documentIdOf (fun documentId phase same => ?_) fun _ _ _ => trivial
  rw [same]
  refine Protocol.wp_mono wp_generateUploadUrl (fun result phase same => ?_) fun _ _ _ => trivial
  obtain ⟨rfl, key⟩ := same
  refine Protocol.wp_mono wp_getOrCreateApplication (fun id phase same => ?_) fun _ _ _ => trivial
  rw [same]
  have under := underPrefix_buildObjectKey user documentId (mem_documentKinds_of_parse parsed)
  rw [← key] at under
  exact Protocol.wp_await.mpr
    ⟨fun written => ⟨_, if_pos ⟨rfl, under⟩, trivial⟩, fun _ => ⟨_, if_pos ⟨rfl, under⟩, trivial⟩⟩

theorem wp_findOwnDocument {userId : UserId} {id : String}
    : ownershipProtocol.wp (findOwnDocument userId id) { caller := some userId }
        (fun _ phase' => phase' = { caller := some userId, document := some id })
        (fun _ _ => True) := by
  unfold findOwnDocument
  simp only [Protocol.wp_bind]
  refine Protocol.wp_await.mpr ⟨fun found => ⟨_, rfl, ?_⟩, fun _ => ⟨_, rfl, trivial⟩⟩
  refine Protocol.wp_orThrow.mpr ⟨fun document known => ?_, fun _ => trivial⟩
  obtain rfl := known
  refine Protocol.wp_ensure.mpr ⟨fun own => ?_, fun _ => trivial⟩
  obtain rfl := of_decide_eq_true own
  simp [Except.toOption]

theorem wp_confirmUpload {userId : Option UserId} {id : String} {body : ConfirmBody}
    : ownershipProtocol.wp (confirmUpload userId id body) { caller := userId }
        (fun _ _ => True) (fun _ _ => True) := by
  unfold confirmUpload
  simp only [Protocol.wp_bind]
  refine Protocol.wp_orThrow.mpr ⟨fun user known => ?_, fun _ => trivial⟩
  obtain rfl := known
  refine Protocol.wp_fromExcept.mpr ⟨fun body parsed => ?_, fun _ _ => trivial⟩
  refine Protocol.wp_mono wp_findOwnDocument (fun doc phase same => ?_) fun _ _ _ => trivial
  rw [same]
  refine Protocol.wp_ensure.mpr ⟨fun _ => ?_, fun _ => trivial⟩
  exact Protocol.wp_await.mpr
    ⟨fun written => ⟨_, if_pos rfl, trivial⟩, fun _ => ⟨_, if_pos rfl, trivial⟩⟩

theorem wp_readScanTag {objectKey : String}
    : ownershipProtocol.wp (readScanTag config objectKey) phase (fun _ _ => True)
        (fun _ _ => True) := by
  unfold readScanTag
  split <;> simp [ownershipProtocol, issue]

theorem wp_getObjectScanStatus {objectKey : String}
    : ownershipProtocol.wp (getObjectScanStatus config objectKey) phase (fun _ _ => True)
        (fun _ _ => True) := by
  have settled : ∀ (error : KycError) (phase : Standing), ownershipProtocol.wp
      (if isNotFound error then .fail (errorOf "Document not found in storage") else
        return "pending") phase
      (fun _ _ => True) (fun _ _ => True) := by
    intro error phase
    split <;> trivial
  unfold getObjectScanStatus lookUpScanStatus
  rw [Protocol.wp_catchWith]
  simp only [Protocol.wp_bind]
  refine Protocol.wp_orThrow.mpr ⟨fun _ _ => ?_, fun _ => settled _ _⟩
  refine Protocol.wp_await.mpr ⟨fun _ => ⟨_, rfl, ?_⟩, fun error => ⟨_, rfl, settled error _⟩⟩
  exact Protocol.wp_mono wp_readScanTag (fun _ _ _ => trivial)
    fun error phase _ => settled error phase

theorem wp_generateDownloadUrl {userId : UserId} {objectKey : String}
    : ownershipProtocol.wp (generateDownloadUrl config userId objectKey) phase (fun _ _ => True)
        (fun _ _ => True) := by
  unfold generateDownloadUrl
  simp only [Protocol.wp_bind]
  refine Protocol.wp_ensure.mpr ⟨fun _ => ?_, fun _ => trivial⟩
  refine Protocol.wp_mono wp_getObjectScanStatus (fun status phase _ => ?_) fun _ _ _ => trivial
  simp [assertScanAllowsDownload, requireConfiguredS3Bucket, ownershipProtocol, issue]

theorem wp_requestDownloadUrl {userId : Option UserId} {id : String}
    : ownershipProtocol.wp (requestDownloadUrl config userId id) { caller := userId }
        (fun _ _ => True) (fun _ _ => True) := by
  unfold requestDownloadUrl
  rw [Protocol.wp_catchWith]
  simp only [Protocol.wp_bind]
  refine Protocol.wp_orThrow.mpr ⟨fun user known => ?_, fun _ => trivial⟩
  obtain rfl := known
  refine Protocol.wp_mono wp_findOwnDocument (fun doc phase same => ?_) fun _ _ _ => trivial
  exact Protocol.wp_mono wp_generateDownloadUrl (fun _ _ _ => trivial) fun _ _ _ => trivial

theorem wp_scanWebhook {request : ScanWebhookRequest}
    : ownershipProtocol.wp (scanWebhook config request) { caller := none }
        (fun _ _ => True) (fun _ _ => True) := by
  unfold scanWebhook
  simp only [Protocol.wp_bind]
  refine Protocol.wp_fromExcept.mpr ⟨fun _ _ => ?_, fun _ _ => trivial⟩
  refine Protocol.wp_fromExcept.mpr ⟨fun parsed _ => ?_, fun _ _ => trivial⟩
  obtain ⟨objectKey, result⟩ := parsed
  cases result <;>
    simp [markScanned, markObjectClean, markObjectInfected, markObject, requireConfiguredS3Bucket,
      ownershipProtocol, issue]

theorem wp_prog {call : KycCall}
    : ownershipProtocol.wp (call.prog config) { caller := call.userId } (fun _ _ => True)
        (fun _ _ => True) := by
  cases call with
  | requestUploadUrl userId body => exact wp_requestUploadUrl
  | confirmUpload userId id body => exact wp_confirmUpload
  | requestDownloadUrl userId id => exact wp_requestDownloadUrl
  | scanWebhook request => exact wp_scanWebhook
  | upload objectKey contentType content =>
      simp [KycCall.prog, Kyc.upload, ownershipProtocol, issue]
  | scan objectKey verdict => simp [KycCall.prog, Kyc.scan, ownershipProtocol, issue]

end

-- What a call changes

/-- Applications stay, and so do the applications that documents belong to. -/
structure World.Grows (w w' : World) : Prop where
  applications : ∀ id application, w.applications.lookup id = some application →
    w'.applications.lookup id = some application
  documents : ∀ id doc, w.documents.lookup id = some doc →
    ∃ doc', w'.documents.lookup id = some doc' ∧ doc'.applicationId = doc.applicationId

theorem World.Grows.refl (w : World) : w.Grows w :=
  ⟨fun _ _ found => found, fun _ doc found => ⟨doc, found, rfl⟩⟩

theorem World.Grows.owner {w w' : World} (grown : w.Grows w') {doc doc' : KycDocument}
    {owner : UserId}
    (same : doc'.applicationId = doc.applicationId) (h : w.owner? doc = some owner)
    : w'.owner? doc' = some owner := by
  obtain ⟨application, found, rfl⟩ := Option.map_eq_some_iff.mp h
  rw [World.owner?, same, grown.applications _ _ found]
  rfl

theorem World.Grows.of_insert {w : World} {id : String} {doc : KycDocument}
    (replaced : ∀ old, w.documents.lookup id = some old → doc.applicationId = old.applicationId)
    : w.Grows { w with documents := w.documents.insert id doc } := by
  refine ⟨fun _ _ found => found, fun key old found => ?_⟩
  by_cases same : key = id
  · subst same
    exact ⟨doc, AList.lookup_insert _, replaced old found⟩
  · exact ⟨old, (AList.lookup_insert_ne same).trans found, rfl⟩

section

variable {readUuid : String → Option String} {w : World} {x : Choice}

theorem grows_upsertDocument {id : String} {data : DocumentUpsert}
    : w.Grows (upsertDocument readUuid w id data).2 := by
  unfold upsertDocument
  split
  · exact .refl w
  · split
    · rename_i key _ doc found
      refine .of_insert fun old same => ?_
      rw [← Option.some.inj (found.symm.trans same)]
    · rename_i key _ absent
      split
      · exact .refl w
      · refine .of_insert fun old same => ?_
        rw [absent] at same
        cases same

theorem grows_updateDocument {id checksum : String} {size : Nat}
    : w.Grows (updateDocument readUuid w id checksum size).2 := by
  unfold updateDocument
  split
  · exact .refl w
  · split
    · exact .refl w
    · rename_i key _ doc found
      refine .of_insert fun old same => ?_
      rw [← Option.some.inj (found.symm.trans same)]

theorem grows_effect (op : KycOp) : w.Grows (effect readUuid x w op).2 := by
  cases op with
  | upsertDocument id data => exact grows_upsertDocument
  | updateDocument id checksum size => exact grows_updateDocument
  | createApplication application =>
      unfold effect
      split
      · exact .refl w
      · rename_i absent
        refine ⟨fun id old found => ?_, fun _ doc found => ⟨doc, found, rfl⟩⟩
        by_cases same : id = x.text
        · subst same
          rw [found] at absent
          exact absurd rfl absent
        · exact (AList.lookup_insert_ne same).trans found
  | updateScanStatus storageRef status =>
      refine ⟨fun _ _ found => found, fun id doc found => ?_⟩
      refine ⟨_, lookup_updateRows.trans (congrArg (Option.map _) found), ?_⟩
      dsimp only
      split <;> rfl
  | putObject objectKey contentType content =>
      unfold effect putObject
      dsimp only
      split <;> exact ⟨fun _ _ found => found, fun _ doc found => ⟨doc, found, rfl⟩⟩
  | putObjectTagging objectKey tags =>
      unfold effect putObjectTagging
      dsimp only
      split <;> exact ⟨fun _ _ found => found, fun _ doc found => ⟨doc, found, rfl⟩⟩
  | _ => exact ⟨fun _ _ found => found, fun _ doc found => ⟨doc, found, rfl⟩⟩

def writesDocuments : KycOp → Bool
  | .upsertDocument .. | .updateDocument .. | .updateScanStatus .. => true
  | _ => false

theorem documents_effect {op : KycOp} (other : writesDocuments op = false)
    : (effect readUuid x w op).2.documents = w.documents := by
  cases op with
  | upsertDocument id data => cases other
  | updateDocument id checksum size => cases other
  | updateScanStatus storageRef status => cases other
  | createApplication application =>
      unfold effect
      split <;> rfl
  | putObject objectKey contentType content =>
      unfold effect putObject
      dsimp only
      split <;> rfl
  | putObjectTagging objectKey tags =>
      unfold effect putObjectTagging
      dsimp only
      split <;> rfl
  | _ => rfl

variable {w' : World} {user : UserId}

theorem World.Owned.of_grows (h : w.Owned) (grown : w.Grows w') (same : w'.documents = w.documents)
    : w'.Owned := by
  intro id doc found
  rw [same] at found
  obtain ⟨owner, owned, under⟩ := h id doc found
  exact ⟨owner, grown.owner rfl owned, under⟩

theorem World.Owned.leaves (h : w.Owned) (grown : w.Grows w') (same : w'.documents = w.documents)
    : w.LeavesOthers w' user := by
  intro id doc found _
  obtain ⟨owner, owned, -⟩ := h id doc found
  exact ⟨by rw [same, found], by rw [grown.owner rfl owned, owned]⟩

theorem World.Owned.insert (h : w.Owned) {id : String} {doc : KycDocument}
    (owned : w.owner? doc = some user) (under : underPrefix user doc.kind doc.storageRef = true)
    (replaced : ∀ old, w.documents.lookup id = some old → w.owner? old = some user)
    : World.Owned { w with documents := w.documents.insert id doc }
      ∧ w.LeavesOthers { w with documents := w.documents.insert id doc } user := by
  constructor
  · intro key doc' found
    by_cases same : key = id
    · subst same
      obtain rfl := Option.some.inj ((AList.lookup_insert _).symm.trans found)
      exact ⟨user, owned, under⟩
    · exact h key doc' ((AList.lookup_insert_ne same).symm.trans found)
  · intro key old found other
    have same : key ≠ id := by
      rintro rfl
      exact other (replaced old found)
    exact ⟨(AList.lookup_insert_ne same).trans found, rfl⟩

theorem upsertDocument_owned (h : w.Owned) {id : String} {data : DocumentUpsert}
    (application : ∃ row, w.applications.lookup data.applicationId = some row ∧ row.userId = user)
    (under : underPrefix user data.kind data.storageRef = true)
    (named : ∀ doc ∈ (readUuid id).bind (w.documents.lookup ·),
      w.owner? doc = some user ∧ doc.kind = data.kind)
    : (upsertDocument readUuid w id data).2.Owned
      ∧ w.LeavesOthers (upsertDocument readUuid w id data).2 user := by
  have kept : w.Owned ∧ w.LeavesOthers w user := ⟨h, h.leaves (.refl w) rfl⟩
  unfold upsertDocument
  split
  · exact kept
  · rename_i key known
    split
    · rename_i doc found
      obtain ⟨owned, kind⟩ := named doc (by rw [known]; exact found)
      refine h.insert owned (by rw [← kind] at under; exact under) fun old same => ?_
      rw [← Option.some.inj (found.symm.trans same)]
      exact owned
    · rename_i absent
      split
      · exact kept
      · obtain ⟨row, known, rfl⟩ := application
        refine h.insert (congrArg (Option.map KycApplication.userId) known) under fun old same => ?_
        rw [absent] at same
        cases same

theorem updateDocument_owned (h : w.Owned) {id checksum : String} {size : Nat}
    (own : ∃ doc, (readUuid id).bind (w.documents.lookup ·) = some doc ∧ w.owner? doc = some user)
    : (updateDocument readUuid w id checksum size).2.Owned
      ∧ w.LeavesOthers (updateDocument readUuid w id checksum size).2 user := by
  obtain ⟨doc, found, owned⟩ := own
  obtain ⟨key, known, found⟩ := Option.bind_eq_some_iff.mp found
  obtain ⟨owner, known', under⟩ := h key doc found
  obtain rfl := Option.some.inj (known'.symm.trans owned)
  unfold updateDocument
  rw [known]
  dsimp only
  rw [found]
  refine h.insert owned under fun old same => ?_
  rw [← Option.some.inj (found.symm.trans same)]
  exact owned

theorem updateScanStatus_owned (h : w.Owned) {storageRef status : String}
    : (effect readUuid x w (.updateScanStatus storageRef status)).2.Owned := by
  intro id doc found
  obtain ⟨old, there, rfl⟩ := Option.map_eq_some_iff.mp (lookup_updateRows.symm.trans found)
  have kept := h id old there
  split <;> exact kept

end

-- Runs

/-- What a call has learned is so. -/
structure Standing.Sound (readUuid : String → Option String) (phase : Standing) (w : World)
    : Prop where
  application : ∀ id, phase.application = some id →
    ∃ row, w.applications.lookup id = some row ∧ phase.caller = some row.userId
  document : ∀ id, phase.document = some id →
    ∃ doc owner, (readUuid id).bind (w.documents.lookup ·) = some doc ∧ w.owner? doc = some owner
      ∧ phase.caller = some owner

theorem Standing.Sound.of_grows {readUuid : String → Option String} {phase : Standing}
    {w w' : World}
    (h : phase.Sound readUuid w) (grown : w.Grows w')
    : phase.Sound readUuid w' := by
  constructor
  · intro id known
    obtain ⟨row, found, mine⟩ := h.application id known
    exact ⟨row, grown.applications id row found, mine⟩
  · intro id known
    obtain ⟨doc, owner, found, owned, mine⟩ := h.document id known
    obtain ⟨key, known, found⟩ := Option.bind_eq_some_iff.mp found
    obtain ⟨doc', found', same⟩ := grown.documents key doc found
    exact ⟨doc', owner, by rw [known]; exact found', grown.owner same owned, mine⟩

/-- Where the call of a user starts. -/
def standings (calls : List KycCall) (i : Nat) : Standing :=
  { caller := callerOf calls i }

def standing (calls : List KycCall) (c : KycRun) (i : Nat) : Standing :=
  ownershipProtocol.phase (standings calls) c i

/-- The documents are owned, and what the calls have learned is so. -/
structure OwnedRun (readUuid : String → Option String) (calls : List KycCall) (c : KycRun)
    : Prop where
  owned : c.world.Owned
  caller : ∀ i, (standing calls c i).caller = callerOf calls i
  sound : ∀ i, (standing calls c i).Sound readUuid c.world

section

variable {readUuid : String → Option String} {config : KycConfig} {calls : List KycCall}
    {w w' : World}
  {c c' : KycRun} {i : Nat} {x : Choice}

theorem grows_of_answered {op : KycOp} {reply : kycInterface.Reply op}
    (answered : (kycSemantics readUuid).act i op x w = some (reply, w'))
    : w.Grows w' := by
  obtain ⟨-, ⟨rfl, -⟩ | ⟨rfl, -⟩⟩ := Environment.act_cases answered
  · exact .refl _
  · have grown : World.Grows (w.at x) (effect readUuid x (w.at x) op).2 := grows_effect op
    exact ⟨grown.applications, grown.documents⟩

theorem application_of_found {userId : UserId} {id : String}
    (answered : (kycSemantics readUuid).act i (.findApplication userId) x w
      = some ((.ok (some id) : kycInterface.Reply (.findApplication userId)), w'))
    : ∃ row, w'.applications.lookup id = some row ∧ row.userId = userId := by
  obtain ⟨told, rfl⟩ := Prod.mk.inj (effect_of_answered answered)
  obtain ⟨e, found, rfl⟩ := Option.map_eq_some_iff.mp (Except.ok.inj told)
  have mine : isOpen userId e.2 = true := by simpa using List.find?_some found
  exact ⟨e.2, AList.mem_lookup_iff.mpr (List.mem_of_find?_eq_some found),
    of_decide_eq_true ((Bool.and_eq_true _ _).mp mine).1⟩

theorem application_of_created {application : KycApplication} {id : String}
    (answered : (kycSemantics readUuid).act i (.createApplication application) x w
      = some ((.ok id : kycInterface.Reply (.createApplication application)), w'))
    : w'.applications.lookup id = some application := by
  have performed := effect_of_answered answered
  unfold effect at performed
  dsimp only at performed
  split at performed
  · cases performed
  · obtain ⟨drawn, rfl⟩ := Prod.mk.inj performed
    obtain rfl := Except.ok.inj drawn
    exact AList.lookup_insert _

theorem document_of_found {id : String} {doc : KycDocument} {owner : UserId}
    (answered : (kycSemantics readUuid).act i (.findDocument id) x w
      = some ((.ok (some (doc, owner)) : kycInterface.Reply (.findDocument id)), w'))
    : (readUuid id).bind (w'.documents.lookup ·) = some doc ∧ w'.owner? doc = some owner := by
  obtain ⟨told, rfl⟩ := Prod.mk.inj (effect_of_answered answered)
  have told : findDocument readUuid (w.at x) id = .ok (some (doc, owner)) := told
  unfold findDocument at told
  split at told
  · cases told
  · rename_i key known
    obtain ⟨doc', there, found⟩ := Option.bind_eq_some_iff.mp (Except.ok.inj told)
    obtain ⟨row, there', same⟩ := Option.map_eq_some_iff.mp found
    obtain ⟨rfl, rfl⟩ := Prod.mk.inj same
    refine ⟨by rw [known]; exact there, ?_⟩
    exact congrArg (Option.map KycApplication.userId) there'

theorem Standing.Sound.moved {phase phase' : Standing} (h : phase.Sound readUuid w) {op : KycOp}
    {reply : kycInterface.Reply op} (moved : ownershipProtocol.next phase op reply = some phase')
    (answered : (kycSemantics readUuid).act i op x w = some (reply, w'))
    : phase'.Sound readUuid w' ∧ phase'.caller = phase.caller := by
  have kept := h.of_grows (grows_of_answered answered)
  cases op with
  | findApplication userId =>
      obtain ⟨mine, same⟩ := Option.ite_none_right_eq_some.mp moved
      obtain rfl := Option.some.inj same
      refine ⟨⟨fun id known => ?_, kept.document⟩, rfl⟩
      rcases reply with error | _ | found
      · exact kept.application id known
      · exact kept.application id known
      · obtain rfl := Option.some.inj known
        obtain ⟨row, there, rfl⟩ := application_of_found answered
        exact ⟨row, there, mine⟩
  | createApplication application =>
      obtain ⟨mine, same⟩ := Option.ite_none_right_eq_some.mp moved
      obtain rfl := Option.some.inj same
      refine ⟨⟨fun id known => ?_, kept.document⟩, rfl⟩
      rcases reply with error | created
      · exact kept.application id known
      · obtain rfl := Option.some.inj known
        exact ⟨application, application_of_created answered, mine⟩
  | findDocument id =>
      obtain rfl := Option.some.inj moved
      refine ⟨⟨kept.application, fun id' known => ?_⟩, rfl⟩
      obtain ⟨⟨doc, owner⟩, found, rfl⟩ := Option.map_eq_some_iff.mp known
      obtain ⟨found, mine⟩ := Option.filter_eq_some_iff.mp found
      rcases reply with error | _ | pair
      · cases found
      · cases found
      · obtain rfl := Option.some.inj found
        obtain ⟨there, owned⟩ := document_of_found answered
        exact ⟨doc, owner, there, owned, of_decide_eq_true mine⟩
  | upsertDocument id data =>
      obtain ⟨-, same⟩ := Option.ite_none_right_eq_some.mp moved
      obtain rfl := Option.some.inj same
      exact ⟨kept, rfl⟩
  | updateDocument id checksum size =>
      obtain ⟨-, same⟩ := Option.ite_none_right_eq_some.mp moved
      obtain rfl := Option.some.inj same
      exact ⟨kept, rfl⟩
  | updateScanStatus storageRef status =>
      obtain ⟨-, same⟩ := Option.ite_none_right_eq_some.mp moved
      obtain rfl := Option.some.inj same
      exact ⟨kept, rfl⟩
  | _ =>
      obtain rfl := Option.some.inj moved
      exact ⟨kept, rfl⟩

abbrev KeepsOwnership (calls : List KycCall) (c : KycRun) : Prop :=
  ownershipProtocol.Governs (standings calls) (fun _ _ _ => True) (fun _ _ _ => True) c

theorem KeepsOwnership.initial : KeepsOwnership calls (kycCalls config calls w) := by
  refine Protocol.governs_initial fun i prog found => ?_
  rw [List.getElem?_map] at found
  obtain ⟨call, member, rfl⟩ := Option.map_eq_some_iff.mp found
  have caller : standings calls i = { caller := call.userId } := by
    rw [standings, callerOf, member]
    rfl
  rw [caller]
  exact wp_prog

theorem OwnedRun.world (h : OwnedRun readUuid calls c) (governed : KeepsOwnership calls c)
    (named : NamesOwn readUuid calls c i x) (stepped : c.step (kycSemantics readUuid) i x = some c')
    : c'.world.Owned ∧ ∀ user, callerOf calls i = some user
        → c.world.LeavesOthers c'.world user := by
  obtain ⟨op, reply, -, pending, answered, moved, -, -, -⟩ := governed.step_cases stepped
  have grown := grows_of_answered answered
  have left : c'.world.documents = c.world.documents →
      c'.world.Owned ∧ ∀ user, callerOf calls i = some user → c.world.LeavesOthers c'.world user :=
    fun same => ⟨h.owned.of_grows grown same, fun _ _ => h.owned.leaves grown same⟩
  have mine := h.caller i
  obtain ⟨-, ⟨same, -⟩ | ⟨same, -⟩⟩ := Environment.act_cases answered
  · exact left (congrArg World.documents same)
  have same : c'.world = (effect readUuid x (c.world.at x) op).2 := same
  cases writes : writesDocuments op with
  | false => exact left ((congrArg World.documents same).trans (documents_effect writes))
  | true =>
      cases op with
      | upsertDocument id data =>
          obtain ⟨⟨known, under⟩, -⟩ := Option.ite_none_right_eq_some.mp moved
          obtain ⟨user, caller, under⟩ := (Option.any_eq_true ..).mp under
          obtain ⟨row, there, owner⟩ := (h.sound i).application _ known
          have caller : (standing calls c i).caller = some user := caller
          obtain rfl := Option.some.inj (caller.symm.trans owner)
          rw [caller] at mine
          unfold NamesOwn at named
          rw [pending, ← mine] at named
          have kept := upsertDocument_owned (w := c.world.at x) h.owned
            ⟨row, there, rfl⟩ under named
          rw [same, ← mine]
          exact ⟨kept.1, fun user known => Option.some.inj known ▸ kept.2⟩
      | updateDocument id checksum size =>
          obtain ⟨known, -⟩ := Option.ite_none_right_eq_some.mp moved
          obtain ⟨doc, owner, there, owned, caller⟩ := (h.sound i).document _ known
          rw [caller] at mine
          rw [same, ← mine]
          have kept : (updateDocument readUuid (c.world.at x) id checksum size).2.Owned
              ∧ (c.world.at x).LeavesOthers (updateDocument readUuid
                (c.world.at x) id checksum size).2 owner :=
            updateDocument_owned (w := c.world.at x) h.owned ⟨doc, there, owned⟩
          exact ⟨kept.1, fun user known => Option.some.inj known ▸ kept.2⟩
      | updateScanStatus storageRef status =>
          obtain ⟨caller, -⟩ := Option.ite_none_right_eq_some.mp moved
          have caller : (standing calls c i).caller = none := caller
          rw [caller] at mine
          rw [same, ← mine]
          exact ⟨updateScanStatus_owned (w := c.world.at x) h.owned,
            fun user absurd => by cases absurd⟩
      | _ => cases writes

theorem OwnedRun.step (h : OwnedRun readUuid calls c) (governed : KeepsOwnership calls c)
    (named : NamesOwn readUuid calls c i x) (stepped : c.step (kycSemantics readUuid) i x = some c')
    : OwnedRun readUuid calls c' := by
  obtain ⟨op, reply, -, -, answered, moved, -, others, -⟩ := governed.step_cases stepped
  obtain ⟨sound, caller⟩ := (h.sound i).moved moved answered
  have grown := grows_of_answered answered
  refine ⟨(h.world governed named stepped).1, fun j => ?_, fun j => ?_⟩
  · by_cases same : j = i
    · subst same
      exact caller.trans (h.caller j)
    · rw [standing, (others j same).1]
      exact h.caller j
  · by_cases same : j = i
    · subst same
      exact sound
    · rw [standing, (others j same).1]
      exact (h.sound j).of_grows grown

theorem OwnedRun.initial (owned : w.Owned) : OwnedRun readUuid calls (kycCalls config calls w) := by
  have start : ∀ i, standing calls (kycCalls config calls w) i = standings calls i :=
    fun i => Protocol.phase_initial _
  refine ⟨owned, fun i => by rw [start]; rfl, fun i => ?_⟩
  rw [start]
  constructor <;> exact fun _ absurd => by cases absurd

end

/-- In every run of calls of any users in which an upload that names a document which is there names
an own one, of the same kind: every document stays under the prefix of its owner and its kind, and
no call of one user changes a document of another.
-/
theorem documents_owned (readUuid : String → Option String) (config : KycConfig)
    (calls : List KycCall)
    (w : World) (owned : w.Owned) (c : KycRun)
    (reached : Config.Reaches (kycSemantics readUuid) (NamesOwn readUuid calls)
      (kycCalls config calls w) c)
    : c.world.Owned
      ∧ ∀ i x c', NamesOwn readUuid calls c i x → c.step (kycSemantics readUuid) i x = some c' →
        ∀ user, callerOf calls i = some user → c.world.LeavesOthers c'.world user := by
  obtain ⟨governed, run⟩ := Protocol.Governs.invariant
    (J := OwnedRun readUuid calls) KeepsOwnership.initial
    (.initial owned) (fun c c' i x governed h named stepped => h.step governed named stepped)
      reached
  exact ⟨run.owned, fun i x c' named stepped => (run.world governed named stepped).2⟩

-- Two uploads of one document

def firstUser : UserId where
  text := "00000000-0000-4000-8000-00000000000a"
  uuid := by decide +kernel

def secondUser : UserId where
  text := "00000000-0000-4000-8000-00000000000b"
  uuid := by decide +kernel

def productionConfig : KycConfig where
  nodeEnv := "production"
  bucket := some "kyc-documents"
  uploadUrlTtlSeconds := 900
  downloadUrlTtlSeconds := 300
  scanWebhookSecret := some "secret"
  licensedJurisdictions := []
  enforce := false
  kycOperatingModel := "direct"
  sha256Hex := id
  hmacSha256 := fun _ _ => [1]

def emptyStorage : World where
  clock := 0
  countryCodes := fun _ => some "KEN"
  applications := ∅
  documents := ∅
  objects := ∅
  uploadUrls := []
  reports := []

def selfieId : String :=
  "00000000-0000-4000-8000-0000000000d1"

def firstApplication : String :=
  "00000000-0000-4000-8000-0000000000a1"

def secondApplication : String :=
  "00000000-0000-4000-8000-0000000000a2"

def selfieUpload (userId : UserId) : KycCall :=
  .requestUploadUrl (some userId)
    { document_kind := .text "selfie", mime_type := .text "image/png"
      document_id := .text selfieId }

def uploadSteps (i calls : Nat) (text : String) : List (Nat × Choice) :=
  List.replicate calls (i, { time := 0, text })

theorem emptyStorage_owned : emptyStorage.Owned :=
  fun id doc found => by
    rw [emptyStorage, AList.lookup_empty] at found
    cases found

/-- A user may upload a document again. -/
theorem documents_owned_again
    : ∃ c, Config.Reaches (kycSemantics some)
        (NamesOwn some [selfieUpload firstUser, selfieUpload firstUser])
        (kycCalls productionConfig [selfieUpload firstUser, selfieUpload firstUser] emptyStorage) c
      ∧ [0, 1].all (fun i => (c.value? i).isSome) = true
      ∧ c.world.Owned := by
  have executed : ((kycCalls productionConfig [selfieUpload firstUser, selfieUpload firstUser]
      emptyStorage).run (kycSemantics some) (NamesOwn some
        [selfieUpload firstUser, selfieUpload firstUser])
      (uploadSteps 0 7 firstApplication ++ uploadSteps 1 5 secondApplication)).map
        (fun c => [0, 1].all (fun i => (c.value? i).isSome)) = some true := by
    decide +kernel
  obtain ⟨c, reached, answered⟩ := Config.reaches_of_run executed
  exact ⟨c, reached, answered, (documents_owned some productionConfig _ emptyStorage
    emptyStorage_owned c reached).1⟩

/-- The owner of the selfie, its kind and its key. -/
def selfieOf (c : KycRun) : Option (Option UserId × String × String) :=
  (c.world.documents.lookup selfieId).map (fun doc =>
    (c.world.owner? doc, doc.kind, doc.storageRef))

/-- A second user names the document of the first: its key becomes one of the second user. -/
theorem document_taken
    : ∃ c c' : KycRun, Config.Reaches (kycSemantics some) Config.anyStep
        (kycCalls productionConfig [selfieUpload firstUser, selfieUpload secondUser] emptyStorage) c
      ∧ c.step (kycSemantics some) 1 { time := 0 } = some c'
      ∧ selfieOf c = some (some firstUser, "selfie",
        buildObjectKey firstUser.text "selfie" selfieId)
      ∧ selfieOf c' = some (some firstUser, "selfie",
        buildObjectKey secondUser.text "selfie" selfieId)
      ∧ ¬ c.world.LeavesOthers c'.world secondUser
      ∧ ¬ c'.world.Owned := by
  have executed : ((kycCalls productionConfig [selfieUpload firstUser, selfieUpload secondUser]
      emptyStorage).run (kycSemantics some) Config.anyStep
        (uploadSteps 0 7 firstApplication ++ uploadSteps 1 6 secondApplication)).map
        (fun c => (selfieOf c, (c.step (kycSemantics some) 1 { time := 0 }).map selfieOf))
      = some (some (some firstUser, "selfie", buildObjectKey firstUser.text "selfie" selfieId),
          some (some (some firstUser, "selfie", buildObjectKey secondUser.text "selfie"
            selfieId))) := by
    decide +kernel
  obtain ⟨c, reached, observed⟩ := Config.reaches_of_run executed
  obtain ⟨before, after⟩ := Prod.mk.inj observed
  obtain ⟨c', stepped, after⟩ := Option.map_eq_some_iff.mp after
  refine ⟨c, c', reached, stepped, before, after, fun left => ?_, fun owned => ?_⟩
  · obtain ⟨doc, found, same⟩ := Option.map_eq_some_iff.mp before
    obtain ⟨owner, rest⟩ := Prod.mk.inj same
    obtain ⟨-, key⟩ := Prod.mk.inj rest
    obtain ⟨found', -⟩ := left selfieId doc found (by rw [owner]; decide)
    rw [selfieOf, found'] at after
    have key' := congrArg (fun selfie => selfie.2.2) (Option.some.inj after)
    exact absurd (key.symm.trans key') (by decide +kernel)
  · obtain ⟨doc, found, same⟩ := Option.map_eq_some_iff.mp after
    obtain ⟨owner, rest⟩ := Prod.mk.inj same
    obtain ⟨kind, key⟩ := Prod.mk.inj rest
    obtain ⟨user, known, under⟩ := owned selfieId doc found
    obtain rfl := Option.some.inj (owner.symm.trans known)
    rw [kind, key] at under
    exact absurd under (by decide +kernel)

end AcbuBackend.Kyc

import AcbuBackend.Kyc.DocumentOwnership

/-! The scan gate of downloads in production.
A verdict is about a content, its tag is about a key. So the gate holds as long as a verdict is
applied to the content it is about, and no upload replaces a content between the reading of its tag
and the signing of its URL.
-/

namespace AcbuBackend.Kyc

open Effects AcbuBackend.Runtime

-- Clean contents

def World.reportedClean (w : World) (objectKey content : String) : Bool :=
  w.reports.any (fun report =>
    report.objectKey = objectKey && report.content = content && report.result = .clean)

/-- The content at a key is one that the scanner has reported clean. -/
def World.cleanAt (w : World) (objectKey : String) : Bool :=
  (w.objects.lookup objectKey).any (fun object => w.reportedClean objectKey object.content)

/-- An object that is tagged clean has a content that is reported clean, and uploads are tagged
pending.
-/
structure World.Scanned (w : World) : Prop where
  tags : ∀ objectKey object, w.objects.lookup objectKey = some object →
    taggedStatus object.tags = "clean" → w.reportedClean objectKey object.content = true
  urls : ∀ url ∈ w.uploadUrls, taggedStatus url.1.Tagging = "pending"

def readsTag (objectKey : String) (event : Event kycInterface) : Bool :=
  match event.op with
  | .getObjectTagging key => key = objectKey
  | _ => false

/-- An object is tagged clean while its content is reported clean; it is replaced while no call that
has asked for its tags is under way.
-/
def Timely (c : KycRun) (i : Nat) (_ : Choice) : Prop :=
  match c.pending? i with
  | some (.putObjectTagging objectKey tags) =>
      taggedStatus tags = "clean" → c.world.cleanAt objectKey = true
  | some (.putObject objectKey _ _) =>
      ∀ j < c.threads.length, c.live j = true → (c.past j).any (readsTag objectKey) = false
  | _ => True

instance (c : KycRun) (i : Nat) (x : Choice) : Decidable (Timely c i x) :=
  decidable_of_iff
    ((match c.pending? i with
      | some (.putObjectTagging objectKey tags) =>
          !(taggedStatus tags == "clean") || c.world.cleanAt objectKey
      | some (.putObject objectKey _ _) =>
          (List.range c.threads.length).all (fun j => !c.live j || !(c.past j).any
            (readsTag objectKey))
      | _ => true) = true)
    (by
      unfold Timely
      split
      · simp [imp_iff_not_or]
      · simp [imp_iff_not_or]
      · simp)

-- The calls of a download

/-- A call signs a download URL of the key whose tags it has read as clean last, and upload URLs
whose tag is pending.
-/
def gateProtocol : Protocol kycInterface (Option String) where
  next
    | _, .getObjectTagging objectKey, reply =>
        some (if reply.toOption.map taggedStatus = some "clean" then some objectKey else none)
    | cleared, .signGetObject objectKey _, _ =>
        if cleared = some objectKey then some cleared else none
    | cleared, .signPutObject command _, _ =>
        if taggedStatus command.Tagging = "pending" then some cleared else none
    | cleared, _, _ => some cleared

section

variable {config : KycConfig} {cleared : Option String}

theorem gate_generateUploadUrl {userId : UserId} {kind documentId mimeType : String}
    : gateProtocol.wp (generateUploadUrl config userId kind documentId mimeType) cleared
        (fun _ _ => True)
        (fun _ _ => True) := by
  have pending : ∀ initiatedAt,
      taggedStatus (uploadCommand userId kind documentId mimeType initiatedAt).Tagging
        = "pending" :=
    fun _ => rfl
  simp [generateUploadUrl, requireConfiguredS3Bucket, gateProtocol, issue, pending]

theorem gate_getOrCreateApplication {userId : UserId}
    : gateProtocol.wp (getOrCreateApplication config userId) cleared (fun _ _ => True)
        (fun _ _ => True) := by
  unfold getOrCreateApplication
  rw [Protocol.wp_bind]
  refine Protocol.wp_await.mpr ⟨fun existing => ⟨_, rfl, ?_⟩, fun _ => ⟨_, rfl, trivial⟩⟩
  cases existing <;> simp [createApplication, gateProtocol, issue]

theorem gate_documentIdOf {given : Option String}
    : gateProtocol.wp (documentIdOf given) cleared (fun _ _ => True) (fun _ _ => True) := by
  cases given <;> simp [documentIdOf, gateProtocol, issue]

theorem gate_requestUploadUrl {userId : Option UserId} {body : UploadUrlBody}
    : gateProtocol.wp (requestUploadUrl config userId body) cleared (fun _ _ => True)
        (fun _ _ => True) := by
  unfold requestUploadUrl
  simp only [Protocol.wp_bind]
  refine Protocol.wp_orThrow.mpr ⟨fun user _ => ?_, fun _ => trivial⟩
  refine Protocol.wp_fromExcept.mpr ⟨fun body _ => ?_, fun _ _ => trivial⟩
  refine Protocol.wp_mono gate_documentIdOf (fun documentId _ _ => ?_) fun _ _ _ => trivial
  refine Protocol.wp_mono gate_generateUploadUrl (fun result _ _ => ?_) fun _ _ _ => trivial
  refine Protocol.wp_mono gate_getOrCreateApplication (fun id _ _ => ?_) fun _ _ _ => trivial
  exact Protocol.wp_await.mpr ⟨fun _ => ⟨_, rfl, trivial⟩, fun _ => ⟨_, rfl, trivial⟩⟩

theorem gate_findOwnDocument {userId : UserId} {id : String}
    : gateProtocol.wp (findOwnDocument userId id) cleared (fun _ _ => True) (fun _ _ => True) := by
  simp [findOwnDocument, gateProtocol, issue]

theorem gate_confirmUpload {userId : Option UserId} {id : String} {body : ConfirmBody}
    : gateProtocol.wp (confirmUpload userId id body) cleared (fun _ _ => True)
        (fun _ _ => True) := by
  unfold confirmUpload
  simp only [Protocol.wp_bind]
  refine Protocol.wp_orThrow.mpr ⟨fun user _ => ?_, fun _ => trivial⟩
  refine Protocol.wp_fromExcept.mpr ⟨fun body _ => ?_, fun _ _ => trivial⟩
  refine Protocol.wp_mono gate_findOwnDocument (fun doc _ _ => ?_) fun _ _ _ => trivial
  refine Protocol.wp_ensure.mpr ⟨fun _ => ?_, fun _ => trivial⟩
  exact Protocol.wp_await.mpr ⟨fun _ => ⟨_, rfl, trivial⟩, fun _ => ⟨_, rfl, trivial⟩⟩

theorem gate_getObjectScanStatus (production : config.nodeEnv = "production") {objectKey : String}
    : gateProtocol.wp (getObjectScanStatus config objectKey) cleared
        (fun status cleared => status = "clean" → cleared = some objectKey) (fun _ _ => True) := by
  have failed : ∀ (error : KycError) (cleared : Option String), gateProtocol.wp
      (if isNotFound error then .fail (errorOf "Document not found in storage") else
        return "pending") cleared
      (fun status cleared => status = "clean" → cleared = some objectKey) (fun _ _ => True) := by
    intro error cleared
    split
    · trivial
    · exact fun clean => absurd clean (by decide)
  unfold getObjectScanStatus lookUpScanStatus
  rw [Protocol.wp_catchWith]
  simp only [Protocol.wp_bind]
  refine Protocol.wp_orThrow.mpr ⟨fun _ _ => ?_, fun _ => failed _ _⟩
  refine Protocol.wp_await.mpr ⟨fun _ => ⟨_, rfl, ?_⟩, fun error => ⟨_, rfl, failed error _⟩⟩
  unfold readScanTag
  rw [if_neg (by rw [production]; decide), Protocol.wp_bind]
  refine Protocol.wp_await.mpr ⟨fun tags => ⟨_, rfl, fun clean => ?_⟩,
    fun error => ⟨_, rfl, failed error _⟩⟩
  exact if_pos (congrArg some clean)

theorem gate_assertScanAllowsDownload {status : String}
    : gateProtocol.wp (assertScanAllowsDownload status) cleared
        (fun _ cleared' => cleared' = cleared ∧ status = "clean") (fun _ _ => True) := by
  unfold assertScanAllowsDownload
  split
  · rename_i clean
    exact ⟨rfl, clean⟩
  · split
    · trivial
    · split <;> trivial

theorem gate_generateDownloadUrl (production : config.nodeEnv = "production") {userId : UserId}
    {objectKey : String}
    : gateProtocol.wp (generateDownloadUrl config userId objectKey) cleared (fun _ _ => True)
        (fun _ _ => True) := by
  unfold generateDownloadUrl
  simp only [Protocol.wp_bind]
  refine Protocol.wp_ensure.mpr ⟨fun _ => ?_, fun _ => trivial⟩
  refine Protocol.wp_mono (gate_getObjectScanStatus production) (fun status cleared known => ?_)
    fun _ _ _ => trivial
  refine Protocol.wp_mono gate_assertScanAllowsDownload (fun _ cleared passed => ?_)
    fun _ _ _ => trivial
  obtain ⟨rfl, clean⟩ := passed
  obtain rfl := known clean
  simp [requireConfiguredS3Bucket, gateProtocol, issue]

theorem gate_requestDownloadUrl (production : config.nodeEnv = "production")
    {userId : Option UserId}
    {id : String}
    : gateProtocol.wp (requestDownloadUrl config userId id) cleared (fun _ _ => True)
        (fun _ _ => True) := by
  unfold requestDownloadUrl
  rw [Protocol.wp_catchWith]
  simp only [Protocol.wp_bind]
  refine Protocol.wp_orThrow.mpr ⟨fun user _ => ?_, fun _ => trivial⟩
  refine Protocol.wp_mono gate_findOwnDocument (fun doc _ _ => ?_) fun _ _ _ => trivial
  exact Protocol.wp_mono (gate_generateDownloadUrl production) (fun _ _ _ => trivial)
    fun _ _ _ => trivial

theorem gate_scanWebhook {request : ScanWebhookRequest}
    : gateProtocol.wp (scanWebhook config request) cleared (fun _ _ => True) (fun _ _ => True) := by
  unfold scanWebhook
  simp only [Protocol.wp_bind]
  refine Protocol.wp_fromExcept.mpr ⟨fun _ _ => ?_, fun _ _ => trivial⟩
  refine Protocol.wp_fromExcept.mpr ⟨fun parsed _ => ?_, fun _ _ => trivial⟩
  obtain ⟨objectKey, result⟩ := parsed
  cases result <;>
    simp [markScanned, markObjectClean, markObjectInfected, markObject, requireConfiguredS3Bucket,
      gateProtocol, issue]

theorem gate_prog (production : config.nodeEnv = "production") {call : KycCall}
    : gateProtocol.wp (call.prog config) none (fun _ _ => True) (fun _ _ => True) := by
  cases call with
  | requestUploadUrl userId body => exact gate_requestUploadUrl
  | confirmUpload userId id body => exact gate_confirmUpload
  | requestDownloadUrl userId id => exact gate_requestDownloadUrl production
  | scanWebhook request => exact gate_scanWebhook
  | upload objectKey contentType content => simp [KycCall.prog, Kyc.upload, gateProtocol, issue]
  | scan objectKey verdict => simp [KycCall.prog, Kyc.scan, gateProtocol, issue]

end

-- What a call changes

section

variable {readUuid : String → Option String} {w w' : World} {x : Choice} {objectKey : String}

/-- The calls that change objects, upload URLs or reports. -/
def writesStorage : KycOp → Bool
  | .putObject .. | .putObjectTagging .. | .signPutObject .. | .report _ => true
  | _ => false

theorem storage_effect (readUuid : String → Option String) (x : Choice) (w : World) {op : KycOp}
    (other : writesStorage op = false)
    : (effect readUuid x w op).2.objects = w.objects
      ∧ (effect readUuid x w op).2.reports = w.reports
      ∧ (effect readUuid x w op).2.uploadUrls = w.uploadUrls := by
  cases op with
  | putObject objectKey contentType content => cases other
  | putObjectTagging objectKey tags => cases other
  | signPutObject command expiresIn => cases other
  | report report => cases other
  | createApplication application =>
      unfold effect
      dsimp only
      split <;> exact ⟨rfl, rfl, rfl⟩
  | upsertDocument id data =>
      unfold effect upsertDocument
      dsimp only
      split
      · exact ⟨rfl, rfl, rfl⟩
      · split
        · exact ⟨rfl, rfl, rfl⟩
        · split <;> exact ⟨rfl, rfl, rfl⟩
  | updateDocument id checksum size =>
      unfold effect updateDocument
      dsimp only
      split
      · exact ⟨rfl, rfl, rfl⟩
      · split <;> exact ⟨rfl, rfl, rfl⟩
  | _ => exact ⟨rfl, rfl, rfl⟩

theorem reportedClean_mono {content : String} (h : w.reportedClean objectKey content = true)
    (grown : ∀ report ∈ w.reports, report ∈ w'.reports)
    : w'.reportedClean objectKey content = true := by
  obtain ⟨report, member, clean⟩ := List.any_eq_true.mp h
  exact List.any_eq_true.mpr ⟨report, grown report member, clean⟩

theorem World.Scanned.of_objects (h : w.Scanned) (w' : World) (objects : w'.objects = w.objects)
    (grown : ∀ report ∈ w.reports, report ∈ w'.reports)
    (urls : ∀ url ∈ w'.uploadUrls, taggedStatus url.1.Tagging = "pending")
    : w'.Scanned ∧ ∀ objectKey, w.cleanAt objectKey = true → w'.cleanAt objectKey = true := by
  refine ⟨⟨fun objectKey object found clean => ?_, urls⟩, fun objectKey clean => ?_⟩
  · rw [objects] at found
    exact reportedClean_mono (h.tags objectKey object found clean) grown
  · obtain ⟨object, found, clean⟩ := (Option.any_eq_true ..).mp clean
    refine (Option.any_eq_true ..).mpr ⟨object, ?_, reportedClean_mono clean grown⟩
    rw [objects, found]

theorem World.Scanned.putObject (h : w.Scanned) (objectKey contentType content : String)
    : (putObject w objectKey contentType content).2.Scanned
      ∧ ∀ other, other ≠ objectKey → w.cleanAt other = true →
        (putObject w objectKey contentType content).2.cleanAt other = true := by
  unfold Kyc.putObject
  split
  · exact ⟨h, fun _ _ clean => clean⟩
  · rename_i command expiresAt usable
    have pending := h.urls _ (List.mem_of_find?_eq_some usable)
    refine ⟨⟨fun key object found clean => ?_, h.urls⟩, fun other different clean => ?_⟩
    · by_cases same : key = objectKey
      · subst same
        obtain rfl := Option.some.inj ((AList.lookup_insert _).symm.trans found)
        exact absurd (pending.symm.trans clean) (by decide)
      · exact h.tags key object ((AList.lookup_insert_ne same).symm.trans found) clean
    · rw [World.cleanAt, AList.lookup_insert_ne different]
      exact clean

theorem World.Scanned.putObjectTagging (h : w.Scanned) {tags : TagSet}
    (tagged : taggedStatus tags = "clean" → w.cleanAt objectKey = true)
    : (putObjectTagging w objectKey tags).2.Scanned
      ∧ ∀ other, w.cleanAt other = true →
        (putObjectTagging w objectKey tags).2.cleanAt other = true := by
  unfold Kyc.putObjectTagging
  split
  · exact ⟨h, fun _ clean => clean⟩
  · rename_i object there
    refine ⟨⟨fun key object' found clean => ?_, h.urls⟩, fun other clean => ?_⟩
    · by_cases same : key = objectKey
      · subst same
        obtain rfl := Option.some.inj ((AList.lookup_insert _).symm.trans found)
        have judged := tagged clean
        rw [World.cleanAt, there] at judged
        exact judged
      · exact h.tags key object' ((AList.lookup_insert_ne same).symm.trans found) clean
    · by_cases same : other = objectKey
      · subst same
        rw [World.cleanAt, there] at clean
        rw [World.cleanAt, AList.lookup_insert]
        exact clean
      · rw [World.cleanAt, AList.lookup_insert_ne same]
        exact clean

theorem World.Scanned.effect (h : w.Scanned) (readUuid : String → Option String) (x : Choice)
    (op : KycOp)
    (signs : ∀ command expiresIn, op = .signPutObject command expiresIn →
      taggedStatus command.Tagging = "pending")
    (tagged : ∀ objectKey tags, op = .putObjectTagging objectKey tags
      → taggedStatus tags = "clean" →
      w.cleanAt objectKey = true)
    : (effect readUuid x w op).2.Scanned
      ∧ ∀ objectKey, (∀ contentType content, op ≠ .putObject objectKey contentType content) →
        w.cleanAt objectKey = true → (Kyc.effect readUuid x w op).2.cleanAt objectKey = true := by
  cases writes : writesStorage op with
  | false =>
      obtain ⟨objects, reports, urls⟩ := storage_effect readUuid x w writes
      obtain ⟨kept, clean⟩ := h.of_objects _ objects (fun _ member => reports ▸ member)
        fun url member => h.urls url (urls ▸ member)
      exact ⟨kept, fun objectKey _ => clean objectKey⟩
  | true =>
      cases op with
      | putObject objectKey contentType content =>
          obtain ⟨kept, clean⟩ := h.putObject objectKey contentType content
          refine ⟨kept, fun other different => clean other ?_⟩
          rintro rfl
          exact different contentType content rfl
      | putObjectTagging objectKey tags =>
          obtain ⟨kept, clean⟩ := h.putObjectTagging (tagged objectKey tags rfl)
          exact ⟨kept, fun other _ => clean other⟩
      | signPutObject command expiresIn =>
          have urls
            : ∀ url ∈ (Kyc.effect readUuid x w (.signPutObject command expiresIn)).2.uploadUrls,
              taggedStatus url.1.Tagging = "pending" := by
            intro url member
            rcases List.mem_cons.mp member with rfl | member
            · exact signs command expiresIn rfl
            · exact h.urls url member
          obtain ⟨kept, clean⟩ := h.of_objects (Kyc.effect readUuid x w
            (.signPutObject command expiresIn)).2
            rfl (fun _ member => member) urls
          exact ⟨kept, fun other _ => clean other⟩
      | report report =>
          obtain ⟨kept, clean⟩ := h.of_objects (Kyc.effect readUuid x w (.report report)).2 rfl
            (fun _ => List.mem_cons_of_mem report) h.urls
          exact ⟨kept, fun other _ => clean other⟩
      | _ => cases writes

end

-- Runs

/-- The key whose tags a call has read as clean. -/
def clearedKey (c : KycRun) (i : Nat) : Option String :=
  gateProtocol.phase (fun _ => none) c i

/-- Tags are judged, and what a call under way has read as clean is reported clean. -/
structure GatedRun (c : KycRun) : Prop where
  scanned : c.world.Scanned
  clean : ∀ i objectKey, c.live i = true → clearedKey c i = some objectKey →
    c.world.cleanAt objectKey = true
  asked : ∀ i objectKey, clearedKey c i = some objectKey
    → (c.past i).any (readsTag objectKey) = true

abbrev KeepsGate (c : KycRun) : Prop :=
  gateProtocol.Governs (fun _ => none) (fun _ _ _ => True) (fun _ _ _ => True) c

section

variable {readUuid : String → Option String} {config : KycConfig} {calls : List KycCall} {w : World}
  {c c' : KycRun} {i : Nat} {x : Choice}

theorem KeepsGate.initial (production : config.nodeEnv = "production")
    : KeepsGate (kycCalls config calls w) := by
  refine Protocol.governs_initial fun i prog found => ?_
  rw [List.getElem?_map] at found
  obtain ⟨call, -, rfl⟩ := Option.map_eq_some_iff.mp found
  exact gate_prog production

theorem GatedRun.world (h : GatedRun c) (governed : KeepsGate c) (timely : Timely c i x)
    (stepped : c.step (kycSemantics readUuid) i x = some c')
    : c'.world.Scanned
      ∧ ∀ j objectKey, c.live j = true → clearedKey c j = some objectKey →
        c'.world.cleanAt objectKey = true := by
  obtain ⟨op, reply, -, pending, answered, moved, -, -, -⟩ := governed.step_cases stepped
  unfold Timely at timely
  rw [pending] at timely
  have clean := fun j objectKey live cleared => h.clean j objectKey live cleared
  obtain ⟨-, ⟨same, -⟩ | ⟨same, -⟩⟩ := Environment.act_cases answered
  · rw [same]
    exact ⟨h.scanned, clean⟩
  have same : c'.world = (effect readUuid x (c.world.at x) op).2 := same
  have scanned : (c.world.at x).Scanned := ⟨h.scanned.tags, h.scanned.urls⟩
  obtain ⟨kept, left⟩ := scanned.effect readUuid x op
    (by rintro command expiresIn rfl; exact (Option.ite_none_right_eq_some.mp moved).1)
    (by rintro objectKey tags rfl clean; exact timely clean)
  rw [same]
  refine ⟨kept, fun j objectKey live cleared => left objectKey ?_ (clean j objectKey live cleared)⟩
  rintro contentType content rfl
  have found : j < c.threads.length := Config.lt_of_live live
  exact absurd (h.asked j objectKey cleared) (by rw [timely j found live]; exact Bool.false_ne_true)

/-- Only the answer to a call for tags changes what is read as clean. -/
theorem cleared_of_other {cleared cleared' : Option String} {op : KycOp}
    {reply : kycInterface.Reply op}
    (moved : gateProtocol.next cleared op reply = some cleared')
    (other : ∀ objectKey, op ≠ .getObjectTagging objectKey)
    : cleared' = cleared := by
  cases op with
  | getObjectTagging objectKey => exact absurd rfl (other objectKey)
  | signGetObject objectKey expiresIn =>
      exact (Option.some.inj (Option.ite_none_right_eq_some.mp moved).2).symm
  | signPutObject command expiresIn =>
      exact (Option.some.inj (Option.ite_none_right_eq_some.mp moved).2).symm
  | _ => exact (Option.some.inj moved).symm

theorem clean_of_read (h : w.Scanned) {w' : World} {cleared : Option String}
    {asked objectKey : String}
    {reply : kycInterface.Reply (.getObjectTagging asked)}
    (moved : gateProtocol.next cleared (.getObjectTagging asked) reply = some (some objectKey))
    (answered : (kycSemantics readUuid).act i (.getObjectTagging asked) x w = some (reply, w'))
    : asked = objectKey ∧ w'.cleanAt objectKey = true := by
  have read := Option.some.inj moved
  split at read
  · rename_i clean
    obtain rfl := Option.some.inj read
    refine ⟨rfl, ?_⟩
    cases reply with
    | error error => cases clean
    | ok tags =>
        obtain ⟨told, rfl⟩ := Prod.mk.inj (effect_of_answered answered)
        have clean : taggedStatus tags = "clean" := Option.some.inj clean
        have told : ((w.objects.lookup asked).map StoredObject.tags).elim (.error noSuchKey) .ok
            = (.ok tags : Except KycError TagSet) := told
        rcases there : w.objects.lookup asked with _ | object
        · rw [there] at told
          cases told
        · rw [there] at told
          obtain rfl := Except.ok.inj told
          exact (Option.any_eq_true ..).mpr ⟨object, there, h.tags asked object there clean⟩
  · cases read

theorem GatedRun.cleared (h : GatedRun c) (governed : KeepsGate c)
    (stepped : c.step (kycSemantics readUuid) i x = some c') {j : Nat} {objectKey : String}
    (cleared : clearedKey c' j = some objectKey)
    : clearedKey c j = some objectKey
      ∨ c'.world.cleanAt objectKey = true ∧ (c'.past j).any (readsTag objectKey) = true := by
  obtain ⟨op, reply, -, -, answered, moved, past, others, -⟩ := governed.step_cases stepped
  by_cases mine : j = i
  · subst mine
    by_cases reads : ∃ asked, op = .getObjectTagging asked
    · obtain ⟨asked, rfl⟩ := reads
      have cleared : gateProtocol.phase (fun _ => none) c' j = some objectKey := cleared
      rw [cleared] at moved
      obtain ⟨rfl, clean⟩ := clean_of_read h.scanned moved answered
      refine .inr ⟨clean, ?_⟩
      rw [past]
      simp [readsTag]
    · have same := cleared_of_other moved fun asked read => reads ⟨asked, read⟩
      exact .inl (same.symm.trans cleared)
  · exact .inl ((others j mine).1.symm.trans cleared)

theorem GatedRun.step (h : GatedRun c) (governed : KeepsGate c) (timely : Timely c i x)
    (stepped : c.step (kycSemantics readUuid) i x = some c')
    : GatedRun c' := by
  obtain ⟨op, reply, live, -, -, -, past, others, -⟩ := governed.step_cases stepped
  obtain ⟨scanned, clean⟩ := h.world governed timely stepped
  refine ⟨scanned, fun j objectKey under cleared => ?_, fun j objectKey cleared => ?_⟩
  · rcases h.cleared governed stepped cleared with old | ⟨fresh, -⟩
    · refine clean j objectKey ?_ old
      by_cases mine : j = i
      · rw [mine]
        exact live
      · rw [← (others j mine).2.1]
        exact under
    · exact fresh
  · rcases h.cleared governed stepped cleared with old | ⟨-, fresh⟩
    · have asked := h.asked j objectKey old
      by_cases mine : j = i
      · subst mine
        rw [past, List.any_cons, asked, Bool.or_true]
      · rw [(others j mine).2.2]
        exact asked
    · exact fresh

theorem GatedRun.initial (scanned : w.Scanned) : GatedRun (kycCalls config calls w) := by
  have start : ∀ i, clearedKey (kycCalls config calls w) i = none :=
    fun i => Protocol.phase_initial _
  refine ⟨scanned, fun i objectKey _ cleared => ?_, fun i objectKey cleared => ?_⟩ <;>
    rw [start] at cleared <;>
    cases cleared

end

/-- In every run in production whose verdicts are applied to contents that are reported clean and
whose uploads do not replace what a download is about to sign: a call that is about to issue a
download URL finds at its key a content that the scanner has reported clean.
-/
theorem downloads_clean (readUuid : String → Option String) (config : KycConfig)
    (production : config.nodeEnv = "production") (calls : List KycCall) (w : World)
    (scanned : w.Scanned)
    (c : KycRun)
    (reached : Config.Reaches (kycSemantics readUuid) Timely (kycCalls config calls w) c)
    (i : Nat) (objectKey : String) (expiresIn : Nat)
    (issues : c.pending? i = some (.signGetObject objectKey expiresIn))
    : c.world.cleanAt objectKey = true := by
  obtain ⟨governed, run⟩ := Protocol.Governs.invariant (J := GatedRun)
    (KeepsGate.initial production)
    (.initial scanned) (fun c c' i x governed h timely stepped => h.step governed timely stepped)
      reached
  obtain ⟨phase, moved⟩ := governed.pending issues (.ok "")
  obtain ⟨cleared, -⟩ := Option.ite_none_right_eq_some.mp moved
  exact run.clean i objectKey (Config.live_of_pending issues) cleared

-- A selfie and its replacement

def selfieKey : String :=
  buildObjectKey firstUser.text "selfie" selfieId

def putSelfie (content : String) : KycCall :=
  .upload selfieKey "image/png" content

/-- The scanner reads the selfie, and finds only one content clean. -/
def scanSelfie : KycCall :=
  .scan selfieKey (fun content => if content = "portrait" then .clean else .infected)

def selfieClean : KycCall :=
  .scanWebhook
    { signature := some "01", rawBody := "", object_key := .text selfieKey
      scan_result := .text "clean" }

def selfieDownload : KycCall :=
  .requestDownloadUrl (some firstUser) selfieId

theorem emptyStorage_scanned : emptyStorage.Scanned where
  tags := fun objectKey object found => by
    rw [emptyStorage, AList.lookup_empty] at found
    cases found
  urls := fun url member => by cases member

/-- A selfie that was scanned once is downloaded. -/
theorem downloads_clean_once
    : ∃ c, Config.Reaches (kycSemantics some) Timely
        (kycCalls productionConfig
          [selfieUpload firstUser, putSelfie "portrait", scanSelfie, selfieClean, selfieDownload]
            emptyStorage) c
      ∧ c.pending? 4 = some (.signGetObject selfieKey 300)
      ∧ c.world.cleanAt selfieKey = true := by
  have executed : ((kycCalls productionConfig
      [selfieUpload firstUser, putSelfie "portrait", scanSelfie, selfieClean, selfieDownload]
      emptyStorage).run (kycSemantics some) Timely
      (uploadSteps 0 7 firstApplication ++ uploadSteps 1 1 "" ++ uploadSteps 2 2 ""
        ++ uploadSteps 3 2 "" ++ uploadSteps 4 4 "")).map (fun c => c.pending? 4)
      = some (some (.signGetObject selfieKey 300)) := by
    decide +kernel
  obtain ⟨c, reached, issues⟩ := Config.reaches_of_run executed
  exact ⟨c, reached, issues, downloads_clean some productionConfig rfl _ emptyStorage
    emptyStorage_scanned c
    reached 4 selfieKey 300 issues⟩

/-- The selfie is replaced after it was scanned; the verdict on the first content arrives then, and
the second content, which nobody has scanned, is downloaded.
-/
theorem download_of_late_verdict
    : ∃ c c' : KycRun, Config.Reaches (kycSemantics some) Config.anyStep
        (kycCalls productionConfig
          [selfieUpload firstUser, putSelfie "portrait", scanSelfie, putSelfie "virus", selfieClean,
            selfieDownload]
          emptyStorage) c
      ∧ c.pending? 5 = some (.signGetObject selfieKey 300)
      ∧ c.step (kycSemantics some) 5 { time := 0, text := "url" } = some c'
      ∧ c'.value? 5 = some (.downloadUrl selfieId
          { download_url := "url", expires_at := 300, scan_status := "clean" })
      ∧ (c.world.objects.lookup selfieKey).map StoredObject.content = some "virus"
      ∧ c.world.cleanAt selfieKey = false := by
  have executed : ((kycCalls productionConfig
      [selfieUpload firstUser, putSelfie "portrait", scanSelfie, putSelfie "virus", selfieClean,
        selfieDownload]
      emptyStorage).run (kycSemantics some) Config.anyStep
      (uploadSteps 0 7 firstApplication ++ uploadSteps 1 1 "" ++ uploadSteps 2 2 ""
        ++ uploadSteps 3 1 ""
        ++ uploadSteps 4 2 "" ++ uploadSteps 5 4 "")).map
        (fun c => (c.pending? 5,
          (c.step (kycSemantics some) 5 { time := 0, text := "url" }).map (fun c' => c'.value? 5),
          (c.world.objects.lookup selfieKey).map StoredObject.content, c.world.cleanAt selfieKey))
      = some (some (.signGetObject selfieKey 300),
          some (some (.downloadUrl selfieId
            { download_url := "url", expires_at := 300, scan_status := "clean" })),
          some "virus", false) := by
    decide +kernel
  obtain ⟨c, reached, observed⟩ := Config.reaches_of_run executed
  obtain ⟨issues, observed⟩ := Prod.mk.inj observed
  obtain ⟨answered, observed⟩ := Prod.mk.inj observed
  obtain ⟨content, unclean⟩ := Prod.mk.inj observed
  obtain ⟨c', stepped, answered⟩ := Option.map_eq_some_iff.mp answered
  exact ⟨c, c', reached, issues, stepped, answered, content, unclean⟩

end AcbuBackend.Kyc

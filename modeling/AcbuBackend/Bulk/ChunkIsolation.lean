import AcbuBackend.Bulk.Accounting

/-! What a failing chunk of a bulk transfer leaves behind.
The rows of a chunk are written outside its transaction, and no path out of a failing chunk writes
to the job. So the rows stay, and so does the job's status.
-/

namespace AcbuBackend.Bulk

open Effects Effects.Prog AcbuBackend.Runtime
open Mint (TxId)
open Salary (slices)

-- Open chunks

/-- The tables, and those that the chunk in progress has begun with. -/
structure ChunkState where
  world : World
  openChunk : Option World := none

/-- A chunk is in progress from the start of its transaction until its commit is confirmed. -/
def chunkAfter (w : World) (openChunk : Option World)
    : (op : BulkOp) → bulkInterface.Reply op → Option World
  | .beginTransaction, _ => some w
  | .commit, .ok _ => none
  | _, _ => openChunk

def chunkSemantics : Semantics bulkInterface ChunkState Choice where
  act i op x s :=
    (bulkSemantics.act i op x s.world).map
      (fun (reply, w) =>
        (reply, { world := w, openChunk := chunkAfter s.world s.openChunk op reply }))

theorem chunk_act_eq_some {i : Nat} {op : BulkOp} {x : Choice} {s s' : ChunkState}
    {reply : bulkInterface.Reply op} (answered : chunkSemantics.act i op x s = some (reply, s'))
    : bulkSemantics.act i op x s.world = some (reply, s'.world)
      ∧ s'.openChunk = chunkAfter s.world s.openChunk op reply := by
  obtain ⟨⟨reply', w⟩, acted, same⟩ := Option.map_eq_some_iff.mp answered
  obtain ⟨rfl, rfl⟩ := Prod.mk.inj same
  exact ⟨acted, rfl⟩

/-- No transaction that a world has is lost or changed. -/
def RowsStay (w w' : World) : Prop :=
  ∀ id row, w.transfers.transfers.lookup id = some row → w'.transfers.transfers.lookup id = some row

/-- The isolation of a chunk, which began with the tables `before`, in a run from `w` to `w'`. -/
structure Isolated (w before w' : World) : Prop where
  rolledBack : ∀ id ∈ w'.transfers.transfers, id ∈ before.transfers.transfers
  earlier : RowsStay before w'
  settled : ∀ jobId job, jobId ∉ w.jobs → w'.jobs.lookup jobId = some job → job.status ≠ .processing

-- The status of the job

/-- The job is in progress. -/
def Running (jobId : JobId) (w : World) : Prop :=
  ∃ job, w.jobs.lookup jobId = some job ∧ job.status = .processing

/-- A transfer that ends in a chunk leaves a job in progress that it has created. -/
def LeftRunning (w : World) (s' : ChunkState) : Prop :=
  s'.openChunk = none ∨ ∃ jobId, jobId ∉ w.jobs ∧ Running jobId s'.world

section

variable {dep : Deployment} {params : ProcessBulkTransferParams} {i : Nat} {jobId : JobId}
    {w : World}
  {s : ChunkState}

theorem wlp_callback {α : Type} {callback : Prog bulkInterface α} {Q : α → Prop}
    (h : Yields callback Q)
    : chunkSemantics.wlp i callback s (fun _ s' => s'.world.jobs = s.world.jobs)
        (fun _ s' => s'.world.jobs = s.world.jobs) := by
  refine Semantics.wlp_mono (Semantics.wlp_of_only
    (R := fun s s' : ChunkState => s'.world.jobs = s.world.jobs)
    (fun _ => rfl) (fun first second => second.trans first) ?_ h)
    (fun _ _ known => known.2) fun _ _ known => known.2
  intro op x s reply s' keeps answered
  exact jobs_of_act keeps (chunk_act_eq_some answered).1

theorem wlp_inTransaction {α : Type} {callback : Prog bulkInterface α} {Q : α → Prop}
    (h : Yields callback Q)
    : chunkSemantics.wlp i (inTransaction callback) s
        (fun _ s' => s'.world.jobs = s.world.jobs ∧ s'.openChunk = none)
        (fun _ s' => s'.world.jobs = s.world.jobs) := by
  have started : ∀ {x s' reply}, chunkSemantics.act i .beginTransaction x s = some (reply, s') →
      s'.world.jobs = s.world.jobs :=
    fun answered => jobs_of_act (show KeepsJobs .beginTransaction from trivial)
      (chunk_act_eq_some answered).1
  refine Semantics.wlp_bind.mpr (Semantics.wlp_await.mpr
    ⟨fun x _ s₁ answered => ?_, fun _ _ _ => started⟩)
  have jobs₁ := started answered
  refine Semantics.wlp_bind.mpr (Semantics.wlp_catchWith.mpr
    (Semantics.wlp_mono (wlp_callback h) ?_ ?_))
  · -- the commit, which closes the chunk when it is confirmed
    intro value s₂ jobs₂
    refine Semantics.wlp_bind.mpr (Semantics.wlp_await.mpr ⟨?_, ?_⟩)
    · intro x value s₃ answered
      obtain ⟨acted, chunk⟩ := chunk_act_eq_some answered
      exact ⟨((jobs_of_act (show KeepsJobs .commit from trivial) acted).trans jobs₂).trans jobs₁,
        chunk⟩
    · intro x error s₃ answered
      obtain ⟨acted, -⟩ := chunk_act_eq_some answered
      exact ((jobs_of_act (show KeepsJobs .commit from trivial) acted).trans jobs₂).trans jobs₁
  · -- the rollback, whose own failure is ignored
    intro error s₂ jobs₂
    have undone : ∀ {x s₃ reply}, chunkSemantics.act i .rollback x s₂ = some (reply, s₃) →
        s₃.world.jobs = s.world.jobs := fun answered =>
      ((jobs_of_act (show KeepsJobs .rollback from trivial) (chunk_act_eq_some answered).1).trans
        jobs₂).trans
        jobs₁
    exact Semantics.wlp_bind.mpr (Semantics.wlp_catchWith.mpr
      (Semantics.wlp_await.mpr ⟨fun _ _ _ answered => undone answered,
        fun _ _ _ answered => undone answered⟩))

theorem running_of_update {x : Choice} {s' : ChunkState} {data : JobUpdate}
    {reply : Except JsError Unit}
    (silent : data.status = none) (running : Running jobId s.world)
    (answered : chunkSemantics.act i (.updateJob jobId data) x s = some (reply, s'))
    : Running jobId s'.world ∧ s'.openChunk = s.openChunk := by
  obtain ⟨acted, chunk⟩ := chunk_act_eq_some answered
  refine ⟨?_, chunk⟩
  obtain ⟨-, acted⟩ := Environment.act_eq_some acted
  rcases Outcome.answer_world acted with same | left
  · rw [same]
    exact running
  · obtain ⟨job, found, status⟩ := running
    rw [left]
    change Running jobId (s.world.updateJob jobId data).2
    unfold World.updateJob
    rw [found]
    refine ⟨job.apply data, AList.lookup_insert _, ?_⟩
    rw [BulkTransferJob.apply, silent]
    exact status

theorem wlp_processChunks_running {size rounds start processed : Nat} {rows : List CsvRow}
    {acc : List BulkTransferRowResult} (running : Running jobId s.world)
    (closed : s.openChunk = none)
    : chunkSemantics.wlp i
        (processChunks dep params jobId size (slices size rounds rows) start processed acc) s
        (fun _ s' => s'.openChunk = none) (fun _ s' => Running jobId s'.world) := by
  induction rounds generalizing rows start processed acc s with
  | zero => exact closed
  | succ rounds ih =>
      cases rows with
      | nil => exact closed
      | cons row rest =>
          rw [slices, processChunks]
          refine Semantics.wlp_bind.mpr (Semantics.wlp_mono
            (wlp_inTransaction (yields_processRows dep params _ start)) ?_ fun error s₁ jobs => ?_)
          · rintro chunkResults s₁ ⟨jobs, closed₁⟩
            have running₁ : Running jobId s₁.world := by
              unfold Running
              rw [jobs]
              exact running
            refine Semantics.wlp_bind.mpr (Semantics.wlp_await.mpr ⟨?_, ?_⟩)
            · intro x value s₂ answered
              obtain ⟨running₂, chunk⟩ := running_of_update rfl running₁ answered
              exact ih running₂ (chunk.trans closed₁)
            · exact fun x error s₂ answered => (running_of_update rfl running₁ answered).1
          · unfold Running
            rw [jobs]
            exact running

theorem wlp_finishJob_closed {createdAt : ℤ} {totalRows : Nat}
    {outcomes : List BulkTransferRowResult}
    (closed : s.openChunk = none)
    : chunkSemantics.wlp i (finishJob jobId createdAt totalRows outcomes) s (fun _ _ => True)
        (fun _ s' => s'.openChunk = none) := by
  refine Semantics.wlp_bind.mpr (Semantics.wlp_await.mpr ⟨fun x stored s₁ answered => ?_, ?_⟩)
  · have closed₁ := (chunk_act_eq_some answered).2.trans closed
    refine Semantics.wlp_bind.mpr (Semantics.wlp_await.mpr ⟨fun x _ s₂ answered => ?_, ?_⟩)
    · have closed₂ := (chunk_act_eq_some answered).2.trans closed₁
      exact Semantics.wlp_bind.mpr (Semantics.wlp_await.mpr
        ⟨fun _ _ _ _ => trivial, fun x error s₃ answered =>
          (chunk_act_eq_some answered).2.trans closed₂⟩)
    · exact fun x error s₂ answered => (chunk_act_eq_some answered).2.trans closed₁
  · exact fun x error s₁ answered => (chunk_act_eq_some answered).2.trans closed

theorem created_running {x : Choice} {s' : ChunkState} {data : NewJob} {created : JobId × ℤ}
    (answered : chunkSemantics.act i (.createJob data) x s = some (.ok created, s'))
    : created.1 ∉ s.world.jobs
      ∧ (∃ job, s'.world.jobs.lookup created.1 = some job ∧ job.status = data.status)
      ∧ s'.openChunk = s.openChunk := by
  obtain ⟨acted, chunk⟩ := chunk_act_eq_some answered
  obtain ⟨possible, acted⟩ := Environment.act_eq_some acted
  obtain ⟨same, left⟩ := Prod.mk.inj (Outcome.answer_ok acted).2
  obtain rfl := Except.ok.inj same
  refine ⟨of_decide_eq_true possible, ?_, chunk⟩
  rw [← left]
  exact ⟨_, AList.lookup_insert _, rfl⟩

theorem wlp_processJob_running {chunkSize : ChunkSize} {rows : List CsvRow}
    (closed : s.openChunk = none)
    : chunkSemantics.wlp i (processJob dep params chunkSize rows) s (fun _ _ => True)
        (fun _ s' => LeftRunning s.world s') := by
  unfold processJob
  refine Semantics.wlp_bind.mpr (Semantics.wlp_await.mpr ⟨fun x created s₁ answered => ?_, ?_⟩)
  · obtain ⟨fresh, created₁, chunk⟩ := created_running answered
    obtain ⟨jobId, createdAt⟩ := created
    have closed₁ := chunk.trans closed
    cases rows with
    | nil =>
        -- no chunk at all
        exact Semantics.wlp_mono (wlp_finishJob_closed closed₁) (fun _ _ known => known)
          fun _ _ closed' => .inl closed'
    | cons row rest =>
        refine Semantics.wlp_bind.mpr (Semantics.wlp_mono
          (wlp_processChunks_running created₁ closed₁) ?_ ?_)
        · exact fun outcomes s₂ closed₂ =>
            Semantics.wlp_mono (wlp_finishJob_closed closed₂) (fun _ _ known => known)
              fun _ _ closed' => .inl closed'
        · exact fun error s₂ running => .inr ⟨jobId, fresh, running⟩
  · exact fun x error s₁ answered => .inl ((chunk_act_eq_some answered).2.trans closed)

theorem wlp_processBulkTransfer_running {options : ProcessBulkTransferOptions}
    (closed : s.openChunk = none)
    : chunkSemantics.wlp i (processBulkTransfer dep params options) s (fun _ _ => True)
        (fun _ s' => LeftRunning s.world s') := by
  unfold processBulkTransfer
  refine Semantics.wlp_bind.mpr (Semantics.wlp_ensure.mpr ⟨fun _ => ?_, fun _ => .inl closed⟩)
  refine Semantics.wlp_bind.mpr (Semantics.wlp_fromExcept.mpr
    ⟨fun rows parsed => ?_, fun _ _ => .inl closed⟩)
  refine Semantics.wlp_bind.mpr (Semantics.wlp_ensure.mpr ⟨fun _ => ?_, fun _ => .inl closed⟩)
  exact wlp_processJob_running closed

end

/-- No chunk that fails is isolated: whatever the file, the chunk size and the call that fails, the
job is left in progress.
-/
theorem failed_chunk_not_isolated (dep : Deployment) (params : ProcessBulkTransferParams)
    (options : ProcessBulkTransferOptions) (w before : World) (error : JsError) (s' : ChunkState)
    (evaluates : (processBulkTransfer dep params options).Evaluates chunkSemantics 0 { world := w }
      (.error error) s')
    (inChunk : s'.openChunk = some before)
    : ¬ Isolated w before s'.world := by
  intro isolated
  rcases Semantics.wlp_error (wlp_processBulkTransfer_running rfl) evaluates with closed | running
  · cases closed.symm.trans inChunk
  · obtain ⟨jobId, fresh, job, found, status⟩ := running
    exact isolated.settled jobId job fresh found status

-- Failing chunks

def twoRowDigest (text : String) : String :=
  if text = "org-1|GBULKRECIPIENT|5||" then
    "65ace8a87e77b0b818433c2115fd6ee966a154c444cabbdda854e615e8764a6f"
  else "fd5057d5a254c6cf60ecfb36c753df4db72ca4bb27b6b8a9538830ea8dad6baf"

def twoRows : Deployment :=
  { repeatedFile with sha256Hex := twoRowDigest }

def twoRowFile (senderUserId : Option String) : ProcessBulkTransferParams where
  organizationId := "org-1"
  senderUserId := senderUserId
  fileContent := "to,amount_acbu\nGBULKRECIPIENT,5\nGBULKRECIPIENT,7"

def noTables : World where
  transfers := { transfers := ∅ }

/-- The state that a run of the file leaves. -/
def chunkLeft (senderUserId : Option String) (choices : List Choice) : ChunkState :=
  (processBulkTransfer twoRows (twoRowFile senderUserId)).after chunkSemantics 0 choices
    { world := noTables }

/-- A key of an organisation, which has no user. -/
def noSender : List Choice :=
  [{ freshJob := "job-1" }, {}, {}]

/-- The first row is written, and the lookup for the second one fails. -/
def lookupFails : List Choice :=
  [{ freshJob := "job-1" }, {}, {}, { user := some { stellarAddress := none, kycStatus := "" } },
    { freshId := "tx-1" }, { outcome := .failed (.error "timeout") }, {}]

/-- A transfer without a sender leaves its job in progress. -/
theorem failed_chunk_not_isolated_no_sender
    : (processBulkTransfer twoRows (twoRowFile none)).Evaluates chunkSemantics 0
        { world := noTables }
        (.error (plainAppError "User-scoped API key required" 401)) (chunkLeft none noSender)
      ∧ ∃ before, ¬ Isolated noTables before (chunkLeft none noSender).world := by
  have executed : ((processBulkTransfer twoRows (twoRowFile none)).evaluate chunkSemantics 0
      noSender { world := noTables }).map (fun ended => (ended.1, ended.2.openChunk.isSome))
        = some (.error (plainAppError "User-scoped API key required" 401), true) := by
    decide +kernel
  obtain ⟨result, s', evaluates, left, same⟩ := Prog.evaluates_of_map executed
  have left : chunkLeft none noSender = s' := left
  obtain ⟨rfl, inChunk⟩ := Prod.mk.inj same
  obtain ⟨before, inChunk⟩ := Option.isSome_iff_exists.mp inChunk
  rw [left]
  exact ⟨evaluates, before, failed_chunk_not_isolated _ _ _ _ _ _ _ evaluates inChunk⟩

/-- The row that a failing chunk has written stays, and its job is left in progress. -/
theorem failed_chunk_keeps_row
    : (processBulkTransfer twoRows (twoRowFile (some "user-1"))).Evaluates chunkSemantics 0
        { world := noTables } (.error (.error "timeout")) (chunkLeft (some "user-1") lookupFails)
      ∧ ∃ before, (chunkLeft (some "user-1") lookupFails).openChunk = some before
        ∧ "tx-1" ∉ before.transfers.transfers
        ∧ "tx-1" ∈ (chunkLeft (some "user-1") lookupFails).world.transfers.transfers
        ∧ ((chunkLeft (some "user-1") lookupFails).world.jobs.lookup "job-1").map (·.status)
          = some .processing
        ∧ ¬ Isolated noTables before (chunkLeft (some "user-1") lookupFails).world := by
  have executed : ((processBulkTransfer twoRows (twoRowFile (some "user-1"))).evaluate chunkSemantics
      0 lookupFails { world := noTables }).map (fun ended => (ended.1,
        ended.2.openChunk.map (fun before => decide ("tx-1" ∈ before.transfers.transfers)),
        decide ("tx-1" ∈ ended.2.world.transfers.transfers),
        (ended.2.world.jobs.lookup "job-1").map (·.status)))
      = some (.error (.error "timeout"), some false, true, some .processing) := by
    decide +kernel
  obtain ⟨result, s', evaluates, left, same⟩ := Prog.evaluates_of_map executed
  have left : chunkLeft (some "user-1") lookupFails = s' := left
  obtain ⟨rfl, same⟩ := Prod.mk.inj same
  obtain ⟨absent, same⟩ := Prod.mk.inj same
  obtain ⟨written, running⟩ := Prod.mk.inj same
  obtain ⟨before, inChunk, absent⟩ := Option.map_eq_some_iff.mp absent
  have absent := of_decide_eq_false absent
  have written := of_decide_eq_true written
  rw [left]
  exact ⟨evaluates, before, inChunk, absent, written, running,
    fun isolated => absent (isolated.rolledBack _ written)⟩

end AcbuBackend.Bulk

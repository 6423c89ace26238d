import AcbuBackend.Bulk.BulkTransfer
import AcbuBackend.Effects.Evaluation

/-! The outcomes of a bulk transfer, and its two reports.
Every row of the file has one outcome. The answer to the transfer lists those that failed, and the
stored job those that failed or were skipped.
-/

namespace AcbuBackend.Bulk

open Effects Effects.Prog AcbuBackend.Runtime
open Salary (slices)

-- What is claimed

def keyOf (dep : Deployment) (organizationId : String) (rawRow : CsvRow) : String :=
  match safeParseRow rawRow with
  | .error _ => rawRowKey dep.sha256Hex organizationId rawRow
  | .ok row => rowKey dep.sha256Hex organizationId row

/-- The rows have one outcome each, in their order, under indices from `start` on. -/
structure OutcomesOf (dep : Deployment) (organizationId : String) (rows : List CsvRow) (start : Nat)
    (outcomes : List BulkTransferRowResult)
    : Prop where
  indices : outcomes.map (·.rowIndex) = List.range' start rows.length
  keys : outcomes.map (·.idempotencyKey) = rows.map (keyOf dep organizationId)

/-- The counts of an answer are those of the outcomes, and add up to the number of rows. -/
structure Accounts (result : BulkTransferJobResult) (outcomes : List BulkTransferRowResult)
    : Prop where
  total : result.totalRows = outcomes.length
  success : result.successCount = countStatus .success outcomes
  failure : result.failureCount = countStatus .failure outcomes
  skipped : result.skippedCount = countStatus .skipped outcomes
  sum : result.successCount + result.failureCount + result.skippedCount = result.totalRows
  report : result.failureReport = outcomes.filter (fun outcome => outcome.status = .failure)

/-- A stored job agrees with the answer, but reports the rows that were skipped besides those that
failed.
-/
structure Agrees (view result : BulkTransferJobResult) (outcomes : List BulkTransferRowResult)
    : Prop where
  totalRows : view.totalRows = result.totalRows
  successCount : view.successCount = result.successCount
  failureCount : view.failureCount = result.failureCount
  skippedCount : view.skippedCount = result.skippedCount
  report : view.failureReport = outcomes.filter (fun outcome => outcome.status ≠ .success)
  failures : view.failureReport.filter (fun outcome => outcome.status = .failure)
    = result.failureReport

-- Rows

/-- The calls that leave the jobs alone. -/
def KeepsJobs : BulkOp → Prop
  | .createJob _ | .updateJob .. => False
  | _ => True

/-- A program that leaves the jobs alone, and a property of its value. -/
abbrev Yields {α : Type} (prog : Prog bulkInterface α) (Q : α → Prop) : Prop :=
  (Protocol.only KeepsJobs).wp prog () (fun value _ => Q value) (fun _ _ => True)

theorem yields_perform {op : BulkOp} (keeps : KeepsJobs op) : Yields (perform op) (fun _ => True) :=
  Protocol.only_await keeps

theorem yields_bind {α β : Type} {prog : Prog bulkInterface α} {f : α → Prog bulkInterface β}
    {Q : α → Prop} {Q' : β → Prop} (first : Yields prog Q)
    (rest : ∀ value, Q value → Yields (f value) Q')
    : Yields (prog >>= f) Q' :=
  Protocol.wp_bind.mpr (Protocol.wp_mono first (fun value _ known => rest value known)
    fun _ _ known => known)

/-- The outcome of a row bears its index and its key. -/
def OutcomeFor (rowIndex : Nat) (idempotencyKey : String) (result : BulkTransferRowResult) : Prop :=
  result.rowIndex = rowIndex ∧ result.idempotencyKey = idempotencyKey

section

variable {dep : Deployment} {params : ProcessBulkTransferParams} {organizationId : String}
    {rowIndex : Nat}
  {key : String}

theorem yields_payRow {senderUserId : String} {row : BulkTransferRowInput}
    : Yields (payRow organizationId senderUserId row rowIndex key) (OutcomeFor rowIndex key) := by
  refine yields_bind (yields_perform trivial) fun sender _ => ?_
  cases sender with
  | none => exact ⟨rfl, rfl⟩
  | some user => exact yields_bind (yields_perform trivial) fun _ _ => ⟨rfl, rfl⟩

theorem yields_recoverRow {error : JsError}
    : Yields (recoverRow rowIndex key error) (OutcomeFor rowIndex key) := by
  have raced : Yields (findAfterRace key error) (fun _ => True) := by
    unfold findAfterRace
    split
    · exact yields_perform trivial
    · trivial
  refine yields_bind raced fun existing _ => ?_
  cases existing with
  | none => exact ⟨rfl, rfl⟩
  | some existing => exact ⟨rfl, rfl⟩

theorem yields_processRow {senderUserId : Option String} {row : BulkTransferRowInput}
    : Yields (processRow dep organizationId senderUserId row rowIndex)
        (OutcomeFor rowIndex (rowKey dep.sha256Hex organizationId row)) := by
  unfold processRow
  refine Protocol.wp_bind.mpr (Protocol.wp_orThrow.mpr ⟨fun sender _ => ?_, fun _ => trivial⟩)
  refine yields_bind (yields_perform trivial) fun existing _ => ?_
  cases existing with
  | some existing => exact ⟨rfl, rfl⟩
  | none =>
      exact Protocol.wp_catchWith.mpr (Protocol.wp_mono yields_payRow (fun _ _ known => known)
        fun _ _ _ => yields_recoverRow)

theorem yields_processRawRow (dep : Deployment) (params : ProcessBulkTransferParams)
    (rawRow : CsvRow)
    (rowIndex : Nat)
    : Yields (processRawRow dep params rawRow rowIndex)
        (OutcomeFor rowIndex (keyOf dep params.organizationId rawRow)) := by
  cases parsed : safeParseRow rawRow with
  | error issues =>
      simp only [processRawRow, keyOf, parsed]
      exact ⟨rfl, rfl⟩
  | ok row =>
      simp only [processRawRow, keyOf, parsed]
      exact yields_processRow

theorem yields_processRows (dep : Deployment) (params : ProcessBulkTransferParams)
    (rows : List CsvRow) (start : Nat)
    : Yields (processRows dep params rows start) (OutcomesOf dep params.organizationId rows
        start) := by
  induction rows generalizing start with
  | nil =>
      rw [processRows]
      exact ⟨rfl, rfl⟩
  | cons rawRow rest ih =>
      rw [processRows]
      refine yields_bind (yields_processRawRow dep params rawRow start) fun result own => ?_
      refine yields_bind (ih (start + 1)) fun results others => ⟨?_, ?_⟩
      · rw [List.map_cons, own.1, others.indices]
        rfl
      · rw [List.map_cons, own.2, others.keys]
        rfl

theorem yields_inTransaction {α : Type} {callback : Prog bulkInterface α} {Q : α → Prop}
    (h : Yields callback Q)
    : Yields (inTransaction callback) Q := by
  refine yields_bind (yields_perform trivial) fun _ _ => ?_
  refine yields_bind (Protocol.wp_catchWith.mpr (Protocol.wp_mono h (fun _ _ known => known) ?_)) ?_
  · intro error _ _
    refine yields_bind (Q := fun _ => True) (Protocol.wp_catchWith.mpr ?_) fun _ _ => trivial
    exact Protocol.wp_mono (yields_perform (show KeepsJobs .rollback from trivial))
      (fun _ _ _ => trivial) fun _ _ _ => trivial
  · exact fun value known => yields_bind (yields_perform trivial) fun _ _ => known

-- Chunks

theorem OutcomesOf.append {size start : Nat} {rows : List CsvRow}
    {first later : List BulkTransferRowResult}
    (head : OutcomesOf dep organizationId (rows.take size) start first)
    (tail : OutcomesOf dep organizationId (rows.drop size) (start + size) later)
    : OutcomesOf dep organizationId rows start (first ++ later) := by
  constructor
  · rw [List.map_append, head.indices, tail.indices, List.length_take, List.length_drop]
    rcases Nat.le_total size rows.length with inside | beyond
    · rw [Nat.min_eq_left inside, List.range'_append_1, Nat.add_sub_of_le inside]
    · rw [Nat.min_eq_right beyond, Nat.sub_eq_zero_of_le beyond, List.range'_zero, List.append_nil]
  · rw [List.map_append, head.keys, tail.keys, ← List.map_append, List.take_append_drop]

/-- The job is there, with its organisation and its number of rows. -/
def JobOf (w : World) (jobId : JobId) (organizationId : String) (totalRows : Nat) : Prop :=
  ∃ job, w.jobs.lookup jobId = some job ∧ job.organizationId = organizationId
    ∧ job.totalRows = totalRows

theorem jobs_of_act {i : Nat} {op : BulkOp} {x : Choice} {w w' : World}
    {reply : bulkInterface.Reply op}
    (keeps : KeepsJobs op) (answered : bulkSemantics.act i op x w = some (reply, w'))
    : w'.jobs = w.jobs := by
  obtain ⟨-, answered⟩ := Environment.act_eq_some answered
  rcases Outcome.answer_world answered with rfl | left
  · rfl
  · rw [left]
    cases op with
    | createJob | updateJob => exact keeps.elim
    | createTransaction organizationId data =>
        change (w.createTransaction x.freshId organizationId data).2.jobs = w.jobs
        unfold World.createTransaction
        split <;> rfl
    | _ => rfl

theorem jobs_of_now {i : Nat} {x : Choice} {w w' : World} {reply : Except JsError ℤ}
    (answered : bulkSemantics.act i .now x w = some (reply, w'))
    : w'.jobs = w.jobs :=
  jobs_of_act (show KeepsJobs .now from trivial) answered

theorem wlp_of_yields {α : Type} {prog : Prog bulkInterface α} {Q : α → Prop} {i : Nat} {w : World}
    (h : Yields prog Q)
    : bulkSemantics.wlp i prog w (fun value w' => Q value ∧ w'.jobs = w.jobs) (fun _ _ => True) :=
  Semantics.wlp_mono
    (Semantics.wlp_of_only (R := fun w w' : World => w'.jobs = w.jobs) (fun _ => rfl)
      (fun first second => second.trans first)
      (fun _ _ _ _ _ keeps answered => jobs_of_act keeps answered) h)
    (fun _ _ known => known) fun _ _ _ => trivial

theorem jobOf_of_update {i : Nat} {x : Choice} {w w' : World} {jobId : JobId} {totalRows : Nat}
    {data : JobUpdate} {reply : Except JsError Unit}
    (there : JobOf w jobId organizationId totalRows)
    (answered : bulkSemantics.act i (.updateJob jobId data) x w = some (reply, w'))
    : JobOf w' jobId organizationId totalRows := by
  obtain ⟨-, answered⟩ := Environment.act_eq_some answered
  rcases Outcome.answer_world answered with rfl | left
  · exact there
  · obtain ⟨job, found, owner, total⟩ := there
    rw [left]
    change JobOf (w.updateJob jobId data).2 jobId organizationId totalRows
    unfold World.updateJob
    rw [found]
    exact ⟨job.apply data, AList.lookup_insert _, owner, total⟩

theorem wlp_processChunks {i size rounds start processed totalRows : Nat} {jobId : JobId}
    {rows : List CsvRow} {w : World} {acc : List BulkTransferRowResult} (positive : 0 < size)
    (enough : rows.length ≤ rounds) (there : JobOf w jobId organizationId totalRows)
    : bulkSemantics.wlp i
        (processChunks dep params jobId size (slices size rounds rows) start processed acc) w
        (fun results w' => JobOf w' jobId organizationId totalRows
          ∧ ∃ more, results = acc ++ more ∧ OutcomesOf dep params.organizationId rows start more)
        (fun _ _ => True) := by
  induction rounds generalizing rows start processed acc w with
  | zero =>
      obtain rfl := List.length_eq_zero_iff.mp (Nat.le_zero.mp enough)
      exact ⟨there, [], (List.append_nil acc).symm, rfl, rfl⟩
  | succ rounds ih =>
      cases rows with
      | nil => exact ⟨there, [], (List.append_nil acc).symm, rfl, rfl⟩
      | cons row rest =>
          rw [slices, processChunks]
          refine Semantics.wlp_bind.mpr (Semantics.wlp_mono
            (wlp_of_yields (yields_inTransaction (yields_processRows dep params _ start))) ?_
              fun _ _ _ => trivial)
          rintro chunkResults w₁ ⟨outcomes, jobs⟩
          have there₁ : JobOf w₁ jobId organizationId totalRows := by
            unfold JobOf
            rw [jobs]
            exact there
          refine Semantics.wlp_bind.mpr (Semantics.wlp_await.mpr
            ⟨fun x value w₂ answered => ?_, fun _ _ _ _ => trivial⟩)
          have fewer : ((row :: rest).drop size).length ≤ rounds := by
            rw [List.length_drop, List.length_cons]
            rw [List.length_cons] at enough
            omega
          refine Semantics.wlp_mono (ih fewer (jobOf_of_update there₁ answered)) ?_
            fun _ _ _ => trivial
          rintro results w₃ ⟨there₃, more, rfl, later⟩
          exact ⟨there₃, chunkResults ++ more, List.append_assoc .., outcomes.append later⟩

-- The whole transfer

/-- A job as the end of a transfer leaves it. -/
structure Stored (w : World) (jobId : JobId) (organizationId : String)
    (outcomes : List BulkTransferRowResult) (job : BulkTransferJob)
    : Prop where
  found : w.jobs.lookup jobId = some job
  owner : job.organizationId = organizationId
  totalRows : job.totalRows = outcomes.length
  successCount : job.successCount = countStatus .success outcomes
  failureCount : job.failureCount = countStatus .failure outcomes
  report : job.failureReport = some (outcomes.filter (fun outcome => outcome.status ≠ .success))

theorem wlp_finishJob {i totalRows : Nat} {jobId : JobId} {createdAt : ℤ} {w : World}
    {outcomes : List BulkTransferRowResult} (there : JobOf w jobId organizationId totalRows)
    (total : totalRows = outcomes.length)
    : bulkSemantics.wlp i (finishJob jobId createdAt totalRows outcomes) w
        (fun result w' => (∃ completedAt, result = jobResult jobId createdAt completedAt totalRows
          outcomes)
          ∧ ∃ job, Stored w' jobId organizationId outcomes job)
        (fun _ _ => True) := by
  refine Semantics.wlp_bind.mpr (Semantics.wlp_await.mpr
    ⟨fun x stored w₁ answered => ?_, fun _ _ _ _ => trivial⟩)
  have jobs₁ : w₁.jobs = w.jobs := jobs_of_now answered
  refine Semantics.wlp_bind.mpr (Semantics.wlp_await.mpr
    ⟨fun x value w₂ answered => ?_, fun _ _ _ _ => trivial⟩)
  obtain ⟨job, found, owner, rows⟩ := there
  have kept : ∃ job, Stored w₂ jobId organizationId outcomes job := by
    obtain ⟨-, answered⟩ := Environment.act_eq_some answered
    have told := (Outcome.answer_ok answered).2
    simp only [bulkEnvironment, effect, World.updateJob, jobs₁, found] at told
    obtain ⟨-, left⟩ := Prod.mk.inj told
    rw [← left]
    exact ⟨_, AList.lookup_insert _, owner, rows.trans total, rfl, rfl, rfl⟩
  refine Semantics.wlp_bind.mpr (Semantics.wlp_await.mpr
    ⟨fun x completedAt w₃ answered => ?_, fun _ _ _ _ => trivial⟩)
  refine ⟨⟨completedAt, rfl⟩, ?_⟩
  obtain ⟨job, stored⟩ := kept
  exact ⟨job, { stored with found := by rw [jobs_of_now answered]; exact stored.found }⟩

/-- What a transfer that returns has done. -/
def Done (dep : Deployment) (params : ProcessBulkTransferParams) (result : BulkTransferJobResult)
    (w' : World)
    : Prop :=
  ∃ rows outcomes, parseCsvBuffer params.fileContent = .ok rows
    ∧ OutcomesOf dep params.organizationId rows 0 outcomes
    ∧ (∃ createdAt completedAt,
        result = jobResult result.jobId createdAt completedAt outcomes.length outcomes)
    ∧ ∃ job, Stored w' result.jobId params.organizationId outcomes job

theorem OutcomesOf.length_eq {rows : List CsvRow} {start : Nat}
    {outcomes : List BulkTransferRowResult}
    (h : OutcomesOf dep organizationId rows start outcomes)
    : outcomes.length = rows.length := by
  have := congrArg List.length h.indices
  simpa using this

theorem wlp_processJob {i : Nat} {chunkSize : ChunkSize} {rows : List CsvRow} {w : World}
    (parsed : parseCsvBuffer params.fileContent = .ok rows)
    : bulkSemantics.wlp i (processJob dep params chunkSize rows) w (Done dep params)
        (fun _ _ => True) := by
  unfold processJob
  refine Semantics.wlp_bind.mpr (Semantics.wlp_await.mpr
    ⟨fun x created w₁ answered => ?_, fun _ _ _ _ => trivial⟩)
  obtain ⟨jobId, createdAt⟩ := created
  have there : JobOf w₁ jobId params.organizationId rows.length := by
    obtain ⟨-, answered⟩ := Environment.act_eq_some answered
    obtain ⟨same, left⟩ := Prod.mk.inj (Outcome.answer_ok answered).2
    obtain ⟨rfl, -⟩ := Prod.mk.inj (Except.ok.inj same)
    rw [← left]
    exact ⟨_, AList.lookup_insert _, rfl, rfl⟩
  refine Semantics.wlp_bind.mpr (Semantics.wlp_mono
    (wlp_processChunks chunkSize.positive (Nat.le_refl _) there) ?_ fun _ _ _ => trivial)
  rintro results w₂ ⟨there₂, outcomes, rfl, done⟩
  refine Semantics.wlp_mono (wlp_finishJob there₂ done.length_eq.symm) ?_ fun _ _ _ => trivial
  rintro result w₃ ⟨⟨completedAt, rfl⟩, stored⟩
  exact ⟨rows, _, parsed, done, ⟨createdAt, completedAt, by rw [done.length_eq]; rfl⟩, stored⟩

theorem wlp_processBulkTransfer {i : Nat} {options : ProcessBulkTransferOptions} {w : World}
    : bulkSemantics.wlp i (processBulkTransfer dep params options) w (Done dep params)
        (fun _ _ => True) := by
  unfold processBulkTransfer
  refine Semantics.wlp_bind.mpr (Semantics.wlp_ensure.mpr ⟨fun _ => ?_, fun _ => trivial⟩)
  refine Semantics.wlp_bind.mpr (Semantics.wlp_fromExcept.mpr
    ⟨fun rows parsed => ?_, fun _ _ => trivial⟩)
  refine Semantics.wlp_bind.mpr (Semantics.wlp_ensure.mpr ⟨fun _ => ?_, fun _ => trivial⟩)
  exact wlp_processJob parsed

theorem wlp_getBulkTransferJob {i : Nat} {jobId : JobId} {w : World}
    {outcomes : List BulkTransferRowResult}
    {job : BulkTransferJob} (stored : Stored w jobId organizationId outcomes job)
    : bulkSemantics.wlp i (getBulkTransferJob jobId organizationId) w
        (fun found _ => found = some (jobView jobId job)) (fun _ _ => True) := by
  refine Semantics.wlp_bind.mpr (Semantics.wlp_await.mpr
    ⟨fun x found w₁ answered => ?_, fun _ _ _ _ => trivial⟩)
  obtain ⟨-, answered⟩ := Environment.act_eq_some answered
  obtain ⟨same, -⟩ := Prod.mk.inj (Outcome.answer_ok answered).2
  have same : w.findJob jobId organizationId = found := Except.ok.inj same
  rw [← same, World.findJob, stored.found]
  simp [Option.filter, stored.owner]

theorem countStatus_filter {outcomes : List BulkTransferRowResult}
    : countStatus .skipped (outcomes.filter (fun outcome => outcome.status ≠ .success))
        = countStatus .skipped outcomes
      ∧ (outcomes.filter (fun outcome => outcome.status ≠ .success)).filter
          (fun outcome => outcome.status = .failure)
        = outcomes.filter (fun outcome => outcome.status = .failure) := by
  unfold countStatus
  rw [List.countP_filter, List.filter_filter]
  constructor
  · refine List.countP_congr fun outcome _ => ?_
    cases outcome.status <;> simp
  · refine List.filter_congr fun outcome _ => ?_
    cases outcome.status <;> simp

theorem countStatus_sum {outcomes : List BulkTransferRowResult}
    : countStatus .success outcomes + countStatus .failure outcomes + countStatus .skipped outcomes
      = outcomes.length := by
  unfold countStatus
  induction outcomes with
  | nil => rfl
  | cons outcome rest ih =>
      simp only [List.countP_cons, List.length_cons]
      cases outcome.status <;> simp <;> omega

end

/-- A bulk transfer that returns has given every row of its file one outcome, and counts them. The
job that its organisation finds afterwards has the same counts, and reports the failed rows of the
answer beside the skipped ones.
-/
theorem bulk_transfer_accounts (dep : Deployment) (params : ProcessBulkTransferParams)
    (options : ProcessBulkTransferOptions) (w w' : World) (result : BulkTransferJobResult)
    (evaluates : (processBulkTransfer dep params options).Evaluates bulkSemantics 0 w
      (.ok result) w')
    : ∃ rows outcomes, parseCsvBuffer params.fileContent = .ok rows
        ∧ OutcomesOf dep params.organizationId rows 0 outcomes
        ∧ outcomes.length = rows.length
        ∧ Accounts result outcomes
        ∧ ∀ found w'', (getBulkTransferJob result.jobId params.organizationId).Evaluates
          bulkSemantics 0 w'
              (.ok found) w'' →
            ∃ view, found = some view ∧ Agrees view result outcomes := by
  obtain ⟨rows, outcomes, parsed, done, ⟨createdAt, completedAt, same⟩, job, stored⟩ :=
    Semantics.wlp_value wlp_processBulkTransfer evaluates
  refine ⟨rows, outcomes, parsed, done, done.length_eq, ?_, fun found w'' looked => ?_⟩
  · rw [same]
    exact ⟨rfl, rfl, rfl, rfl, countStatus_sum, rfl⟩
  · obtain rfl := Semantics.wlp_value (wlp_getBulkTransferJob stored) looked
    refine ⟨_, rfl, ?_⟩
    have report : (jobView result.jobId job).failureReport
        = outcomes.filter (fun outcome => outcome.status ≠ .success) := by
      rw [jobView, stored.report]
      rfl
    refine ⟨?_, ?_, ?_, ?_, report, ?_⟩
    · rw [same]
      exact stored.totalRows
    · rw [same]
      exact stored.successCount
    · rw [same]
      exact stored.failureCount
    · rw [same]
      change countStatus .skipped (jobView result.jobId job).failureReport
        = countStatus .skipped outcomes
      rw [report]
      exact countStatus_filter.1
    · rw [report, countStatus_filter.2, same]
      rfl

-- A file processed twice

def repeatedFile : Deployment where
  sha256Hex := fun _ => "65ace8a87e77b0b818433c2115fd6ee966a154c444cabbdda854e615e8764a6f"
  chunkSize := ⟨50, by decide⟩
  maxFileSizeBytes := 1000
  maxRows := 10

def oneRow : ProcessBulkTransferParams where
  organizationId := "org-1"
  senderUserId := some "user-1"
  fileContent := "to,amount_acbu\nGBULKRECIPIENT,5"

/-- The first run, which pays the row. -/
def paying : List Choice :=
  [{ freshJob := "job-1", time := 1 }, {}, {},
    { user := some { stellarAddress := none, kycStatus := "" } }, { freshId := "tx-1" }, {}, {},
      { time := 2 }, {}, { time := 3 }]

def afterPaying : World :=
  (processBulkTransfer repeatedFile oneRow).after bulkSemantics 0 paying
    { transfers := { transfers := ∅ } }

/-- The second run, which finds the row paid. -/
def skipping : List Choice :=
  [{ freshJob := "job-2", time := 4 }, {}, {}, {}, {}, { time := 5 }, {}, { time := 6 }]

def afterSkipping : World :=
  (processBulkTransfer repeatedFile oneRow).after bulkSemantics 0 skipping afterPaying

def skippedOutcome : BulkTransferRowResult where
  rowIndex := 0
  idempotencyKey := repeatedFile.sha256Hex ""
  status := .skipped
  transactionId := some "tx-1"
  errorMessage := some "Duplicate transfer already processed previously"

def skippingResult : BulkTransferJobResult :=
  jobResult "job-2" 4 6 1 [skippedOutcome]

theorem skipping_evaluates
    : (processBulkTransfer repeatedFile oneRow).Evaluates bulkSemantics 0 afterPaying
        (.ok skippingResult) afterSkipping :=
  Prog.evaluates_after (by decide +kernel)

/-- The repeated run counts its only row once. -/
theorem bulk_transfer_accounts_repeated
    : (processBulkTransfer repeatedFile oneRow).Evaluates bulkSemantics 0 afterPaying
        (.ok skippingResult)
        afterSkipping
      ∧ ∃ outcomes, outcomes.length = 1 ∧ Accounts skippingResult outcomes := by
  obtain ⟨rows, outcomes, parsed, -, length, accounts, -⟩ :=
    bulk_transfer_accounts _ _ _ _ _ _ skipping_evaluates
  exact ⟨skipping_evaluates, outcomes, accounts.total.symm, accounts⟩

/-- The answer to the repeated run reports no row, and the stored job reports the skipped one. -/
theorem repeated_file_reports_differ
    : (processBulkTransfer repeatedFile oneRow).Evaluates bulkSemantics 0 afterPaying
        (.ok skippingResult)
        afterSkipping
      ∧ skippingResult.failureReport = []
      ∧ ∃ view w'', (getBulkTransferJob "job-2" "org-1").Evaluates bulkSemantics 0 afterSkipping
            (.ok (some view)) w''
          ∧ view.failureReport = [skippedOutcome] := by
  have looked : (getBulkTransferJob "job-2" "org-1").Evaluates bulkSemantics 0 afterSkipping
      (.ok (some { skippingResult with completedAt := some 5, failureReport := [skippedOutcome] }))
      ((getBulkTransferJob "job-2" "org-1").after bulkSemantics 0 [{}] afterSkipping) :=
    Prog.evaluates_after (by decide +kernel)
  exact ⟨skipping_evaluates, by decide, _, _, looked, rfl⟩

end AcbuBackend.Bulk

import AcbuBackend.Effects.Evaluation
import AcbuBackend.Schedules.SalarySchedules

/-! The batches of a trigger that is retried.
The insert of a batch and the update of its schedule are separate writes of one attempt, and the
batch has no idempotency key. So each attempt inserts a batch of its own, unless one of its calls
fails before.
-/

namespace AcbuBackend.Schedules

open Effects Effects.Prog AcbuBackend.Runtime
open Salary (BatchId BatchRow BatchWorld CreateSalaryBatchResult createSalaryBatch retryWithBackoff)

-- Patterns of failures

/-- What becomes of the database calls of one attempt, and the id of a batch that it inserts. -/
structure Attempt where
  find : Outcome JsError := .done
  create : Outcome JsError := .done
  update : Outcome JsError := .done
  freshId : BatchId

def Attempt.choice (attempt : Attempt) (time : ℤ) : ScheduleOp → Choice
  | .findUnique _ => { outcome := attempt.find, time }
  | .creation (.createBatch _) => { outcome := attempt.create, freshId := attempt.freshId, time }
  | .update .. => { outcome := attempt.update, time }
  | _ => { time }

/-- The world, and the number of the attempt under way, which counts from one. -/
structure Run where
  attempt : Nat := 0
  world : World

def Run.attemptOf (run : Run) : ScheduleOp → Nat
  | .findUnique _ => run.attempt + 1
  | _ => run.attempt

/-- The calls fail as the pattern says; the time is free. -/
def patternSemantics (pattern : Nat → Attempt) : Semantics scheduleInterface Run ℤ where
  act i op time run :=
    (scheduleSemantics.act i op ((pattern (run.attemptOf op)).choice time op) run.world).map
      (fun (reply, world) => (reply, { attempt := run.attemptOf op, world }))

def Attempt.inserts (attempt : Attempt) : Bool :=
  attempt.find = .done && !attempt.create.isFailed

/-- A call of an attempt fails, or its answer is lost. -/
def Attempt.throws (attempt : Attempt) : Bool :=
  !(attempt.find = .done && attempt.create = .done && attempt.update = .done)

/-- No attempt whose insert takes effect comes after another such one, all attempts before it having
thrown.
-/
def SingleInsert (pattern : Nat → Attempt) : Prop :=
  ∀ first second, 1 ≤ first → first < second → second ≤ 3 →
    (∀ attempt, 1 ≤ attempt → attempt < second → (pattern attempt).throws = true) →
    (pattern first).inserts = true → (pattern second).inserts = false

-- Schedules that can be triggered

def totalAccepted (dep : Deployment) (total : ℚ) : Bool :=
  dep.decimal.toText total = "" || (dep.decimal.parse (dep.decimal.toText total)).toOption
    = some total

/-- The amounts of a schedule and their total are decimals. -/
def accepts (dep : Deployment) (amountConfig : List AmountConfigItem) : Bool :=
  match amountConfig.mapM (fun item => dep.decimal.parse item.amount) with
  | .error _ => false
  | .ok amounts => totalAccepted dep amounts.sum

def World.activeConfig (w : World) (id : ScheduleId) : Option (List AmountConfigItem) :=
  ((w.schedules.lookup id).filter (fun schedule => schedule.status = .active)).map (·.amountConfig)

/-- The schedule is active, and its amounts are accepted. -/
def World.triggers (w : World) (dep : Deployment) (id : ScheduleId) : Bool :=
  (w.activeConfig id).any (accepts dep)

def World.batchCount (w : World) : Nat :=
  w.batches.batches.keys.length

-- createSalaryBatch for a schedule

def insertBatch (row : BatchRow) : Prog scheduleInterface CreateSalaryBatchResult := do
  let id ← perform (.creation (.createBatch row))
  perform (.creation (.setImmediate id))
  return { batchId := id, status := .pending }

section

variable {dep : Deployment} {schedule : SalarySchedule} {amounts : List ℚ} {total : ℚ}

theorem parses_batchParams
    : (batchParams dep schedule amounts).items.mapM (fun item => dep.decimal.parse item.amount)
      = schedule.amountConfig.mapM (fun item => dep.decimal.parse item.amount) := by
  rw [batchParams, List.mapM_map]
  rfl

theorem ensure_of_true {I : Interface} {check : Bool} {error : I.Err} (h : check = true)
    : (ensure check error : Prog I Unit) = return () := by
  rw [h]
  rfl

theorem ensure_of_false {I : Interface} {check : Bool} {error : I.Err} (h : check = false)
    : (ensure check error : Prog I Unit) = fail error := by
  rw [h]
  rfl

theorem checkTotal_cases
    : totalAccepted dep total = true
        ∧ Salary.checkTotal dep.decimal (some (dep.decimal.toText total)) total = (return ())
      ∨ totalAccepted dep total = false
        ∧ ∃ error, Salary.checkTotal dep.decimal (some (dep.decimal.toText total)) total
          = fail error := by
  unfold totalAccepted Salary.checkTotal
  generalize dep.decimal.toText total = text
  by_cases blank : text = ""
  · subst blank
    exact .inl ⟨rfl, rfl⟩
  · have kept : (some text).filter (fun total => total ≠ "") = some text := by
      simp [Option.filter, blank]
    rw [kept]
    simp only [decide_eq_false blank, Bool.false_or]
    cases dep.decimal.parse text with
    | error error => exact .inr ⟨rfl, error, rfl⟩
    | ok again =>
        by_cases same : again = total
        · exact .inl ⟨by simp [Except.toOption, same], ensure_of_true (decide_eq_true same)⟩
        · exact .inr ⟨by simp [Except.toOption, same], _, ensure_of_false (decide_eq_false same)⟩

/-- The rest of `createSalaryBatch` once there is no batch under a key and the amounts are known. -/
def checkedInsert (dep : Deployment) (total : ℚ) (row : BatchRow)
    : Prog Salary.creationInterface CreateSalaryBatchResult := do
  Salary.checkTotal dep.decimal (some (dep.decimal.toText total)) total
  let id ← Salary.send (.createBatch row)
  Salary.send (.setImmediate id)
  return { batchId := id, status := .pending }

theorem create_eq_checkedInsert
    (parsed : schedule.amountConfig.mapM (fun item => dep.decimal.parse item.amount) = .ok amounts)
    : createSalaryBatch dep.decimal (batchParams dep schedule amounts)
      = checkedInsert dep amounts.sum ((batchParams dep schedule amounts).row amounts) := by
  have again : (batchParams dep schedule amounts).items.mapM
    (fun item => dep.decimal.parse item.amount)
      = .ok amounts :=
    parses_batchParams.trans parsed
  change fromExcept _ >>= _ = _
  rw [again]
  rfl

theorem create_cases
    (parsed : schedule.amountConfig.mapM (fun item => dep.decimal.parse item.amount) = .ok amounts)
    : totalAccepted dep amounts.sum = true
        ∧ (createSalaryBatch dep.decimal (batchParams dep schedule amounts)).within creationCalls
          = insertBatch ((batchParams dep schedule amounts).row amounts)
      ∨ totalAccepted dep amounts.sum = false
        ∧ ∃ error, (createSalaryBatch dep.decimal (batchParams dep schedule amounts)).within
          creationCalls
          = fail error := by
  rw [create_eq_checkedInsert parsed, checkedInsert]
  rcases checkTotal_cases with ⟨accepted, passed⟩ | ⟨refused, error, failed⟩
  · refine .inl ⟨accepted, ?_⟩
    rw [passed]
    refine congrArg (Prog.call (I := scheduleInterface) _) (funext fun reply => ?_)
    cases reply with
    | error => rfl
    | ok id =>
        exact congrArg (Prog.call (I := scheduleInterface) _)
          (funext fun reply => by cases reply <;> rfl)
  · refine .inr ⟨refused, error, ?_⟩
    rw [failed]
    rfl

end

-- The calls of an attempt

section

variable {pattern : Nat → Attempt} {dep : Deployment} {scheduleId : ScheduleId} {i : Nat} {time : ℤ}
  {run run' : Run}

theorem act_pattern {op : ScheduleOp} {reply : scheduleInterface.Reply op}
    (answered : (patternSemantics pattern).act i op time run = some (reply, run'))
    : run'.attempt = run.attemptOf op
      ∧ admissible op ((pattern (run.attemptOf op)).choice time op) run.world = true
      ∧ ((pattern (run.attemptOf op)).choice time op).outcome.answer
          (effect ((pattern (run.attemptOf op)).choice time op) run.world op) run.world
        = (reply, run'.world) := by
  obtain ⟨⟨told, world⟩, inner, same⟩ := Option.map_eq_some_iff.mp answered
  obtain ⟨rfl, rfl⟩ := Prod.mk.inj same
  exact ⟨rfl, Environment.act_eq_some inner⟩

theorem act_find {reply : Except JsError (Option SalarySchedule)}
    (answered : (patternSemantics pattern).act i (.findUnique scheduleId) time run
      = some (reply, run'))
    : run' = { attempt := run.attempt + 1, world := run.world }
      ∧ ((pattern run'.attempt).find = .done ∧ reply = .ok (run.world.schedules.lookup scheduleId)
        ∨ (pattern run'.attempt).find ≠ .done ∧ Except.isOk reply = false) := by
  obtain ⟨attempt, -, told⟩ := act_pattern answered
  obtain ⟨number, world⟩ := run'
  obtain rfl : number = run.attempt + 1 := attempt
  have told : (pattern (run.attempt + 1)).find.answer
    (.ok (run.world.schedules.lookup scheduleId), run.world)
      run.world = (reply, world) := told
  cases become : (pattern (run.attempt + 1)).find with
  | done =>
      rw [become] at told
      obtain ⟨rfl, rfl⟩ := Prod.mk.inj told
      exact ⟨rfl, .inl ⟨rfl, rfl⟩⟩
  | failed error | lost error =>
      rw [become] at told
      obtain ⟨rfl, rfl⟩ := Prod.mk.inj told
      exact ⟨rfl, .inr ⟨by simp, rfl⟩⟩

theorem act_create {row : BatchRow} {reply : Except JsError BatchId}
    (unkeyed : row.idempotencyKey = none)
    (answered : (patternSemantics pattern).act i (.creation (.createBatch row)) time run
      = some (reply, run'))
    : run'.attempt = run.attempt ∧ run'.world.schedules = run.world.schedules
      ∧ run'.world.batchCount
        = run.world.batchCount + (if (pattern run.attempt).create.isFailed then 0 else 1)
      ∧ (Except.isOk reply = true ↔ (pattern run.attempt).create = .done) := by
  obtain ⟨attempt, possible, told⟩ := act_pattern answered
  refine ⟨attempt, ?_⟩
  have fresh : (pattern run.attempt).freshId ∉ run.world.batches.batches :=
    of_decide_eq_true possible
  have told : (pattern run.attempt).create.answer
      (.ok (pattern run.attempt).freshId, { run.world with batches := { run.world.batches with
        batches := run.world.batches.batches.insert (pattern run.attempt).freshId row } }) run.world
      = (reply, run'.world) := by
    rw [← told]
    simp only [Run.attemptOf, Attempt.choice, effect, Salary.creationEffect, BatchWorld.create,
      unkeyed]
    rfl
  have counted : (run.world.batches.batches.insert (pattern run.attempt).freshId row).keys.length
      = run.world.batchCount + 1 := by
    rw [AList.keys_insert, List.erase_of_not_mem fresh]
    rfl
  have succeeded := Outcome.isOk_answer told
  rcases Outcome.answer_cases told with ⟨failed, left⟩ | ⟨kept, left⟩
  · rw [failed, left]
    exact ⟨rfl, rfl, succeeded⟩
  · rw [kept, left]
    exact ⟨rfl, counted, succeeded⟩

theorem act_update {data : ScheduleUpdate} {reply : Except JsError Unit}
    (there : (run.world.schedules.lookup scheduleId).isSome = true)
    (answered : (patternSemantics pattern).act i (.update scheduleId data) time run
      = some (reply, run'))
    : run'.attempt = run.attempt
      ∧ run'.world.activeConfig scheduleId = run.world.activeConfig scheduleId
      ∧ run'.world.batchCount = run.world.batchCount
      ∧ (Except.isOk reply = true ↔ (pattern run.attempt).update = .done) := by
  obtain ⟨attempt, -, told⟩ := act_pattern answered
  refine ⟨attempt, ?_⟩
  obtain ⟨schedule, found⟩ := Option.isSome_iff_exists.mp there
  have told : (pattern run.attempt).update.answer
      (.ok (), { run.world with
        schedules := run.world.schedules.insert scheduleId (schedule.apply data) }) run.world
      = (reply, run'.world) := by
    rw [← told]
    simp only [Run.attemptOf, Attempt.choice, effect, World.updateSchedule, found]
  have kept : ({ run.world with
      schedules := run.world.schedules.insert scheduleId (schedule.apply data) }
        : World).activeConfig scheduleId
      = run.world.activeConfig scheduleId := by
    simp only [World.activeConfig, AList.lookup_insert, found]
    by_cases active : schedule.status = .active
    · simp [Option.filter, SalarySchedule.apply, active]
    · simp [Option.filter, SalarySchedule.apply, active]
  have succeeded := Outcome.isOk_answer told
  rcases Outcome.answer_world told with left | left
  · rw [left]
    exact ⟨rfl, rfl, succeeded⟩
  · rw [left]
    exact ⟨kept, rfl, succeeded⟩

theorem act_setImmediate {id : BatchId} {reply : Except JsError Unit}
    (answered : (patternSemantics pattern).act i (.creation (.setImmediate id)) time run
      = some (reply, run'))
    : run'.attempt = run.attempt ∧ run'.world.schedules = run.world.schedules
      ∧ run'.world.batchCount = run.world.batchCount ∧ Except.isOk reply = true := by
  obtain ⟨attempt, -, told⟩ := act_pattern answered
  obtain ⟨rfl, left⟩ := Prod.mk.inj told
  rw [← left]
  exact ⟨attempt, rfl, rfl, rfl⟩

theorem act_now {reply : Except JsError ℤ}
    (answered : (patternSemantics pattern).act i .now time run = some (reply, run'))
    : run' = run ∧ Except.isOk reply = true := by
  obtain ⟨attempt, -, told⟩ := act_pattern answered
  obtain ⟨rfl, left⟩ := Prod.mk.inj told
  obtain ⟨number, world⟩ := run'
  obtain rfl : number = run.attempt := attempt
  obtain rfl : run.world = world := left
  exact ⟨rfl, rfl⟩

theorem wlp_insertBatch {row : BatchRow} (unkeyed : row.idempotencyKey = none)
    : (patternSemantics pattern).wlp i (insertBatch row) run
        (fun _ run' => run'.attempt = run.attempt ∧ run'.world.schedules = run.world.schedules
          ∧ run'.world.batchCount = run.world.batchCount + 1 ∧ (pattern run.attempt).create = .done)
        (fun _ run' => run'.attempt = run.attempt ∧ run'.world.schedules = run.world.schedules
          ∧ run'.world.batchCount
            = run.world.batchCount + (if (pattern run.attempt).create.isFailed then 0 else 1)
          ∧ (pattern run.attempt).create ≠ .done) := by
  unfold insertBatch
  refine Semantics.wlp_bind.mpr (Semantics.wlp_await.mpr ⟨fun time id later answered => ?_, ?_⟩)
  · obtain ⟨attempt, schedules, counted, succeeded⟩ := act_create unkeyed answered
    have done := succeeded.mp rfl
    rw [done] at counted
    refine Semantics.wlp_bind.mpr (Semantics.wlp_await.mpr ⟨fun time value last answered => ?_, ?_⟩)
    · obtain ⟨attempt', schedules', counted', -⟩ := act_setImmediate answered
      exact ⟨attempt'.trans attempt, schedules'.trans schedules, counted'.trans counted, done⟩
    · intro time error last answered
      exact absurd (act_setImmediate answered).2.2.2 nofun
  · intro time error later answered
    obtain ⟨attempt, schedules, counted, succeeded⟩ := act_create unkeyed answered
    exact ⟨attempt, schedules, counted, fun done => absurd (succeeded.mpr done) nofun⟩

/-- What an attempt has done, and whether it ended without an error. -/
structure Attempted (pattern : Nat → Attempt) (dep : Deployment) (scheduleId : ScheduleId)
    (run run' : Run)
    (ok : Bool)
    : Prop where
  attempt : run'.attempt = run.attempt + 1
  triggers : run'.world.triggers dep scheduleId = run.world.triggers dep scheduleId
  batches : run'.world.batchCount = run.world.batchCount
    + (if run.world.triggers dep scheduleId && (pattern (run.attempt + 1)).inserts then 1 else 0)
  ended : run.world.triggers dep scheduleId = true → ok = !(pattern (run.attempt + 1)).throws

theorem Attempted.idle {ok : Bool} (idle : run.world.triggers dep scheduleId = false)
    : Attempted pattern dep scheduleId run { attempt := run.attempt + 1, world := run.world } ok :=
  ⟨rfl, rfl, by simp [idle], by simp [idle]⟩

theorem activeConfig_of_found {w : World} {schedule : SalarySchedule}
    (found : (w.schedules.lookup scheduleId).filter (fun schedule => schedule.status = .active)
      = some schedule)
    : w.activeConfig scheduleId = some schedule.amountConfig := by
  rw [World.activeConfig, found]
  rfl

theorem wlp_advance {schedule : SalarySchedule} {inserted : Run}
    (found : (run.world.schedules.lookup scheduleId).filter
      (fun schedule => schedule.status = .active)
      = some schedule)
    (read : (pattern (run.attempt + 1)).find = .done)
    (triggers : run.world.triggers dep scheduleId = true)
    (attempt : inserted.attempt = run.attempt + 1)
    (schedules : inserted.world.schedules = run.world.schedules)
    (counted : inserted.world.batchCount = run.world.batchCount + 1)
    (created : (pattern (run.attempt + 1)).create = .done)
    : (patternSemantics pattern).wlp i
        (do
          let instant ← perform .now
          let lastRunAt ← perform .now
          perform (.update scheduleId
            { lastRunAt := some lastRunAt, nextRunAt := nextRun dep schedule.cron instant }))
        inserted
        (fun _ run' => Attempted pattern dep scheduleId run run' true)
        (fun _ run' => Attempted pattern dep scheduleId run run' false) := by
  have there : (inserted.world.schedules.lookup scheduleId).isSome = true := by
    rw [schedules, (Option.filter_eq_some_iff.mp found).1]
    rfl
  have inserts : (pattern (run.attempt + 1)).inserts = true := by
    simp [Attempt.inserts, read, created]; rfl
  refine Semantics.wlp_bind.mpr (Semantics.wlp_await.mpr
    ⟨fun time instant later answered => ?_, ?_⟩)
  · obtain rfl := (act_now answered).1
    refine Semantics.wlp_bind.mpr (Semantics.wlp_await.mpr
      ⟨fun time lastRunAt later answered => ?_, ?_⟩)
    · obtain rfl := (act_now answered).1
      refine Semantics.wlp_await.mpr ⟨fun time value last answered => ?_,
        fun time error last answered => ?_⟩
      · obtain ⟨same, config, batches, succeeded⟩ := act_update there answered
        refine ⟨same.trans attempt, ?_, ?_, fun _ => ?_⟩
        · rw [World.triggers, config, World.triggers, World.activeConfig, World.activeConfig,
            schedules]
        · rw [batches, counted, triggers, inserts]
          rfl
        · rw [attempt] at succeeded
          simp [Attempt.throws, read, created, succeeded.mp rfl]
      · obtain ⟨same, config, batches, succeeded⟩ := act_update there answered
        refine ⟨same.trans attempt, ?_, ?_, fun _ => ?_⟩
        · rw [World.triggers, config, World.triggers, World.activeConfig, World.activeConfig,
            schedules]
        · rw [batches, counted, triggers, inserts]
          rfl
        · have failed : (pattern (run.attempt + 1)).update ≠ .done := by
            intro done
            rw [← attempt] at done
            exact absurd (succeeded.mpr done) nofun
          simp [Attempt.throws, failed]
    · intro time error later answered
      exact absurd (act_now answered).2 nofun
  · intro time error later answered
    exact absurd (act_now answered).2 nofun

theorem wlp_runSchedule {schedule : SalarySchedule}
    (found : (run.world.schedules.lookup scheduleId).filter
      (fun schedule => schedule.status = .active)
      = some schedule)
    (read : (pattern (run.attempt + 1)).find = .done)
    : (patternSemantics pattern).wlp i (runSchedule dep scheduleId schedule)
        { attempt := run.attempt + 1, world := run.world }
        (fun _ run' => Attempted pattern dep scheduleId run run' true)
        (fun _ run' => Attempted pattern dep scheduleId run run' false) := by
  have config := activeConfig_of_found found
  unfold runSchedule
  refine Semantics.wlp_bind.mpr (Semantics.wlp_fromExcept.mpr
    ⟨fun amounts parsed => ?_, fun error refused => ?_⟩)
  · have accepted : run.world.triggers dep scheduleId = totalAccepted dep amounts.sum := by
      rw [World.triggers, config, Option.any_some, accepts, parsed]
    rcases create_cases parsed with ⟨total, creates⟩ | ⟨total, error, fails⟩
    · have triggers : run.world.triggers dep scheduleId = true := accepted.trans total
      rw [creates]
      refine Semantics.wlp_bind.mpr (Semantics.wlp_mono (wlp_insertBatch rfl) ?_ ?_)
      · rintro _ inserted ⟨attempt, schedules, counted, created⟩
        exact wlp_advance found read triggers attempt schedules counted created
      · rintro _ inserted ⟨attempt, schedules, counted, failed⟩
        refine ⟨attempt, by simp only [World.triggers, World.activeConfig, schedules], ?_, fun _ => ?_⟩
        · have counted : inserted.world.batchCount = run.world.batchCount
              + (if (pattern (run.attempt + 1)).create.isFailed then 0 else 1) := counted
          have inserts : (pattern (run.attempt + 1)).inserts
              = !(pattern (run.attempt + 1)).create.isFailed := by
            simp [Attempt.inserts, read]
          rw [counted, triggers, inserts]
          cases (pattern (run.attempt + 1)).create.isFailed <;> rfl
        · simp [Attempt.throws, failed]
    · rw [fails]
      exact .idle (accepted.trans total)
  · refine .idle ?_
    rw [World.triggers, config, Option.any_some, accepts, refused]

theorem wlp_trigger
    : (patternSemantics pattern).wlp i (triggerSchedule dep scheduleId) run
        (fun _ run' => Attempted pattern dep scheduleId run run' true)
        (fun _ run' => Attempted pattern dep scheduleId run run' false) := by
  unfold triggerSchedule
  refine Semantics.wlp_bind.mpr (Semantics.wlp_await.mpr ⟨fun time found later answered => ?_, ?_⟩)
  · obtain ⟨rfl, ⟨read, same⟩ | ⟨-, failed⟩⟩ := act_find answered
    · obtain rfl := Except.ok.inj same
      split
      · rename_i missing
        refine .idle ?_
        rw [World.triggers, World.activeConfig, missing]
        rfl
      · rename_i schedule found
        exact wlp_runSchedule found read
    · cases failed
  · intro time error later answered
    obtain ⟨rfl, ⟨-, absurd⟩ | ⟨unread, -⟩⟩ := act_find answered
    · cases absurd
    · have unread : (pattern (run.attempt + 1)).find ≠ .done := unread
      exact ⟨rfl, rfl, by simp [Attempt.inserts, unread], fun _ => by simp [Attempt.throws, unread]⟩

-- All attempts

def insertsFrom (pattern : Nat → Attempt) : (attempt left : Nat) → Nat
  | _, 0 => 0
  | attempt, left + 1 =>
      (if (pattern attempt).inserts then 1 else 0)
        + (if (pattern attempt).throws then insertsFrom pattern (attempt + 1) left else 0)

theorem wlp_retries {left : Nat} {lastError : JsError}
    : (patternSemantics pattern).wlp i (retryWithBackoff
        (triggerSchedule dep scheduleId) left lastError) run
        (fun _ run' => run'.world.batchCount = run.world.batchCount
          + (if run.world.triggers dep scheduleId then insertsFrom pattern
            (run.attempt + 1) left else 0))
        (fun _ run' => run'.world.batchCount = run.world.batchCount
          + (if run.world.triggers dep scheduleId then insertsFrom pattern
            (run.attempt + 1) left else 0)) := by
  induction left generalizing run lastError with
  | zero =>
      change run.world.batchCount = _
      simp [insertsFrom]
  | succ left ih =>
      refine Semantics.wlp_catchWith.mpr (Semantics.wlp_mono wlp_trigger ?_ ?_)
      · intro _ run' attempted
        rw [attempted.batches]
        cases triggers : run.world.triggers dep scheduleId with
        | false => simp
        | true =>
            have stopped : (pattern (run.attempt + 1)).throws = false := by
              have := attempted.ended triggers
              simpa using this
            simp [insertsFrom, stopped]
      · intro error run' attempted
        refine Semantics.wlp_mono ih ?_ ?_
        all_goals
          intro _ last counted
          rw [counted, attempted.batches, attempted.triggers, attempted.attempt]
          cases triggers : run.world.triggers dep scheduleId with
          | false => simp
          | true =>
              have threw : (pattern (run.attempt + 1)).throws = true := by
                have := attempted.ended triggers
                simpa using this
              simp [insertsFrom, threw, Nat.add_assoc]

end

theorem singleInsert_iff {pattern : Nat → Attempt}
    : SingleInsert pattern
      ↔ ((pattern 1).throws = true → (pattern 1).inserts = true → (pattern 2).inserts = false)
        ∧ ((pattern 1).throws = true → (pattern 2).throws = true →
            ((pattern 1).inserts = true → (pattern 3).inserts = false)
            ∧ ((pattern 2).inserts = true → (pattern 3).inserts = false)) := by
  constructor
  · intro single
    refine ⟨fun first => ?_, fun first second => ⟨?_, ?_⟩⟩
    · refine single 1 2 (by decide) (by decide) (by decide) fun attempt positive before => ?_
      obtain rfl : attempt = 1 := by omega
      exact first
    all_goals
      refine single _ 3 (by decide) (by decide) (by decide) fun attempt positive before => ?_
      obtain rfl | rfl : attempt = 1 ∨ attempt = 2 := by omega
      · exact first
      · exact second
  · rintro ⟨two, three⟩ first second positive before last threw inserts
    have one := threw 1 (by omega) (by omega)
    obtain rfl | rfl : second = 2 ∨ second = 3 := by omega
    · obtain rfl : first = 1 := by omega
      exact two one inserts
    · have other := threw 2 (by omega) (by omega)
      obtain rfl | rfl : first = 1 ∨ first = 2 := by omega
      · exact (three one other).1 inserts
      · exact (three one other).2 inserts

theorem insertsFrom_le_one {pattern : Nat → Attempt}
    : insertsFrom pattern 1 3 ≤ 1 ↔ SingleInsert pattern := by
  rw [singleInsert_iff]
  simp only [insertsFrom]
  cases (pattern 1).throws <;> cases (pattern 2).throws <;> cases (pattern 1).inserts <;>
    cases (pattern 2).inserts <;> cases (pattern 3).inserts <;> simp

/-- A run of three attempts inserts at most one batch, exactly if the schedule is not triggered at
all or no insert of an attempt takes effect after that of another one.
-/
theorem retried_trigger_single (dep : Deployment) (pattern : Nat → Attempt)
    (scheduleId : ScheduleId) (w : World)
    (result : Except JsError Unit) (run' : Run)
    (evaluates : (triggerWithRetries dep scheduleId).Evaluates (patternSemantics pattern) 0
      { world := w } result
      run')
    : run'.world.batchCount ≤ w.batchCount + 1
        ↔ w.triggers dep scheduleId = true → SingleInsert pattern := by
  have counted : run'.world.batchCount = w.batchCount
      + (if w.triggers dep scheduleId then insertsFrom pattern 1 3 else 0) :=
    Semantics.wlp_world (R := fun run' => run'.world.batchCount = w.batchCount
      + (if w.triggers dep scheduleId then insertsFrom pattern 1 3 else 0)) wlp_retries evaluates
  rw [counted, ← insertsFrom_le_one]
  cases w.triggers dep scheduleId with
  | false => simp
  | true => simp

-- Sample runs

def batchIds : Nat → BatchId
  | 1 => "b1"
  | 2 => "b2"
  | _ => "b3"

/-- The first update of the schedule fails, and no call after it. -/
def failedUpdate (attempt : Nat) : Attempt where
  update := if attempt = 1 then .failed (.error "timeout") else .done
  freshId := batchIds attempt

/-- The first read of the schedule fails, and no call after it. -/
def failedRead (attempt : Nat) : Attempt where
  find := if attempt = 1 then .failed (.error "timeout") else .done
  freshId := batchIds attempt

def endOf (pattern : Nat → Attempt) (calls : Nat) : Run :=
  Prog.after (patternSemantics pattern) 0 (List.replicate calls 0)
    (triggerWithRetries sampleDeployment "schedule")
    { world := sampleWorld }

/-- A schedule that could not be read at first inserts one batch. -/
theorem retried_trigger_single_read
    : SingleInsert failedRead
      ∧ ∃ run', (triggerWithRetries sampleDeployment "schedule").Evaluates
        (patternSemantics failedRead) 0
          { world := sampleWorld } (.ok ()) run'
        ∧ run'.world.batchCount ≤ sampleWorld.batchCount + 1 := by
  have single : SingleInsert failedRead := insertsFrom_le_one.mp (by decide +kernel)
  have evaluates : (triggerWithRetries sampleDeployment "schedule").Evaluates
    (patternSemantics failedRead) 0
      { world := sampleWorld } (.ok ()) (endOf failedRead 7) :=
    Prog.evaluates_after (by decide +kernel)
  exact ⟨single, _, evaluates, (retried_trigger_single _ _ _ _ _ _ evaluates).mpr fun _ => single⟩

/-- A schedule whose update failed after its batch was inserted inserts a second one. -/
theorem retried_trigger_inserts_twice
    : ∃ run', (triggerWithRetries sampleDeployment "schedule").Evaluates
        (patternSemantics failedUpdate) 0
        { world := sampleWorld } (.ok ()) run'
      ∧ run'.world.batches.started = ["b2", "b1"]
      ∧ ¬ run'.world.batchCount ≤ sampleWorld.batchCount + 1 := by
  have evaluates : (triggerWithRetries sampleDeployment "schedule").Evaluates
    (patternSemantics failedUpdate) 0
      { world := sampleWorld } (.ok ()) (endOf failedUpdate 12) :=
    Prog.evaluates_after (by decide +kernel)
  exact ⟨_, evaluates, by decide +kernel, by decide +kernel⟩

end AcbuBackend.Schedules

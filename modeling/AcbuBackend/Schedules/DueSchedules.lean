import AcbuBackend.Schedules.SalarySchedules

/-! What a run of the salary schedule job triggers.
The function that is to compute the next run does not exist, and its error skips the schedule. So a
run triggers nothing and advances nothing, whatever pages it reads.
-/

namespace AcbuBackend.Schedules

open Effects Effects.Prog AcbuBackend.Runtime

abbrev JobConfig := Config scheduleInterface Unit World

def jobConfig (dep : Deployment) (w : World) : JobConfig :=
  .initial w [processSalarySchedules dep]

/-- No call to a database fails. -/
def NoFailure (_ : JobConfig) (_ : Nat) (x : Choice) : Prop :=
  x.outcome = .done

instance (c : JobConfig) (i : Nat) (x : Choice) : Decidable (NoFailure c i x) :=
  inferInstanceAs (Decidable (x.outcome = .done))

/-- Whether a call is the first one of `triggerSchedule` for the schedule. -/
def isTriggerOf (id : ScheduleId) (event : Event scheduleInterface) : Bool :=
  match event.op with
  | .findUnique id' => id' = id
  | _ => false

def triggerCount (c : JobConfig) (id : ScheduleId) : Nat :=
  (c.past 0).countP (isTriggerOf id)

/-- Every due schedule was triggered once and has its next run after the start, and no other was
triggered.
-/
structure Complete (schedules : ScheduleTable) (start : ℤ) (c : JobConfig) : Prop where
  once : ∀ id schedule, schedules.lookup id = some schedule → schedule.due start = true
    → triggerCount c id = 1
  only : ∀ id, (∀ schedule, schedules.lookup id = some schedule → schedule.due start = false) →
    triggerCount c id = 0
  advanced : ∀ id schedule, schedules.lookup id = some schedule → schedule.due start = true →
    ∃ left next, c.world.schedules.lookup id = some left ∧ left.nextRunAt = some next ∧ start < next

-- The calls of the job

/-- The calls of the lock, of the clock and for the pages. -/
def ReadsPages : ScheduleOp → Prop
  | .now | .lock _ | .findMany _ => True
  | .findUnique _ | .update .. | .creation _ => False

abbrev OnlyPages {α : Type} (prog : Prog scheduleInterface α) : Prop :=
  (Protocol.only ReadsPages).wp prog () (fun _ _ => True) (fun _ _ => True)

theorem processSchedule_eq (dep : Deployment) (id : ScheduleId) (schedule : SalarySchedule)
    : processSchedule dep id schedule = return () :=
  rfl

theorem onlyPages_page (dep : Deployment) {page : List (ScheduleId × SalarySchedule)}
    {cursor : Cursor}
    : OnlyPages (processPage dep page cursor) := by
  induction page generalizing cursor with
  | nil => trivial
  | cons entry rest ih =>
      obtain ⟨id, schedule⟩ := entry
      rw [processPage, processSchedule_eq]
      exact ih

theorem onlyPages_pages (dep : Deployment) (now : ℤ) {pages : Nat} {cursor : Cursor}
    : OnlyPages (processPages dep now pages cursor) := by
  induction pages generalizing cursor with
  | zero => trivial
  | succ pages ih =>
      rw [processPages]
      refine Protocol.only_bind (Protocol.only_await trivial) fun dueSchedules => ?_
      refine Protocol.only_bind (onlyPages_page dep) fun cursor => ?_
      split
      · trivial
      · exact ih

theorem onlyPages_within {α : Type} (prog : Prog Jobs.lockInterface α)
    : OnlyPages (prog.within lockCalls) := by
  have any : (Protocol.only (fun _ : Jobs.LockOp => True)).wp prog () (fun _ _ => True)
      (fun _ _ => True) := by
    induction prog with
    | done value => trivial
    | fail error => trivial
    | call op next ih => exact fun reply => ⟨(), Protocol.only_next.mpr trivial, ih reply⟩
  exact Protocol.wp_mono (Protocol.only_within (fun _ _ => trivial) any) (fun _ _ _ => trivial)
    fun _ _ _ => trivial

theorem onlyPages_job (dep : Deployment) : OnlyPages (processSalarySchedules dep) := by
  unfold processSalarySchedules
  refine Protocol.only_bind (onlyPages_within _) fun acquired => ?_
  split
  · unfold finallyDo
    refine Protocol.only_bind (Protocol.only_catchWith ?_ fun _ => trivial) fun result => ?_
    · refine Protocol.only_bind (Protocol.only_bind (Protocol.only_await trivial)
        fun now => onlyPages_pages dep now) ?_
      exact fun _ => trivial
    · refine Protocol.only_bind (onlyPages_within _) fun _ => ?_
      cases result <;> trivial
  · trivial

-- Runs

abbrev Governed (c : JobConfig) : Prop :=
  (Protocol.only ReadsPages).Governs (fun _ => ()) (fun _ _ _ => True) (fun _ _ _ => True) c

variable {w : World} {c : JobConfig}

theorem mem_of_replay {past : List (Event scheduleInterface)} {phase : Unit}
    (replayed : (Protocol.only ReadsPages).replay () past = some phase)
    {event : Event scheduleInterface}
    (member : event ∈ past)
    : ReadsPages event.op := by
  induction past generalizing phase with
  | nil => cases member
  | cons last older ih =>
      obtain ⟨before, history, moved⟩ := Option.bind_eq_some_iff.mp replayed
      rcases List.mem_cons.mp member with rfl | earlier
      · exact Protocol.only_next.mp moved
      · exact ih history earlier

theorem triggerCount_eq_zero (governed : Governed c) (id : ScheduleId) : triggerCount c id = 0 := by
  refine List.countP_eq_zero.mpr fun event member triggered => ?_
  cases found : c.threads[0]? with
  | none => simp [Config.past, found] at member
  | some thread =>
      have same : c.past 0 = thread.past := by simp [Config.past, found]
      have reads := mem_of_replay (governed.phase_eq found).1 (same ▸ member)
      obtain ⟨op, reply⟩ := event
      cases op <;> first | exact reads | cases triggered

theorem schedules_of_act {i : Nat} {op : ScheduleOp} {x : Choice} {w w' : World}
    {reply : scheduleInterface.Reply op} (reads : ReadsPages op)
    (answered : scheduleSemantics.act i op x w = some (reply, w'))
    : w'.schedules = w.schedules := by
  obtain ⟨-, answered⟩ := Environment.act_eq_some answered
  rcases Outcome.answer_world answered with rfl | left
  · rfl
  · rw [left]
    cases op <;> first | rfl | exact reads.elim

/-- A run that meets no failure of a database is complete, whatever instant is its start, exactly if
no active schedule is due then.
-/
theorem job_complete_iff_nothing_due (dep : Deployment) (w : World) (start : ℤ) {c : JobConfig}
    (reached : Config.Reaches scheduleSemantics NoFailure (jobConfig dep w) c)
    : Complete w.schedules start c
      ↔ ∀ id schedule, w.schedules.lookup id = some schedule → schedule.due start = false := by
  have governed : Governed (jobConfig dep w) := by
    refine Protocol.governs_initial fun i prog found => ?_
    obtain rfl := List.mem_singleton.mp (List.mem_of_getElem? found)
    exact onlyPages_job dep
  obtain ⟨governed, kept⟩ := governed.invariant
    (J := fun c => c.world.schedules = w.schedules) rfl (by
    intro c c' i x governed kept _ stepped
    obtain ⟨op, reply, -, -, answered, moved, -⟩ := governed.step_cases stepped
    exact (schedules_of_act (Protocol.only_next.mp moved) answered).trans kept) reached
  constructor
  · intro complete id schedule found
    by_contra due
    have once := complete.once id schedule found (Bool.eq_true_of_not_eq_false due)
    rw [triggerCount_eq_zero governed] at once
    cases once
  · intro nothing
    refine ⟨fun id schedule found due => ?_, fun id _ => triggerCount_eq_zero governed id,
      fun id schedule found due => ?_⟩
    · rw [nothing id schedule found] at due
      cases due
    · rw [nothing id schedule found] at due
      cases due

/-- The answers to a job that reads this page at time ten. -/
def jobAnswers (rows : List ScheduleId) : List (Nat × Choice) :=
  [(0, {}), (0, {}), (0, { time := 10 }), (0, { rows }), (0, {})]

/-- A table with one schedule that is inactive and one that is due later. -/
def quietSchedules : ScheduleTable :=
  (AList.singleton "paused" { sampleSchedule with status := .other "inactive" }).insert "later"
    { sampleSchedule with nextRunAt := some 20 }

/-- A run at time ten that finds nothing due. -/
theorem job_complete_iff_nothing_due_quiet
    : ∃ c, c.live 0 = false ∧ Complete quietSchedules 10 c := by
  have executed :
      ((jobConfig sampleDeployment { sampleWorld with schedules := quietSchedules }).run
        scheduleSemantics NoFailure (jobAnswers [])).map (fun c => c.live 0) = some false := by
    decide +kernel
  obtain ⟨c, reached, ended⟩ := Config.reaches_of_run executed
  refine ⟨c, ended, (job_complete_iff_nothing_due sampleDeployment
    { sampleWorld with schedules := quietSchedules } 10 reached).mpr fun id schedule found => ?_⟩
  have quiet : ∀ entry ∈ quietSchedules.entries, entry.2.due 10 = false := by decide
  exact quiet ⟨id, schedule⟩ (AList.mem_lookup_iff.mp found)

/-- A run that finds one schedule due does not trigger it. -/
theorem due_schedule_not_triggered
    : ∃ c, Config.Reaches scheduleSemantics NoFailure (jobConfig sampleDeployment sampleWorld) c
      ∧ c.value? 0 = some ()
      ∧ sampleSchedule.due 10 = true
      ∧ triggerCount c "schedule" = 0
      ∧ (c.world.schedules.lookup "schedule").bind SalarySchedule.nextRunAt = some 0
      ∧ ¬ Complete sampleWorld.schedules 10 c := by
  have executed :
      ((jobConfig sampleDeployment sampleWorld).run scheduleSemantics NoFailure
        (jobAnswers ["schedule"])).map
        (fun c => (c.value? 0, triggerCount c "schedule",
          (c.world.schedules.lookup "schedule").bind SalarySchedule.nextRunAt))
            = some (some (), 0, some 0) := by
    decide +kernel
  obtain ⟨c, reached, known⟩ := Config.reaches_of_run executed
  obtain ⟨ended, known⟩ := Prod.mk.inj known
  obtain ⟨count, kept⟩ := Prod.mk.inj known
  refine ⟨c, reached, ended, by decide, count, kept, fun complete => ?_⟩
  have once := complete.once "schedule" sampleSchedule (by decide +kernel) (by decide)
  rw [count] at once
  cases once

end AcbuBackend.Schedules

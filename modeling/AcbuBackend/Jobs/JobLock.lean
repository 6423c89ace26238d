import AcbuBackend.Effects.Outcome
import AcbuBackend.Runtime.Errors

/-! The lock of the scheduled jobs, and the mutual exclusion of the instances that hold it.
The thread of the database deletes expired documents. An instance holds a lock from the answer that
grants it until its time to live has elapsed or it has released it. A release deletes the document
of whoever holds the lock.
-/

namespace AcbuBackend.Jobs

open Effects AcbuBackend.Runtime

/-- A document of `job_locks`, under its `jobName`. -/
structure JobLock where
  acquiredAt : Nat
  expiresAt : Nat

/-- `findOneAndUpdate` inserts a document under a name that has none, and answers with the one
that was there before.
-/
inductive LockOp
  | now
  | findOneAndUpdate (jobName : String) (inserted : JobLock)
  | deleteOne (jobName : String)

abbrev LockOp.Ret : LockOp → Type
  | .now => Nat
  | .findOneAndUpdate .. => Option JobLock
  | .deleteOne _ => Unit

abbrev lockInterface : Interface where
  Op := LockOp
  Ret := LockOp.Ret
  Err := JsError

abbrev lockCall (op : LockOp) : Prog lockInterface op.Ret :=
  Prog.await (I := lockInterface) op

/-- `acquireJobLock`. A duplicate key is another instance that won; any other error lets the job
run without the lock.
-/
def acquireJobLock (jobName : String) (ttlSeconds : Nat) : Prog lockInterface Bool :=
  Prog.catchWith
    (do
      let now ← lockCall .now
      let result ← lockCall (.findOneAndUpdate jobName
        { acquiredAt := now, expiresAt := now + ttlSeconds * 1000 })
      return result.isNone)
    (fun error => return error ≠ .uniqueConstraint)

def releaseJobLock (jobName : String) : Prog lockInterface Unit :=
  Prog.swallow (lockCall (.deleteOne jobName))

-- The locks

structure LockWorld where
  clock : Nat
  locks : String → Option JobLock

/-- When a call takes place, whether it does, and whether the expired documents were deleted
before it.
-/
structure LockChoice where
  time : Nat
  outcome : Outcome JsError := .done
  swept : Bool := false

/-- The locks when a call takes place. -/
def LockWorld.at (w : LockWorld) (x : LockChoice) : LockWorld where
  clock := x.time
  locks jobName := (w.locks jobName).filter (fun lock => !x.swept || x.time < lock.expiresAt)

/-- What a call answers, and the locks it leaves. -/
def lockEffect (w : LockWorld) : (op : LockOp) → Except JsError op.Ret × LockWorld
  | .now => (.ok w.clock, w)
  | .findOneAndUpdate jobName inserted =>
      (.ok (w.locks jobName), { w with
        locks := fun other =>
          if other = jobName then some ((w.locks jobName).getD inserted) else w.locks other })
  | .deleteOne jobName =>
      (.ok (), { w with locks := fun other => if other = jobName then none else w.locks other })

/-- Time does not go back, and reading it does not fail. -/
def lockAdmissible (op : LockOp) (x : LockChoice) (w : LockWorld) : Bool :=
  w.clock ≤ x.time
  && match op with
    | .now => !x.outcome.isLost && !x.outcome.isFailed
    | _ => true

def lockEnvironment : Environment lockInterface LockWorld LockChoice where
  outcome := LockChoice.outcome
  effect := fun x w op => lockEffect (w.at x) op
  admissible := lockAdmissible

def lockSemantics : Semantics lockInterface LockWorld LockChoice :=
  lockEnvironment.semantics

-- Instances

/-- What an instance may do with the lock of a job. -/
inductive LockCommand
  | acquire (jobName : String) (ttlSeconds : Nat)
  | release (jobName : String)

def LockCommand.prog : LockCommand → Prog lockInterface Unit
  | .acquire jobName ttlSeconds => do
      let _ ← acquireJobLock jobName ttlSeconds
      return ()
  | .release jobName => releaseJobLock jobName

def instanceProg : List LockCommand → Prog lockInterface Unit
  | [] => .done ()
  | command :: rest => do
      command.prog
      instanceProg rest

abbrev LockConfig := Config lockInterface Unit LockWorld

/-- The instances before their first step. -/
def lockInstances (instances : List (List LockCommand)) (w : LockWorld) : LockConfig :=
  .initial w (instances.map instanceProg)

-- Holding the lock

/-- Until when an instance was granted the lock and has not released it. -/
def heldAfter (jobName : String) (held : Option Nat)
    : (op : LockOp) → lockInterface.Reply op → Option Nat
  | .findOneAndUpdate other inserted, .ok none =>
      if other = jobName then some inserted.expiresAt else held
  | .deleteOne other, .ok _ => if other = jobName then none else held
  | _, _ => held

theorem heldAfter_of_ne {jobName other : String} {held : Option Nat} {inserted : JobLock}
    {reply : Except JsError (Option JobLock)} (different : other ≠ jobName)
    : heldAfter jobName held (.findOneAndUpdate other inserted) reply = held := by
  rcases reply with error | (_ | lock)
  · rfl
  · exact if_neg different
  · rfl

def lockProtocol (jobName : String) : Protocol lockInterface (Option Nat) where
  next held op reply := some (heldAfter jobName held op reply)

/-- Until when instance `i` was granted the lock. -/
def heldUntil (jobName : String) (c : LockConfig) (i : Nat) : Option Nat :=
  (lockProtocol jobName).phase (fun _ => none) c i

/-- An unreleased grant whose time to live has not elapsed at a time. -/
def holdsAt (held : Option Nat) (time : Nat) : Bool :=
  held.any (fun expiresAt => time < expiresAt)

/-- Instance `i` holds the lock of the job. -/
def Holds (jobName : String) (c : LockConfig) (i : Nat) : Prop :=
  holdsAt (heldUntil jobName c i) c.world.clock = true

/-- The database answers; it may answer that another instance won the insertion. -/
def Available (x : LockChoice) : Prop :=
  x.outcome = .done ∨ x.outcome = .failed .uniqueConstraint

def releases? : Option LockOp → Option String
  | some (.deleteOne jobName) => some jobName
  | _ => none

/-- The lock is released while no other instance holds it. -/
def ReleasedAlone (jobName : String) (c : LockConfig) (i : Nat) (x : LockChoice) : Prop :=
  releases? (c.pending? i) = some jobName →
    ∀ j < c.threads.length, j ≠ i → holdsAt (heldUntil jobName c j) x.time = false

/-- The steps with the database available, in which only an instance that alone may hold the lock
releases it.
-/
def OwnReleases (jobName : String) (c : LockConfig) (i : Nat) (x : LockChoice) : Prop :=
  Available x ∧ ReleasedAlone jobName c i x

instance (jobName : String) (c : LockConfig) (i : Nat) (x : LockChoice)
    : Decidable (OwnReleases jobName c i x) := by
  unfold OwnReleases Available ReleasedAlone
  exact inferInstance

instance (x : LockChoice) : Decidable (Available x) :=
  inferInstanceAs (Decidable (_ ∨ _))

/-- The lock is held by one instance at a time, and is there while it is held. -/
structure LockContract (jobName : String) (c : LockConfig) : Prop where
  exclusive : ∀ i j, Holds jobName c i → Holds jobName c j → i = j
  kept : ∀ i, Holds jobName c i → (c.world.locks jobName).isSome = true

-- The invariant

/-- One instance at a time holds the lock, and its document does not expire before the grant. -/
structure Guarded (jobName : String) (c : LockConfig) : Prop where
  exclusive : ∀ i j, Holds jobName c i → Holds jobName c j → i = j
  kept : ∀ i expiresAt, heldUntil jobName c i = some expiresAt → c.world.clock < expiresAt →
    ∃ lock, c.world.locks jobName = some lock ∧ expiresAt ≤ lock.expiresAt

section

variable {jobName : String} {c c' : LockConfig} {i : Nat} {x : LockChoice}

theorem lt_of_holds {time : Nat} (holds : holdsAt (heldUntil jobName c i) time = true)
    : i < c.threads.length := by
  by_contra outside
  have idle : heldUntil jobName c i = none := Protocol.phase_of_none _ (by simpa using outside)
  rw [idle] at holds
  cases holds

theorem holdsAt_mono {held : Option Nat} {time later : Nat} (ordered : time ≤ later)
    (holds : holdsAt held later = true)
    : holdsAt held time = true := by
  obtain ⟨expiresAt, granted, lasts⟩ := (Option.any_eq_true _ _).mp holds
  rw [granted]
  simp only [holdsAt, Option.any_some, decide_eq_true_eq] at lasts ⊢
  omega

theorem Guarded.found (h : Guarded jobName c) (ordered : c.world.clock ≤ x.time)
    (holds : holdsAt (heldUntil jobName c i) x.time = true)
    : ∃ lock, (c.world.at x).locks jobName = some lock ∧ c.world.locks jobName = some lock := by
  obtain ⟨expiresAt, granted, lasts⟩ := (Option.any_eq_true _ _).mp holds
  have lasts : x.time < expiresAt := of_decide_eq_true lasts
  obtain ⟨lock, there, later⟩ := h.kept i expiresAt granted (by omega)
  refine ⟨lock, ?_, there⟩
  have unexpired : x.time < lock.expiresAt := by omega
  simp [LockWorld.at, there, unexpired]

theorem governed_lockInstances {instances : List (List LockCommand)} {w : LockWorld}
    : (lockProtocol jobName).Governs (fun _ => none) (fun _ _ _ => True) (fun _ _ _ => True)
        (lockInstances instances w) :=
  Protocol.governs_initial fun _ _ _ =>
    Protocol.wp_of_total (fun _ => True) (fun _ _ _ _ => ⟨_, rfl, trivial⟩) trivial

theorem lock_act_cases {op : LockOp} {w w' : LockWorld} {reply : lockInterface.Reply op}
    (available : Available x) (h : lockSemantics.act i op x w = some (reply, w'))
    : w.clock ≤ x.time
      ∧ (reply = .error .uniqueConstraint ∧ w' = w ∨ lockEffect (w.at x) op = (reply, w')) := by
  obtain ⟨possible, answered⟩ := Environment.act_eq_some h
  have possible : lockAdmissible op x w = true := possible
  unfold lockAdmissible at possible
  rw [Bool.and_eq_true] at possible
  refine ⟨of_decide_eq_true possible.1, ?_⟩
  rcases available with done | failed
  · rw [show lockEnvironment.outcome x = .done from done] at answered
    exact .inr answered
  · rw [show lockEnvironment.outcome x = .failed .uniqueConstraint from failed] at answered
    exact .inl ⟨(congrArg Prod.fst answered).symm, (congrArg Prod.snd answered).symm⟩

theorem Guarded.later (h : Guarded jobName c) (ordered : c.world.clock ≤ x.time)
    (clock : c'.world.clock = x.time) (locks : c'.world.locks jobName
      = (c.world.at x).locks jobName)
    (held : ∀ j, heldUntil jobName c' j = heldUntil jobName c j)
    : Guarded jobName c' := by
  have before : ∀ j, Holds jobName c' j → Holds jobName c j := by
    intro j holds
    rw [Holds, held, clock] at holds
    exact holdsAt_mono ordered holds
  refine ⟨fun j l first second => h.exclusive j l (before j first) (before l second), ?_⟩
  intro j expiresAt granted lasts
  rw [held] at granted
  rw [clock] at lasts
  obtain ⟨lock, there, stored⟩ := h.found ordered (i := j) (by simp [granted, holdsAt, lasts])
  obtain ⟨lock', stored', later⟩ := h.kept j expiresAt granted (by omega)
  obtain rfl := Option.some.inj (stored.symm.trans stored')
  exact ⟨lock, locks.trans there, later⟩

theorem Guarded.granted {inserted : JobLock} (h : Guarded jobName c)
    (ordered : c.world.clock ≤ x.time)
    (free : (c.world.at x).locks jobName = none) (clock : c'.world.clock = x.time)
    (locks : c'.world.locks jobName = some inserted)
    (mine : heldUntil jobName c' i = some inserted.expiresAt)
    (others : ∀ j, j ≠ i → heldUntil jobName c' j = heldUntil jobName c j)
    : Guarded jobName c' := by
  have alone : ∀ j, Holds jobName c' j → j = i := by
    intro j holds
    by_contra different
    rw [Holds, others j different, clock] at holds
    obtain ⟨lock, there, -⟩ := h.found ordered holds
    rw [free] at there
    cases there
  refine ⟨fun j l first second => (alone j first).trans (alone l second).symm, ?_⟩
  intro j expiresAt granted lasts
  obtain rfl := alone j (by simp [Holds, holdsAt, granted, lasts])
  obtain rfl := Option.some.inj (mine.symm.trans granted)
  exact ⟨inserted, locks, Nat.le_refl _⟩

theorem Guarded.released (clock : c'.world.clock = x.time)
    (alone : ∀ j < c.threads.length, j ≠ i → holdsAt (heldUntil jobName c j) x.time = false)
    (mine : heldUntil jobName c' i = none)
    (others : ∀ j, j ≠ i → heldUntil jobName c' j = heldUntil jobName c j)
    : Guarded jobName c' := by
  have nobody : ∀ j, ¬ Holds jobName c' j := by
    intro j holds
    rw [Holds, clock] at holds
    by_cases same : j = i
    · rw [same, mine] at holds
      cases holds
    · rw [others j same] at holds
      rw [alone j (lt_of_holds holds) same] at holds
      cases holds
  refine ⟨fun j _ first _ => absurd first (nobody j), fun j expiresAt granted lasts => ?_⟩
  exact absurd (by simp [Holds, holdsAt, granted, lasts]) (nobody j)

theorem Guarded.step
    (governed : (lockProtocol jobName).Governs (fun _ => none) (fun _ _ _ => True)
      (fun _ _ _ => True) c)
    (h : Guarded jobName c) (allowed : OwnReleases jobName c i x)
    (stepped : c.step lockSemantics i x = some c')
    : Guarded jobName c' := by
  obtain ⟨op, reply, -, asks, answered, moved, -, others, -⟩ := governed.step_cases stepped
  have mine : heldUntil jobName c' i = heldAfter jobName (heldUntil jobName c i) op reply :=
    (Option.some.inj moved).symm
  have others : ∀ j, j ≠ i → heldUntil jobName c' j = heldUntil jobName c j :=
    fun j different => (others j different).1
  -- a call that neither grants nor gives up the lock
  have kept : heldAfter jobName (heldUntil jobName c i) op reply = heldUntil jobName c i →
      ∀ j, heldUntil jobName c' j = heldUntil jobName c j := by
    intro same j
    by_cases self : j = i
    · rw [self, mine, same]
    · exact others j self
  obtain ⟨ordered, ⟨rfl, same⟩ | effective⟩ := lock_act_cases allowed.1 answered
  · have held := kept (by cases op <;> rfl)
    refine ⟨fun j l first second => h.exclusive j l ?_ ?_, fun j expiresAt granted lasts => ?_⟩
    · rwa [Holds, held, same] at first
    · rwa [Holds, held, same] at second
    · rw [same] at lasts ⊢
      exact h.kept j expiresAt ((held j).symm.trans granted) lasts
  · obtain ⟨rfl, world⟩ := Prod.mk.inj effective
    cases op with
    | now => exact h.later ordered (by rw [← world]; rfl) (by rw [← world]) (kept rfl)
    | findOneAndUpdate other inserted =>
        by_cases this : other = jobName
        · subst this
          cases free : (c.world.at x).locks other with
          | none =>
              have locks : c'.world.locks other = some inserted := by
                rw [← world]
                simp [free]
              have granted : heldUntil other c' i = some inserted.expiresAt := by
                rw [mine]
                simp [free, heldAfter]
              exact h.granted ordered free (by rw [← world]; rfl) locks granted others
          | some lock =>
              refine h.later ordered (by rw [← world]; rfl) ?_ (kept ?_)
              · rw [← world]
                simp [free]
              · simp [free, heldAfter]
        · refine h.later ordered (by rw [← world]; rfl) ?_ (kept ?_)
          · rw [← world]
            exact if_neg (Ne.symm this)
          · exact heldAfter_of_ne this
    | deleteOne other =>
        by_cases this : other = jobName
        · subst this
          exact .released (by rw [← world]; rfl) (allowed.2 (by rw [asks]; rfl))
            (mine.trans (if_pos rfl)) others
        · refine h.later ordered (by rw [← world]; rfl) ?_ (kept (if_neg this))
          rw [← world]
          exact if_neg (Ne.symm this)

end

/-- In every run in which the lock is only released while no other instance holds it, it is held by
one instance at a time, and never freed while it is held.
-/
theorem lock_excludes (jobName : String) (instances : List (List LockCommand)) (w : LockWorld)
    (c : LockConfig)
    (reached : Config.Reaches lockSemantics (OwnReleases jobName) (lockInstances instances w) c)
    : LockContract jobName c := by
  have idle : ∀ i, ¬ Holds jobName (lockInstances instances w) i := by
    intro i holds
    have none : heldUntil jobName (lockInstances instances w) i = none := Protocol.phase_initial _
    rw [Holds, none] at holds
    cases holds
  have base : Guarded jobName (lockInstances instances w) :=
    ⟨fun i _ first _ => absurd first (idle i), fun i expiresAt granted lasts =>
      absurd (by simp [Holds, holdsAt, granted, lasts]) (idle i)⟩
  obtain ⟨-, guarded⟩ := Protocol.Governs.invariant governed_lockInstances base
    (fun _ _ _ _ governed guarded allowed stepped => guarded.step governed allowed stepped) reached
  refine ⟨guarded.exclusive, fun i holds => ?_⟩
  obtain ⟨expiresAt, granted, lasts⟩ := (Option.any_eq_true _ _).mp holds
  obtain ⟨lock, there, -⟩ := guarded.kept i expiresAt granted (of_decide_eq_true lasts)
  rw [there]
  rfl

-- Runs of three instances

def noLocks : LockWorld where
  clock := 0
  locks := fun _ => none

/-- An instance that acquires the lock for a second and releases it, and two that acquire it. -/
def threeInstances : List (List LockCommand) :=
  [[.acquire "job" 1, .release "job"], [.acquire "job" 10], [.acquire "job" 10]]

/-- The expired documents are deleted before each of these calls. -/
def sweptCalls (calls : List (Nat × Nat)) : List (Nat × LockChoice) :=
  calls.map (fun (i, time) => (i, { time, swept := true }))

/-- The lock passes from an instance that has released it to the next one. -/
theorem lock_excludes_handover
    : ∃ c, Config.Reaches lockSemantics (OwnReleases "job") (lockInstances threeInstances noLocks) c
      ∧ Holds "job" c 1
      ∧ LockContract "job" c := by
  have executed :
      ((lockInstances threeInstances noLocks).run lockSemantics (OwnReleases "job")
        (sweptCalls [(0, 0), (0, 0), (0, 500), (1, 600), (1, 600)])).map
        (fun c => holdsAt (heldUntil "job" c 1) c.world.clock) = some true := by
    decide +kernel
  obtain ⟨c, reached, holds⟩ := Config.reaches_of_run executed
  exact ⟨c, reached, holds, lock_excludes "job" threeInstances noLocks c reached⟩

/-- A release after the time to live of the first instance frees the lock of the second one, and
a third one is granted it.
-/
theorem late_release_frees_lock
    : ∃ c, Config.Reaches lockSemantics (fun _ _ x => Available x)
        (lockInstances threeInstances noLocks) c
      ∧ Holds "job" c 1 ∧ Holds "job" c 2
      ∧ ¬ LockContract "job" c := by
  have executed :
      ((lockInstances threeInstances noLocks).run lockSemantics (fun _ _ x => Available x)
        (sweptCalls [(0, 0), (0, 0), (1, 2000), (1, 2000), (0, 3000), (2, 4000), (2, 4000)])).map
        (fun c => (holdsAt (heldUntil "job" c 1) c.world.clock,
          holdsAt (heldUntil "job" c 2) c.world.clock)) = some (true, true) := by
    decide +kernel
  obtain ⟨c, reached, values⟩ := Config.reaches_of_run executed
  obtain ⟨second, third⟩ := Prod.mk.inj values
  refine ⟨c, reached, second, third, fun contract => ?_⟩
  exact absurd (contract.exclusive 1 2 second third) (by decide)

end AcbuBackend.Jobs

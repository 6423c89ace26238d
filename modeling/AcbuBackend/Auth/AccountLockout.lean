import AcbuBackend.Auth.AttemptProtocol
import AcbuBackend.Effects.Exclusive
import AcbuBackend.Runtime.Lockout

/-! The counter of an account as a lockout counter.
Where the attempts on an account read it one at a time and their wrong guesses are counted, every
step of the calls is a step of the counter.
-/

namespace AcbuBackend.Auth

open Effects AcbuBackend.Runtime Challenge
open AcbuBackend.Runtime.Lockout (Open Pending)

-- What calls do to accounts

section

variable {i : Nat} {op : AuthOp} {x : Choice} {w w' : World} {reply : authInterface.Reply op}
    {id : UserId}

theorem account_of_act {user : User} (h : authSemantics.act i op x w = some (reply, w'))
    (read : account? ⟨op, reply⟩ = some (id, user))
    : w.users.lookup id = some user := by
  cases op with
  | findUserBy kind value =>
      cases reply with
      | error _ => cases read
      | ok found =>
          obtain ⟨-, answered⟩ := auth_act_ok h
          have found : w.userBy kind value = some (id, user) :=
            (Except.ok.inj (congrArg Prod.fst answered)).trans read
          obtain ⟨entry, first, same⟩ := Option.map_eq_some_iff.mp found
          obtain ⟨rfl, rfl⟩ := Prod.mk.inj same
          exact AList.mem_lookup_iff.mpr (List.mem_of_find?_eq_some first)
  | findUser other =>
      cases reply with
      | error _ => cases read
      | ok found =>
          obtain ⟨-, answered⟩ := auth_act_ok h
          have stored : w.users.lookup other = found := Except.ok.inj (congrArg Prod.fst answered)
          obtain ⟨user', there, same⟩ := Option.map_eq_some_iff.mp read
          obtain ⟨rfl, rfl⟩ := Prod.mk.inj same
          exact stored.trans there
  | _ => cases read

theorem written_of_act {failedSigninAttempts : Nat} {lockoutUntil : Option Nat}
    {answer : Except JsError Unit} {user : User}
    (h : authSemantics.act i (.updateUser id failedSigninAttempts lockoutUntil) x w
      = some (answer, w'))
    (there : w.users.lookup id = some user) (takesEffect : x.outcome.isFailed = false)
    : w'.users.lookup id = some { user with failedSigninAttempts, lockoutUntil } := by
  obtain ⟨-, ⟨failed, -⟩ | ⟨-, rfl⟩⟩ := auth_act_cases h
  · rw [takesEffect] at failed
    cases failed
  · simp [effect, World.updateUser, World.atTime, there]

/-- A write leaves the other accounts. -/
theorem unwritten_of_act {other : UserId} {failedSigninAttempts : Nat} {lockoutUntil : Option Nat}
    {answer : Except JsError Unit}
    (h : authSemantics.act i (.updateUser other failedSigninAttempts lockoutUntil) x w
      = some (answer, w'))
    (apart : other ≠ id)
    : w'.users.lookup id = w.users.lookup id := by
  obtain ⟨-, ⟨-, rfl⟩ | ⟨-, rfl⟩⟩ := auth_act_cases h
  · rfl
  · simp only [effect, World.updateUser]
    split
    · rfl
    · exact AList.lookup_insert_ne apart.symm

end

-- Runs of attempts

abbrev AttemptConfig := Config authInterface SigninResult World

/-- The attempts before their first step. -/
def attemptCalls (config : AuthConfig) (attempts : List Attempt) (w : World) : AttemptConfig :=
  .initial w (attempts.map (Attempt.program config))

/-- How far attempt `i` has come. -/
def attemptStage (config : AuthConfig) (c : AttemptConfig) (i : Nat) : AttemptStage :=
  (attemptProtocol config).phase (fun _ => .start) c i

def readsAccount (w : World) : AuthOp → Option UserId
  | .findUserBy kind value => (w.userBy kind value).map Prod.fst
  | .findUser id => some id
  | _ => none

/-- An attempt reads the account while no other one is at work on it. -/
def ReadAlone (config : AuthConfig) (id : UserId) (c : AttemptConfig) (i : Nat) : Prop :=
  attemptStage config c i = .start → (c.pending? i).bind (readsAccount c.world) = some id →
    (attemptProtocol config).Alone (fun _ => .start) AttemptStage.worksOn c i id

instance {config : AuthConfig} {id : UserId} {c : AttemptConfig} {i : Nat}
    : Decidable (ReadAlone config id c i) :=
  inferInstanceAs (Decidable (_ → _ → _))

/-- The attempt has a wrong guess on the account to count. -/
def AttemptStage.owesFor (stage : AttemptStage) (id : UserId) : Prop :=
  stage.worksOn id ∧ stage.owes = true

instance {stage : AttemptStage} {id : UserId} : Decidable (stage.owesFor id) :=
  inferInstanceAs (Decidable (_ ∧ _))

/-- The count of a wrong guess takes effect. -/
def Counted (config : AuthConfig) (id : UserId) (c : AttemptConfig) (i : Nat) (x : Choice) : Prop :=
  (attemptStage config c i).owesFor id → x.outcome.isFailed = false

instance {config : AuthConfig} {id : UserId} {c : AttemptConfig} {i : Nat} {x : Choice}
    : Decidable (Counted config id c i x) :=
  inferInstanceAs (Decidable (_ → _))

/-- The attempts keep to their stages. -/
abbrev Attempts (config : AuthConfig) (c : AttemptConfig) : Prop :=
  (attemptProtocol config).Governs (fun _ => .start) (fun _ _ stage => stage.owes = false)
    (fun _ _ stage => stage.owes = false) c

theorem attempts_attemptCalls {config : AuthConfig} {attempts : List Attempt} {w : World}
    : Attempts config (attemptCalls config attempts w) := by
  refine Protocol.governs_initial fun i prog member => ?_
  rw [List.getElem?_map, Option.map_eq_some_iff] at member
  obtain ⟨attempt, -, rfl⟩ := member
  exact endsPaid_program

theorem live_of_owes {config : AuthConfig} {c : AttemptConfig} {i : Nat}
    (governed : Attempts config c)
    (owes : (attemptStage config c i).owes = true)
    : c.live i = true := by
  by_contra ended
  rw [Bool.not_eq_true] at ended
  have bound : i < c.threads.length := by
    by_contra outside
    have absent : c.threads[i]? = none := by simpa using outside
    rw [attemptStage, Protocol.phase_of_none _ absent] at owes
    cases owes
  rcases Config.ended_cases bound ended with ⟨value, finished⟩ | ⟨error, failed⟩
  · exact Bool.noConfusion (owes.symm.trans (governed.value finished))
  · exact Bool.noConfusion (owes.symm.trans (governed.error failed))

-- The counter of an account

/-- What an attempt at work on the account knows of its counter. -/
def Known (s : Lockout.State) (id : UserId) : AttemptStage → Prop
  | .start | .settled => True
  | .locked other attempts lockedUntil =>
      other = id → s.attempts = attempts ∧ s.lockedUntil = some lockedUntil ∧ s.pending = .none
  | .admitted other attempts =>
      other = id → s.attempts = attempts ∧ Open s.lockedUntil s.clock ∧ s.pending = .none
  | .wrong other attempts => other = id → s.attempts = attempts ∧ s.pending = .guessed
  | .timed other attempts time => other = id → s.attempts = attempts ∧ s.pending = .stamped time
  | .right other => other = id → Open s.lockedUntil s.clock ∧ s.pending = .none

theorem known_of_apart {s : Lockout.State} {id : UserId} {stage : AttemptStage}
    (apart : ¬ stage.worksOn id)
    : Known s id stage := by
  cases stage with
  | start | settled => trivial
  | _ => exact fun same => absurd same apart

theorem Known.wait {s : Lockout.State} {id : UserId} {stage : AttemptStage} {clock : Nat}
    (h : Known s id stage) (later : s.clock ≤ clock)
    : Known { s with clock } id stage := by
  cases stage with
  | start | settled => trivial
  | locked _ _ _ | wrong _ _ | timed _ _ _ => exact h
  | admitted _ _ =>
      intro same
      obtain ⟨attempts, isOpen, idle⟩ := h same
      exact ⟨attempts, isOpen.mono later, idle⟩
  | right _ =>
      intro same
      obtain ⟨isOpen, idle⟩ := h same
      exact ⟨isOpen.mono later, idle⟩

/-- A configuration and the counter of an account: the row holds the counter, the logged guesses
are among the guesses, one attempt at a time is at work on the account, and it knows the counter.
-/
structure Represents (config : AuthConfig) (id : UserId) (log : World → List Nat)
    (c : AttemptConfig)
    (s : Lockout.State)
    : Prop where
  row : ∃ user, c.world.users.lookup id = some user
    ∧ user.failedSigninAttempts = s.attempts
    ∧ user.lockoutUntil = s.lockedUntil
  logged : (log c.world).Sublist s.guesses
  clock : s.clock = c.world.clock
  single : ∀ i j, c.live i = true → c.live j = true → (attemptStage config c i).worksOn id →
    (attemptStage config c j).worksOn id → i = j
  known : ∀ i, c.live i = true → Known s id (attemptStage config c i)
  owed : s.pending ≠ .none → ∃ i, (attemptStage config c i).owesFor id

/-- What a step does to a log of guesses on an account: a wrong guess may be added, and a reset
clears it.
-/
structure LogStep (log : World → List Nat) (id : UserId) (event : Event authInterface) (x : Choice)
    (w w' : World)
    : Prop where
  wrong : verdict? event = some (id, .ok false) → (log w').Sublist (w'.clock :: log w)
  other : verdict? event ≠ some (id, .ok false) → (log w').Sublist (log w)
  reset : ∀ lockoutUntil, event.op = .updateUser id 0 lockoutUntil → x.outcome.isFailed = false →
    log w' = []

section

variable {config : AuthConfig} {id : UserId} {log : World → List Nat} {c c' : AttemptConfig}
    {i : Nat}
  {s s' : Lockout.State}

theorem Represents.advance (h : Represents config id log c s) (live : c.live i = true)
    (others : ∀ j, j ≠ i → attemptStage config c' j = attemptStage config c j
      ∧ c'.live j = c.live j)
    (row : ∃ user, c'.world.users.lookup id = some user
      ∧ user.failedSigninAttempts = s'.attempts
      ∧ user.lockoutUntil = s'.lockedUntil)
    (logged : (log c'.world).Sublist s'.guesses) (clock : s'.clock = c'.world.clock)
    (entered : (attemptStage config c' i).worksOn id →
      (attemptStage config c i).worksOn id
      ∨ (attemptProtocol config).Alone (fun _ => .start) AttemptStage.worksOn c i id)
    (mine : Known s' id (attemptStage config c' i))
    (theirs : (∀ stage, Known s id stage → Known s' id stage)
      ∨ (attemptStage config c i).worksOn id)
    (owed : s'.pending ≠ .none → ∃ j, (attemptStage config c' j).owesFor id)
    : Represents config id log c' s' := by
  have excludes : (attemptStage config c' i).worksOn id → ∀ j, j ≠ i → c.live j = true →
      ¬ (attemptStage config c j).worksOn id := by
    intro working j other liveJ theirs
    rcases entered working with before | alone
    · exact other (h.single j i liveJ live theirs before)
    · exact alone j (Config.lt_of_live liveJ) other liveJ theirs
  refine ⟨row, logged, clock, ?_, ?_, owed⟩
  · intro j l liveJ liveL first second
    by_cases mineJ : j = i
    · subst mineJ
      by_contra different
      have other := others l (Ne.symm different)
      rw [other.1] at second
      exact excludes first l (Ne.symm different) (other.2.symm.trans liveL) second
    · by_cases mineL : l = i
      · subst mineL
        rw [(others j mineJ).1] at first
        exact absurd first (excludes second j mineJ ((others j mineJ).2.symm.trans liveJ))
      · rw [(others j mineJ).1] at first
        rw [(others l mineL).1] at second
        exact h.single j l ((others j mineJ).2.symm.trans liveJ)
          ((others l mineL).2.symm.trans liveL) first second
  · intro j liveJ
    by_cases mineJ : j = i
    · subst mineJ
      exact mine
    · obtain ⟨same, sameLive⟩ := others j mineJ
      rw [same]
      have liveJ := sameLive.symm.trans liveJ
      rcases theirs with kept | working
      · exact kept _ (h.known j liveJ)
      · exact known_of_apart fun theirs => mineJ (h.single j i liveJ live theirs working)

theorem Represents.wait (h : Represents config id log c s) (live : c.live i = true)
    (others : ∀ j, j ≠ i → attemptStage config c' j = attemptStage config c j
      ∧ c'.live j = c.live j)
    (later : c.world.clock ≤ c'.world.clock)
    (row : c'.world.users.lookup id = c.world.users.lookup id)
    (logged : (log c'.world).Sublist (log c.world))
    (entered : (attemptStage config c' i).worksOn id →
      (attemptStage config c i).worksOn id
      ∨ (attemptProtocol config).Alone (fun _ => .start) AttemptStage.worksOn c i id)
    (mine : Known { s with clock := c'.world.clock } id (attemptStage config c' i))
    (owing : (attemptStage config c i).owesFor id → (attemptStage config c' i).owesFor id)
    : ∃ s', Lockout.Steps config.maxSigninAttempts config.signinLockoutDurationMs s s'
        ∧ Represents config id log c' s' := by
  have later : s.clock ≤ c'.world.clock := h.clock.trans_le later
  refine ⟨{ s with clock := c'.world.clock }, .single (.wait later), ?_⟩
  refine h.advance live others (row ▸ h.row) (logged.trans h.logged) rfl entered mine
    (.inl fun stage known => known.wait later) fun pending => ?_
  obtain ⟨j, owes⟩ := h.owed pending
  by_cases mineJ : j = i
  · subst mineJ
    exact ⟨j, owing owes⟩
  · exact ⟨j, (others j mineJ).1 ▸ owes⟩

theorem Represents.idle (governed : Attempts config c) (h : Represents config id log c s)
    (alone : (attemptProtocol config).Alone (fun _ => .start) AttemptStage.worksOn c i id)
    (start : attemptStage config c i = .start)
    : s.pending = .none := by
  by_contra pending
  obtain ⟨j, working, owes⟩ := h.owed pending
  by_cases mine : j = i
  · subst mine
    rw [start] at owes
    cases owes
  · have live := live_of_owes governed owes
    exact alone j (Config.lt_of_live live) mine live working

theorem known_afterRead {user : User} (attempts : user.failedSigninAttempts = s.attempts)
    (lock : user.lockoutUntil = s.lockedUntil) (idle : s.pending = .none) {other : UserId}
    : Known s id (.afterRead other user) := by
  unfold AttemptStage.afterRead
  split
  · rename_i unlocked
    refine fun _ => ⟨attempts.symm, fun until' member => ?_, idle⟩
    rw [← lock, unlocked] at member
    cases member
  · rename_i lockedUntil locked
    exact fun _ => ⟨attempts.symm, lock ▸ locked, idle⟩

theorem worksOn_afterRead {user : User} {other : UserId}
    (h : (AttemptStage.afterRead other user).worksOn id)
    : other = id := by
  unfold AttemptStage.afterRead at h
  split at h
  · exact h
  · exact h

theorem open_of_mayWrite {stage : AttemptStage} {failedSigninAttempts : Nat}
    {lockoutUntil : Option Nat}
    {m D : Nat} (sound : Lockout.Sound m D s) (known : Known s id stage)
    (allowed : stage.mayWrite config id failedSigninAttempts lockoutUntil = true)
    : Open s.lockedUntil s.clock := by
  cases stage with
  | start | settled | locked _ _ _ => cases allowed
  | wrong _ _ | timed _ _ _ =>
      simp only [AttemptStage.mayWrite, decide_eq_true_eq] at allowed
      exact sound.isOpen (by rw [(known allowed.1).2]; simp)
  | right _ =>
      simp only [AttemptStage.mayWrite, decide_eq_true_eq] at allowed
      exact (known allowed.1).1
  | admitted _ _ =>
      simp only [AttemptStage.mayWrite, decide_eq_true_eq] at allowed
      exact (known allowed.1).2.1

theorem idle_of_reset {stage : AttemptStage} {lockoutUntil : Option Nat} (known : Known s id stage)
    (allowed : stage.mayWrite config id 0 lockoutUntil = true)
    : s.pending = .none := by
  cases stage with
  | start | settled | locked _ _ _ => cases allowed
  | wrong _ _ | timed _ _ _ =>
      simp only [AttemptStage.mayWrite, decide_eq_true_eq] at allowed
      exact absurd allowed.2.1 (by omega)
  | right _ =>
      simp only [AttemptStage.mayWrite, decide_eq_true_eq] at allowed
      exact (known allowed.1).2
  | admitted _ _ =>
      simp only [AttemptStage.mayWrite, decide_eq_true_eq] at allowed
      exact (known allowed.1).2.2

theorem readsAccount_of_act {op : AuthOp} {reply : authInterface.Reply op} {x : Choice}
    {w w' : World}
    {user : User} (h : authSemantics.act i op x w = some (reply, w'))
    (read : account? ⟨op, reply⟩ = some (id, user))
    : readsAccount w op = some id := by
  cases op with
  | findUserBy kind value =>
      cases reply with
      | error _ => cases read
      | ok found =>
          obtain ⟨-, answered⟩ := auth_act_ok h
          have found : w.userBy kind value = some (id, user) :=
            (Except.ok.inj (congrArg Prod.fst answered)).trans read
          exact congrArg (Option.map Prod.fst) found
  | findUser other =>
      cases reply with
      | error _ => cases read
      | ok found =>
          obtain ⟨user', -, same⟩ := Option.map_eq_some_iff.mp read
          exact congrArg some (Prod.mk.inj same).1
  | _ => cases read

theorem writesUser_of_verdict {event : Event authInterface} {verdict : UserId × Except JsError Bool}
    (compares : verdict? event = some verdict)
    : event.op.writesUser = none := by
  obtain ⟨op, reply⟩ := event
  cases op with
  | updateUser _ _ _ => cases compares
  | _ => rfl

theorem Represents.compared {event : Event authInterface} {x : Choice} {attempts : Nat}
    {reply : Except JsError Bool} (h : Represents config id log c s) (live : c.live i = true)
    (others : ∀ j, j ≠ i → attemptStage config c' j = attemptStage config c j
      ∧ c'.live j = c.live j)
    (later : c.world.clock ≤ c'.world.clock)
    (row : c'.world.users.lookup id = c.world.users.lookup id)
    (logs : LogStep log id event x c.world c'.world)
    (admitted : attemptStage config c i = .admitted id attempts)
    (compares : verdict? event = some (id, reply))
    (reaches : attemptStage config c' i = .afterComparison id attempts reply)
    : ∃ s', Lockout.Steps config.maxSigninAttempts config.signinLockoutDurationMs s s'
        ∧ Represents config id log c' s' := by
  have working : (attemptStage config c i).worksOn id := by
    rw [admitted]
    exact rfl
  have paid : ¬ (attemptStage config c i).owesFor id := by
    rw [admitted]
    rintro ⟨-, ⟨⟩⟩
  have known : Known s id (.admitted id attempts) := admitted ▸ h.known i live
  obtain ⟨counter, isOpen, idle⟩ := known rfl
  have laterS : s.clock ≤ c'.world.clock := h.clock.trans_le later
  rcases reply with error | agrees
  · refine h.wait live others later row (logs.other ?_) (fun _ => .inl working) ?_
      (fun owes => absurd owes paid)
    · rw [compares]
      simp
    · rw [reaches]
      trivial
  · cases agrees with
    | true =>
        refine h.wait live others later row (logs.other ?_) (fun _ => .inl working) ?_
          (fun owes => absurd owes paid)
        · rw [compares]
          simp
        · rw [reaches]
          exact fun _ => ⟨isOpen.mono laterS, idle⟩
    | false =>
        let waited : Lockout.State := { s with clock := c'.world.clock }
        have guesses : Lockout.Step config.maxSigninAttempts config.signinLockoutDurationMs waited
            { waited with guesses := waited.clock :: waited.guesses, pending := .guessed } :=
          .guess idle (isOpen.mono laterS)
        refine ⟨_, .tail (.single (.wait laterS)) guesses, ?_⟩
        refine h.advance live others (row ▸ h.row) ?_ rfl (fun _ => .inl working) ?_
          (.inr working) ?_
        · exact (logs.wrong compares).trans (h.logged.cons_cons _)
        · rw [reaches]
          exact fun _ => ⟨counter, rfl⟩
        · exact fun _ => ⟨i, by rw [reaches]; exact ⟨rfl, rfl⟩⟩

theorem Represents.wrote {x : Choice} {failedSigninAttempts : Nat} {lockoutUntil : Option Nat}
    {reply : Except JsError Unit} (h : Represents config id log c s) (live : c.live i = true)
    (others : ∀ j, j ≠ i → attemptStage config c' j = attemptStage config c j
      ∧ c'.live j = c.live j)
    (later : c.world.clock ≤ c'.world.clock) (counted : Counted config id c i x)
    (answered : authSemantics.act i (.updateUser id failedSigninAttempts lockoutUntil) x c.world
      = some (reply, c'.world))
    (logs : LogStep log id ⟨.updateUser id failedSigninAttempts lockoutUntil, reply⟩ x c.world
      c'.world)
    (allowed : (attemptStage config c i).mayWrite config id failedSigninAttempts lockoutUntil
      = true)
    (reaches : attemptStage config c' i = .settled)
    : ∃ s', Lockout.Steps config.maxSigninAttempts config.signinLockoutDurationMs s s'
        ∧ Represents config id log c' s' := by
  have laterS : s.clock ≤ c'.world.clock := h.clock.trans_le later
  have known := h.known i live
  have leaves : ¬ (attemptStage config c' i).worksOn id := by
    rw [reaches]
    exact fun working => working
  have settled : ∀ t, Known t id (attemptStage config c' i) := by
    rw [reaches]
    exact fun _ => trivial
  have unlogged : (log c'.world).Sublist (log c.world) := logs.other (by simp [verdict?])
  obtain ⟨user, there, attempts, lock⟩ := h.row
  let waited : Lockout.State := { s with clock := c'.world.clock }
  -- a write that takes effect, with the state of the counter it leads to
  have advance : ∀ s' : Lockout.State,
      Lockout.Step config.maxSigninAttempts config.signinLockoutDurationMs waited s' →
      x.outcome.isFailed = false → s'.attempts = failedSigninAttempts
        → s'.lockedUntil = lockoutUntil →
      s'.pending = .none → s'.clock = c'.world.clock → (log c'.world).Sublist s'.guesses →
      (attemptStage config c i).worksOn id →
      ∃ s', Lockout.Steps config.maxSigninAttempts config.signinLockoutDurationMs s s'
        ∧ Represents config id log c' s' := by
    intro s' steps takesEffect counter locked idle clock logged working
    refine ⟨s', .tail (.single (.wait laterS)) steps, ?_⟩
    have written := written_of_act answered there takesEffect
    exact h.advance live others ⟨_, written, counter.symm, locked.symm⟩ logged clock
      (fun working => absurd working leaves) (settled s') (.inr working)
      (fun pending => absurd idle pending)
  have reset : s.pending = .none → Open s.lockedUntil s.clock → failedSigninAttempts = 0 →
      lockoutUntil = none → (attemptStage config c i).worksOn id →
      ¬ (attemptStage config c i).owesFor id →
      ∃ s', Lockout.Steps config.maxSigninAttempts config.signinLockoutDurationMs s s'
        ∧ Represents config id log c' s' := by
    intro idle isOpen zero unlocked working paid
    cases failed : x.outcome.isFailed with
    | true =>
        have same := world_of_failed failed answered
        exact h.wait live others later (by rw [same]) unlogged
          (fun working => absurd working leaves)
          (settled _) (fun owes => absurd owes paid)
    | false =>
        refine advance { waited with attempts := 0, lockedUntil := none, guesses := [] }
          (.reset idle (isOpen.mono laterS)) failed zero.symm unlocked.symm idle rfl ?_ working
        rw [logs.reset lockoutUntil (by rw [zero]) failed]
  cases stage : attemptStage config c i with
  | start | settled | locked _ _ _ =>
      rw [stage] at allowed
      cases allowed
  | wrong other before =>
      rw [stage] at allowed known
      simp only [AttemptStage.mayWrite, decide_eq_true_eq] at allowed
      obtain ⟨rfl, rfl, few, rfl⟩ := allowed
      obtain ⟨counter, guessed⟩ := known rfl
      have takesEffect := counted (by rw [stage]; exact ⟨rfl, rfl⟩)
      refine advance
        { waited with attempts := s.attempts + 1, lockedUntil := none, pending := .none }
        (.count guessed ?_) takesEffect ?_ rfl rfl rfl (unlogged.trans h.logged)
        (by rw [stage]; exact rfl)
      · change s.attempts + 1 < _
        omega
      · change s.attempts + 1 = _
        omega
  | timed other before time =>
      rw [stage] at allowed known
      simp only [AttemptStage.mayWrite, decide_eq_true_eq] at allowed
      obtain ⟨rfl, rfl, many, rfl⟩ := allowed
      obtain ⟨counter, stamped⟩ := known rfl
      have takesEffect := counted (by rw [stage]; exact ⟨rfl, rfl⟩)
      refine advance { waited with
          attempts := s.attempts + 1
          lockedUntil := some (time + config.signinLockoutDurationMs)
          pending := .none }
        (.lock stamped ?_) takesEffect ?_ rfl rfl rfl (unlogged.trans h.logged)
        (by rw [stage]; exact rfl)
      · change _ ≤ s.attempts + 1
        omega
      · change s.attempts + 1 = _
        omega
  | right other =>
      rw [stage] at allowed known
      simp only [AttemptStage.mayWrite, decide_eq_true_eq] at allowed
      obtain ⟨rfl, zero, unlocked⟩ := allowed
      obtain ⟨isOpen, idle⟩ := known rfl
      refine reset idle isOpen zero unlocked (by rw [stage]; exact rfl) ?_
      rw [stage]
      rintro ⟨-, ⟨⟩⟩
  | admitted other before =>
      rw [stage] at allowed known
      simp only [AttemptStage.mayWrite, decide_eq_true_eq] at allowed
      obtain ⟨rfl, zero, unlocked⟩ := allowed
      obtain ⟨-, isOpen, idle⟩ := known rfl
      refine reset idle isOpen zero unlocked (by rw [stage]; exact rfl) ?_
      rw [stage]
      rintro ⟨-, ⟨⟩⟩

/-- Every step of the attempts is a step of the counter, where the account is read by one attempt
at a time and wrong guesses are counted.
-/
theorem Represents.step {x : Choice} (governed : Attempts config c) (account : id ≠ "dummy-id")
    (h : Represents config id log c s) (alone : ReadAlone config id c i)
    (counted : Counted config id c i x) (stepped : c.step authSemantics i x = some c')
    (logs : ∀ op (reply : authInterface.Reply op), c.pending? i = some op →
      authSemantics.act i op x c.world = some (reply, c'.world) →
      LogStep log id ⟨op, reply⟩ x c.world c'.world)
    : ∃ s', Lockout.Steps config.maxSigninAttempts config.signinLockoutDurationMs s s'
        ∧ Represents config id log c' s' := by
  obtain ⟨op, reply, live, asks, answered, moved, -, elsewhere, -⟩ := governed.step_cases stepped
  have others : ∀ j, j ≠ i →
      attemptStage config c' j = attemptStage config c j ∧ c'.live j = c.live j :=
    fun j other => ⟨(elsewhere j other).1, (elsewhere j other).2.1⟩
  have later := (auth_clock_le answered).1
  have laterS : s.clock ≤ c'.world.clock := h.clock.trans_le later
  have logs := logs op reply asks answered
  have moves : AttemptMove config (attemptStage config c i) ⟨op, reply⟩
    (attemptStage config c' i) :=
    .of_next moved
  have kept : op.writesUser = none → c'.world.users.lookup id = c.world.users.lookup id :=
    fun writes => by rw [users_of_act writes answered]
  have known := h.known i live
  generalize before : attemptStage config c i = stage at moves known
  generalize reaches : attemptStage config c' i = stage' at moves
  -- a step that leaves the counter, and leads to a stage that knows it
  have wait : op.writesUser = none → verdict? ⟨op, reply⟩ ≠ some (id, .ok false) →
      (stage'.worksOn id → stage.worksOn id
        ∨ (attemptProtocol config).Alone (fun _ => .start) AttemptStage.worksOn c i id) →
      Known { s with clock := c'.world.clock } id stage' → (stage.owesFor id → stage'.owesFor id) →
      ∃ s', Lockout.Steps config.maxSigninAttempts config.signinLockoutDurationMs s s'
        ∧ Represents config id log c' s' := by
    intro writes compares entered mine owing
    exact h.wait live others later (kept writes) (logs.other compares) (before ▸ reaches ▸ entered)
      (reaches ▸ mine) (before ▸ reaches ▸ owing)
  cases moves with
  | other _ _ compares writes left =>
      refine wait writes (by rw [compares]; simp) ?_ ?_ ?_
      · rcases left with rfl | ⟨rfl, -⟩
        · exact fun working => .inl working
        · exact fun absurd => absurd.elim
      · rcases left with rfl | ⟨rfl, -⟩
        · exact known.wait laterS
        · trivial
      · rcases left with rfl | ⟨rfl, paid⟩
        · exact fun owes => owes
        · exact fun owes => Bool.noConfusion (owes.2.symm.trans paid)
  | clockFailed error => cases now_of_act answered
  | nobody _ compares writes start =>
      refine wait writes (by rw [compares]; simp) ?_ ?_ ?_
      · exact fun working => absurd working.symm account
      · exact known_of_apart fun working => account working.symm
      · rw [start]
        rintro ⟨-, ⟨⟩⟩
  | read _ other user compares writes start read =>
      have paid : ¬ stage.owesFor id := by
        rw [start]
        rintro ⟨-, ⟨⟩⟩
      by_cases mine : other = id
      · subst mine
        have alone := alone (before.trans start)
          (by rw [asks]; exact readsAccount_of_act answered read)
        have idle := h.idle governed alone (before.trans start)
        obtain ⟨stored, there, attempts, lock⟩ := h.row
        obtain rfl := Option.some.inj (there.symm.trans (account_of_act answered read))
        refine wait writes (by rw [compares]; simp) (fun _ => .inr alone) ?_
          (fun owes => absurd owes paid)
        exact (known_afterRead attempts lock idle).wait laterS
      · refine wait writes (by rw [compares]; simp) ?_ ?_ (fun owes => absurd owes paid)
        · exact fun working => absurd (worksOn_afterRead working) mine
        · exact known_of_apart fun working => mine (worksOn_afterRead working)
  | admitted other attempts lockedUntil time locked passed =>
      have clock : time = c'.world.clock := Except.ok.inj (now_of_act answered)
      rw [locked] at wait known
      refine wait rfl (by simp [verdict?]) (fun working => .inl working) ?_ ?_
      · intro mine
        obtain ⟨counter, lock, idle⟩ := known mine
        refine ⟨counter, fun until' member => ?_, idle⟩
        obtain rfl := Option.some.inj (lock.symm.trans member)
        exact clock ▸ passed
      · rintro ⟨-, ⟨⟩⟩
  | compared _ other attempts reply' admitted compares =>
      by_cases mine : other = id
      · subst mine
        exact h.compared live others later (kept (writesUser_of_verdict compares)) logs
          (before.trans admitted) compares reaches
      · rw [admitted] at wait
        refine wait (writesUser_of_verdict compares) ?_ ?_ ?_ ?_
        · rw [compares]
          exact fun same => mine (Prod.mk.inj (Option.some.inj same)).1
        · intro working
          rcases reply' with _ | agrees
          · exact working.elim
          · cases agrees <;> exact absurd working mine
        · refine known_of_apart fun working => ?_
          rcases reply' with _ | agrees
          · exact working
          · cases agrees <;> exact mine working
        · rintro ⟨-, ⟨⟩⟩
  | timed other attempts time wrong =>
      rw [wrong] at wait known
      by_cases mine : other = id
      · obtain ⟨counter, guessed⟩ := known mine
        have clock : time = c'.world.clock := Except.ok.inj (now_of_act answered)
        let waited : Lockout.State := { s with clock := c'.world.clock }
        have stamps : Lockout.Step config.maxSigninAttempts config.signinLockoutDurationMs waited
            { waited with pending := .stamped waited.clock } :=
          .stamp guessed
        have working : (attemptStage config c i).worksOn id := by
          rw [before, wrong]
          exact mine
        refine ⟨_, .tail (.single (.wait laterS)) stamps, ?_⟩
        refine h.advance live others (kept rfl ▸ h.row) ?_ rfl (fun _ => .inl working) ?_
          (.inr working) ?_
        · exact (logs.other (by simp [verdict?])).trans h.logged
        · rw [reaches]
          exact fun _ => ⟨counter, congrArg Pending.stamped clock.symm⟩
        · exact fun _ => ⟨i, by rw [reaches]; exact ⟨mine, rfl⟩⟩
      · refine wait rfl (by simp [verdict?]) ?_ ?_ ?_
        · exact fun working => absurd working mine
        · exact known_of_apart mine
        · exact fun owes => absurd owes.1 mine
  | wrote other failedSigninAttempts lockoutUntil reply allowed =>
      by_cases mine : other = id
      · subst mine
        exact h.wrote live others later counted answered logs
          (by rw [before]; exact allowed) reaches
      · have apart : ¬ stage.worksOn id := by
          cases stage with
          | start | settled | locked _ _ _ => cases allowed
          | wrong _ _ | timed _ _ _ | right _ | admitted _ _ =>
              simp only [AttemptStage.mayWrite, decide_eq_true_eq] at allowed
              exact fun working => mine (allowed.1.symm.trans working)
        exact h.wait live others later (unwritten_of_act answered mine)
          (logs.other (by simp [verdict?]))
          (fun working => by rw [reaches] at working; exact working.elim) (by rw [reaches]; trivial)
          (fun owes => absurd (before ▸ owes.1) apart)

end

def counterOf (user : User) (clock : Nat) : Lockout.State where
  attempts := user.failedSigninAttempts
  lockedUntil := user.lockoutUntil
  guesses := []
  pending := .none
  clock

/-- Where the steps of a run meet the conditions and its log follows them, the attempts represent a
sound counter.
-/
theorem represents_of_reaches {config : AuthConfig} {attempts : List Attempt} {w : World}
    {id : UserId}
    {log : World → List Nat} {user : User} {ok : AttemptConfig → Nat → Choice → Prop}
    {c : AttemptConfig}
    (positive : 0 < config.maxSigninAttempts) (account : id ≠ "dummy-id")
    (there : w.users.lookup id = some user) (unguessed : log w = [])
    (alone : ∀ c i x, ok c i x → ReadAlone config id c i)
    (counted : ∀ c i x, ok c i x → Counted config id c i x)
    (logs : ∀ (c c' : AttemptConfig) i x s op (reply : authInterface.Reply op), Attempts config c →
      Represents config id log c s →
      Lockout.Sound config.maxSigninAttempts config.signinLockoutDurationMs s →
      ok c i x → c.live i = true → c.pending? i = some op →
      authSemantics.act i op x c.world = some (reply, c'.world) →
      LogStep log id ⟨op, reply⟩ x c.world c'.world)
    (reached : Config.Reaches authSemantics ok (attemptCalls config attempts w) c)
    : Attempts config c
      ∧ ∃ s, Represents config id log c s
        ∧ Lockout.Sound config.maxSigninAttempts config.signinLockoutDurationMs s := by
  have base : ∃ s, Represents config id log (attemptCalls config attempts w) s
      ∧ Lockout.Sound config.maxSigninAttempts config.signinLockoutDurationMs s := by
    refine ⟨counterOf user w.clock, ?_, Lockout.sound_of_unguessed rfl rfl⟩
    constructor
    · exact ⟨user, there, rfl, rfl⟩
    · exact List.sublist_nil.mpr unguessed
    · rfl
    · simp [attemptStage, attemptCalls, AttemptStage.worksOn]
    · simp [attemptStage, attemptCalls, Known]
    · exact fun pending => absurd rfl pending
  refine attempts_attemptCalls.invariant
    (J := fun c => ∃ s, Represents config id log c s
      ∧ Lockout.Sound config.maxSigninAttempts config.signinLockoutDurationMs s) base ?_ reached
  rintro c c' i x governed ⟨s, h, sound⟩ allowed stepped
  obtain ⟨_, _, live, _, _, _, _, _, _⟩ := governed.step_cases stepped
  obtain ⟨s', steps, h'⟩ := h.step governed account (alone c i x allowed)
    (counted c i x allowed) stepped
    fun op reply asks answered =>
      logs c c' i x s op reply governed h sound allowed live asks answered
  exact ⟨s', h', sound.steps positive steps⟩

end AcbuBackend.Auth

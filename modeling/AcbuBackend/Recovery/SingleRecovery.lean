import AcbuBackend.Effects.Exclusive
import AcbuBackend.Recovery.OtpRecords

/-! How often a recovery code is compared, and how many keys it yields.
A verification looks its challenge up, counts the recorded attempts, compares, records, and only
then uses the challenge up, so verifications that overlap neither see each other's attempts nor
each other's success. Both bounds hold where a challenge is looked up before it expires and while
no other verification works on it, and where the attempt of every comparison is recorded.
-/

namespace AcbuBackend.Recovery

open Effects AcbuBackend.Runtime Challenge Auth

-- Runs

/-- A call of `verifyRecoveryOtp` in a server process. -/
structure RecoveryCall where
  process : ProcessId
  params : VerifyRecoveryOtpParams

abbrev RecoveryConfig := Config authInterface VerifyRecoveryOtpResult World

/-- The calls before their first step. -/
def recoveryCalls (config : AuthConfig) (calls : List RecoveryCall) (w : World) : RecoveryConfig :=
  .initial w (calls.map (fun call => verifyRecoveryOtp config call.process call.params))

/-- How far call `i` has come. -/
def recoveryStage (c : RecoveryConfig) (i : Nat) : RecoveryStage :=
  recoveryProtocol.phase (fun _ => .start) c i

/-- Call `i` has found a challenge. -/
def HasFound (c : RecoveryConfig) (challenge : ChallengeId) (i : Nat) : Prop :=
  ∃ filter row, ⟨.findChallenge filter, .ok (some (challenge, row))⟩ ∈ c.past i

/-- The challenge is found before it expires, and while no other verification works on it. -/
def FoundAlone (challenge : ChallengeId) (c : RecoveryConfig) (i : Nat) (x : Choice) : Prop :=
  match c.pending? i with
  | some (.findChallenge filter) =>
      ∀ found ∈ c.world.findChallenge filter, found.1 = challenge →
        x.time < found.2.expiresAt
        ∧ recoveryProtocol.Alone (fun _ => .start) RecoveryStage.worksOn c i challenge
  | _ => True

instance (challenge : ChallengeId) (c : RecoveryConfig) (i : Nat) (x : Choice)
    : Decidable (FoundAlone challenge c i x) := by
  unfold FoundAlone
  split
  · exact inferInstance
  · exact .isTrue trivial

/-- The attempt of a comparison with the challenge is recorded. -/
def Recorded (challenge : ChallengeId) (c : RecoveryConfig) (i : Nat) (x : Choice) : Prop :=
  (recoveryStage c i).owes = true → (recoveryStage c i).worksOn challenge →
    ∀ row, c.pending? i = some (.createAttempt row) → x.outcome.isFailed = false

def recordsAttempt : AuthOp → Bool
  | .createAttempt _ => true
  | _ => false

theorem recorded_iff {challenge : ChallengeId} {c : RecoveryConfig} {i : Nat} {x : Choice}
    : ((recoveryStage c i).owes = true → (recoveryStage c i).worksOn challenge →
        (c.pending? i).any recordsAttempt = true → x.outcome.isFailed = false)
      ↔ Recorded challenge c i x := by
  constructor
  · intro h owes works row asks
    exact h owes works (by rw [asks]; rfl)
  · intro h owes works records
    cases asks : c.pending? i with
    | none =>
        rw [asks] at records
        cases records
    | some op =>
        rw [asks] at records
        cases op with
        | createAttempt row => exact h owes works row asks
        | _ => cases records

instance (challenge : ChallengeId) (c : RecoveryConfig) (i : Nat) (x : Choice)
    : Decidable (Recorded challenge c i x) :=
  decidable_of_iff _ recorded_iff

/-- The steps of verifications that work on the challenge one at a time. -/
def OneAtATime (challenge : ChallengeId) (c : RecoveryConfig) (i : Nat) (x : Choice) : Prop :=
  FoundAlone challenge c i x ∧ Recorded challenge c i x

instance (challenge : ChallengeId) (c : RecoveryConfig) (i : Nat) (x : Choice)
    : Decidable (OneAtATime challenge c i x) :=
  inferInstanceAs (Decidable (_ ∧ _))

abbrev Governed (c : RecoveryConfig) : Prop :=
  recoveryProtocol.Governs (fun _ => .start) (fun _ _ stage => ∃ challenge, stage = .used challenge)
    (fun _ _ stage => stage.owes = false) c

theorem governed_recoveryCalls {config : AuthConfig} {calls : List RecoveryCall} {w : World}
    : Governed (recoveryCalls config calls w) := by
  refine Protocol.governs_initial fun i prog member => ?_
  rw [List.getElem?_map, Option.map_eq_some_iff] at member
  obtain ⟨call, -, rfl⟩ := member
  exact recovers_verifyRecoveryOtp

theorem Governed.live_of_owes {c : RecoveryConfig} (governed : Governed c) {i : Nat}
    (owes : (recoveryStage c i).owes = true)
    : c.live i = true := by
  by_contra stopped
  rw [Bool.not_eq_true] at stopped
  by_cases bound : i < c.threads.length
  · rcases Config.ended_cases bound stopped with ⟨value, finished⟩ | ⟨error, failed⟩
    · obtain ⟨challenge, used⟩ := governed.value finished
      rw [recoveryStage, used] at owes
      cases owes
    · exact Bool.noConfusion ((governed.error failed).symm.trans owes)
  · have absent : c.threads[i]? = none := by simpa using bound
    rw [recoveryStage, Protocol.phase_of_none _ absent] at owes
    cases owes

-- One verification at a time

/-- A challenge is worked on by one call at a time, and used up by one. -/
abbrev UsedOnce (c : RecoveryConfig) (challenge : ChallengeId) : Prop :=
  recoveryProtocol.Claimed (fun _ => .start) RecoveryStage.worksOn (fun stage k => stage = .used k)
    IsUsed c challenge

section

variable {c c' : RecoveryConfig} {i : Nat} {x : Choice} {op : AuthOp}
    {reply : authInterface.Reply op}
  {challenge : ChallengeId} {stage stage' : RecoveryStage}

theorem RecoveryMove.worksOn {event : Event authInterface} (move : RecoveryMove stage event stage')
    (working : stage'.worksOn challenge)
    : stage.worksOn challenge
      ∨ ∃ filter row, event = ⟨.findChallenge filter, .ok (some (challenge, row))⟩ := by
  cases move with
  | other _ _ _ left =>
      rcases left with rfl | ⟨rfl, -⟩
      · exact .inl working
      · exact working.elim
  | found filter other row _ =>
      obtain rfl : other = challenge := working
      exact .inr ⟨filter, row, rfl⟩
  | timed other userId time found =>
      subst found
      exact .inl working
  | admitted other userId time attempts timed _ =>
      subst timed
      exact .inl working
  | compared other userId id code hash admitted reply =>
      subst admitted
      cases reply with
      | error _ => exact working.elim
      | ok _ => exact .inl working
  | recorded other userId agrees row compared _ reply =>
      subst compared
      cases reply with
      | error _ => exact working.elim
      | ok _ =>
          cases agrees with
          | true => exact .inl working
          | false => exact working.elim
  | used other usedAt _ reply => cases reply <;> exact working.elim

theorem RecoveryMove.used_cases {event : Event authInterface}
    (move : RecoveryMove stage event stage')
    (used : stage' = .used challenge)
    : stage = .used challenge
      ∨ stage = .recorded challenge
        ∧ ∃ usedAt, event = ⟨.useChallenge challenge usedAt, .ok ()⟩ := by
  cases move with
  | other _ _ _ left =>
      rcases left with same | ⟨ended, -⟩
      · exact .inl (same.symm.trans used)
      · rw [ended] at used
        cases used
  | found _ _ _ _ | timed _ _ _ _ | admitted _ _ _ _ _ _ => cases used
  | compared _ _ _ _ _ _ reply => cases reply <;> cases used
  | recorded _ _ agrees _ _ _ reply =>
      cases reply with
      | error _ => cases used
      | ok _ => cases agrees <;> cases used
  | used other usedAt recorded reply =>
      cases reply with
      | error _ => cases used
      | ok _ =>
          obtain rfl : other = challenge := RecoveryStage.used.inj used
          exact .inr ⟨recorded, usedAt, rfl⟩

theorem FoundAlone.found {filter : ChallengeFilter} {row : OtpChallenge}
    (alone : FoundAlone challenge c i x)
    (asks : c.pending? i = some (.findChallenge filter))
    (found : c.world.findChallenge filter = some (challenge, row))
    : x.time < row.expiresAt
      ∧ recoveryProtocol.Alone (fun _ => .start) RecoveryStage.worksOn c i challenge := by
  unfold FoundAlone at alone
  rw [asks] at alone
  exact alone (challenge, row) found rfl

theorem UsedOnce.step (governed : Governed c) (h : UsedOnce c challenge)
    (alone : FoundAlone challenge c i x)
    (stepped : c.step authSemantics i x = some c')
    : UsedOnce c' challenge := by
  obtain ⟨op, reply, live, asks, answered, moved, -, others, -⟩ := governed.step_cases stepped
  have move : RecoveryMove (recoveryStage c i) ⟨op, reply⟩ (recoveryStage c' i) := .of_next moved
  refine Protocol.Claimed.step h live
    (fun j different => ⟨(others j different).1, (others j different).2.1⟩) ?_
  constructor
  · intro working
    rcases move.worksOn working with before | ⟨filter, row, event⟩
    · exact .inl before
    · obtain ⟨rfl, event⟩ := Event.mk.inj event
      obtain rfl := eq_of_heq event
      obtain ⟨found, stored, -, unused⟩ := found_of_act answered
      refine .inr ⟨?_, (alone.found asks found).2⟩
      rintro ⟨row', stored', used⟩
      obtain rfl := Option.some.inj (stored.symm.trans stored')
      rw [unused] at used
      cases used
  · intro used
    rcases move.used_cases used with before | ⟨recorded, usedAt, event⟩
    · exact .inl before
    · obtain ⟨rfl, event⟩ := Event.mk.inj event
      obtain rfl := eq_of_heq event
      refine .inr ⟨?_, used_of_act answered⟩
      rw [recoveryStage] at recorded
      rw [recorded]
      rfl
  · exact isUsed_of_act answered

end

-- The comparisons of a challenge

namespace RecoveryStage

/-- The user a stage works for, and that its time has passed. -/
def KnowsUser (stage : RecoveryStage) (challenge : ChallengeId) (userId : UserId) (clock : Nat)
    : Prop :=
  match stage with
  | .found other id | .admitted other id | .compared other id _ => other = challenge → id = userId
  | .timed other id time => other = challenge → id = userId ∧ time ≤ clock
  | .start | .recorded _ | .used _ | .ended => True

/-- The challenge has been found and is not yet compared. -/
def awaits (stage : RecoveryStage) (challenge : ChallengeId) : Prop :=
  match stage with
  | .found other _ | .timed other _ _ | .admitted other _ => other = challenge
  | _ => False

theorem worksOn_of_awaits {stage : RecoveryStage} {challenge : ChallengeId}
    (h : stage.awaits challenge)
    : stage.worksOn challenge := by
  cases stage with
  | found _ _ | timed _ _ _ | admitted _ _ => exact h
  | _ => exact h.elim

theorem KnowsUser.later {stage : RecoveryStage} {challenge : ChallengeId} {userId : UserId}
    {clock clock' : Nat} (h : stage.KnowsUser challenge userId clock) (later : clock ≤ clock')
    : stage.KnowsUser challenge userId clock' := by
  cases stage with
  | timed other id time => exact fun same => ⟨(h same).1, (h same).2.trans later⟩
  | _ => exact h

end RecoveryStage

/-- The number of attempts of one user that the limits admit within their window. -/
abbrev admittedAttempts : Nat :=
  RATE_LIMITS.user.maxAttempts

abbrev attemptWindow : Nat :=
  RATE_LIMITS.user.windowMs

/-- The challenge is one of the user, and expires within the window. -/
structure ChallengeOf (challenge : ChallengeId) (userId : UserId) (since : Nat) (w : World)
    : Prop where
  row : ∃ row, w.otpChallenges.lookup challenge = some row ∧ row.userId = userId
    ∧ row.expiresAt ≤ since + attemptWindow
  clock : since ≤ w.clock

/-- The comparisons of a challenge: all but the one under way are recorded, and as long as the
recorded ones count no more are made than the limits admit; after that only one that was
under way.
-/
structure Guarded (challenge : ChallengeId) (userId : UserId) (since : Nat) (c : RecoveryConfig)
    : Prop where
  known : ∀ i, (recoveryStage c i).KnowsUser challenge userId c.world.clock
  counted : c.world.challengeChecks challenge ≤ recorded userId since c.world + 1
  paid : (∀ i id agrees, recoveryStage c i ≠ .compared challenge id agrees) →
    c.world.challengeChecks challenge ≤ recorded userId since c.world
  recent : c.world.clock < since + attemptWindow →
    c.world.challengeChecks challenge ≤ admittedAttempts
  admitted : c.world.clock < since + attemptWindow → ∀ i id, c.live i = true →
    recoveryStage c i = .admitted challenge id
      → c.world.challengeChecks challenge < admittedAttempts
  waiting : ∀ i, c.live i = true → (recoveryStage c i).awaits challenge →
    c.world.challengeChecks challenge ≤ admittedAttempts
  bounded : c.world.challengeChecks challenge ≤ admittedAttempts + 1

section

variable {c c' : RecoveryConfig} {i : Nat} {challenge : ChallengeId} {userId : UserId} {since : Nat}

theorem Guarded.wait (h : Guarded challenge userId since c) (live : c.live i = true)
    (others : ∀ j, j ≠ i → recoveryStage c' j = recoveryStage c j ∧ c'.live j = c.live j)
    (clock : c.world.clock ≤ c'.world.clock)
    (same : c'.world.challengeChecks challenge = c.world.challengeChecks challenge)
    (records : recorded userId since c.world ≤ recorded userId since c'.world)
    (knows : (recoveryStage c' i).KnowsUser challenge userId c'.world.clock)
    (pays : ∀ id agrees, recoveryStage c i = .compared challenge id agrees →
      recoveryStage c' i = .compared challenge id agrees
      ∨ c.world.challengeChecks challenge ≤ recorded userId since c'.world)
    (admits : ∀ id, recoveryStage c' i = .admitted challenge id
      → recoveryStage c i = .admitted challenge id
      ∨ (c'.world.clock < since + attemptWindow →
          c.world.challengeChecks challenge < admittedAttempts))
    (waits : (recoveryStage c' i).awaits challenge → (recoveryStage c i).awaits challenge
      ∨ c.world.challengeChecks challenge ≤ admittedAttempts)
    : Guarded challenge userId since c' := by
  constructor
  · intro j
    by_cases mine : j = i
    · exact mine ▸ knows
    · rw [(others j mine).1]
      exact (h.known j).later clock
  · have counted := h.counted
    omega
  · intro paid
    rw [same]
    by_cases owing : ∃ id agrees, recoveryStage c i = .compared challenge id agrees
    · obtain ⟨id, agrees, stage⟩ := owing
      rcases pays id agrees stage with still | settled
      · exact absurd still (paid i id agrees)
      · exact settled
    · refine (h.paid fun j id agrees stage => ?_).trans records
      by_cases mine : j = i
      · exact owing ⟨id, agrees, mine ▸ stage⟩
      · exact paid j id agrees ((others j mine).1.trans stage)
  · intro early
    rw [same]
    exact h.recent (clock.trans_lt early)
  · intro early j id liveJ stage
    rw [same]
    by_cases mine : j = i
    · rcases admits id (mine ▸ stage) with before | few
      · exact h.admitted (clock.trans_lt early) i id live before
      · exact few early
    · rw [(others j mine).1] at stage
      rw [(others j mine).2] at liveJ
      exact h.admitted (clock.trans_lt early) j id liveJ stage
  · intro j liveJ waiting
    rw [same]
    by_cases mine : j = i
    · rcases waits (mine ▸ waiting) with before | few
      · exact h.waiting i live before
      · exact few
    · rw [(others j mine).1] at waiting
      rw [(others j mine).2] at liveJ
      exact h.waiting j liveJ waiting
  · rw [same]
    exact h.bounded

theorem Guarded.settled (h : Guarded challenge userId since c) (governed : Governed c)
    (once : UsedOnce c challenge) (live : c.live i = true)
    (works : (recoveryStage c i).worksOn challenge) (apart : (recoveryStage c i).owes = false)
    : c.world.challengeChecks challenge ≤ recorded userId since c.world := by
  refine h.paid fun j id agrees stage => ?_
  have owes : (recoveryStage c j).owes = true := by
    rw [stage]
    rfl
  have worksJ : (recoveryStage c j).worksOn challenge := by
    rw [stage]
    rfl
  obtain rfl : j = i :=
    once.single j i (.inl ⟨governed.live_of_owes owes, worksJ⟩) (.inl ⟨live, works⟩)
  rw [owes] at apart
  cases apart

theorem Guarded.compare {id : UserId} {agrees : Bool} (h : Guarded challenge userId since c)
    (governed : Governed c) (once : UsedOnce c challenge) (live : c.live i = true)
    (others : ∀ j, j ≠ i → recoveryStage c' j = recoveryStage c j ∧ c'.live j = c.live j)
    (clock : c.world.clock ≤ c'.world.clock)
    (more : c'.world.challengeChecks challenge = c.world.challengeChecks challenge + 1)
    (records : recorded userId since c.world ≤ recorded userId since c'.world)
    (before : recoveryStage c i = .admitted challenge id)
    (after : recoveryStage c' i = .compared challenge id agrees)
    : Guarded challenge userId since c' := by
  have works : (recoveryStage c i).worksOn challenge := by
    rw [before]
    rfl
  have alone : ∀ j, j ≠ i → c.live j = true → ¬ (recoveryStage c j).worksOn challenge :=
    fun j different liveJ worksJ =>
      different (once.single j i (.inl ⟨liveJ, worksJ⟩) (.inl ⟨live, works⟩))
  have alone' : ∀ j, c'.live j = true → ¬ (recoveryStage c' j).awaits challenge := by
    intro j liveJ waiting
    by_cases mine : j = i
    · rw [mine, after] at waiting
      exact waiting.elim
    · rw [(others j mine).1] at waiting
      rw [(others j mine).2] at liveJ
      exact alone j mine liveJ (RecoveryStage.worksOn_of_awaits waiting)
  have paid := h.settled governed once live works (by rw [before]; rfl)
  have waited := h.waiting i live (by rw [before]; rfl)
  constructor
  · intro j
    by_cases mine : j = i
    · have known := h.known i
      rw [before] at known
      rw [mine, after]
      exact known
    · rw [(others j mine).1]
      exact (h.known j).later clock
  · omega
  · exact fun settled => absurd after (settled i id agrees)
  · intro early
    have few := h.admitted (clock.trans_lt early) i id live before
    omega
  · intro _ j id' liveJ stage
    refine absurd ?_ (alone' j liveJ)
    rw [stage]
    rfl
  · exact fun j liveJ waiting => absurd waiting (alone' j liveJ)
  · omega

theorem ChallengeOf.step {x : Choice} (h : ChallengeOf challenge userId since c.world)
    (governed : Governed c) (stepped : c.step authSemantics i x = some c')
    : ChallengeOf challenge userId since c'.world := by
  obtain ⟨op, reply, -, -, answered, -, -, -, -⟩ := governed.step_cases stepped
  obtain ⟨row, there, owner, expires⟩ := h.row
  obtain ⟨row', there', later⟩ := challengeKept_of_act answered there
  exact ⟨⟨row', there', later.userId.trans owner, later.expiresAt ▸ expires⟩,
    h.clock.trans (auth_clock_le answered).1⟩

theorem Guarded.step {x : Choice} (h : Guarded challenge userId since c) (governed : Governed c)
    (once : UsedOnce c challenge) (owner : ChallengeOf challenge userId since c.world)
    (allowed : OneAtATime challenge c i x) (stepped : c.step authSemantics i x = some c')
    : Guarded challenge userId since c' := by
  obtain ⟨op, reply, live, asks, answered, moved, -, others, -⟩ := governed.step_cases stepped
  have move : RecoveryMove (recoveryStage c i) ⟨op, reply⟩ (recoveryStage c' i) := .of_next moved
  have apart : ∀ j, j ≠ i → recoveryStage c' j = recoveryStage c j ∧ c'.live j = c.live j :=
    fun j different => ⟨(others j different).1, (others j different).2.1⟩
  have clock := (auth_clock_le answered).1
  have records : recorded userId since c.world ≤ recorded userId since c'.world :=
    recorded_le_of_act answered
  have known := h.known i
  have wait := h.wait live apart clock
  generalize before : recoveryStage c i = stage at move known wait
  generalize after : recoveryStage c' i = stage' at move wait
  cases move with
  | other _ _ compares left =>
      have same := challengeChecks_of_act answered (compares challenge)
      rcases left with rfl | ⟨rfl, settled⟩
      · exact wait same records (known.later clock) (fun _ _ stage => .inl stage)
          (fun _ stage => .inl stage)
          (fun waiting => .inl waiting)
      · exact wait same records trivial (fun id agrees stage => absurd stage (settled _ id agrees))
          (fun _ stage => by cases stage) (fun waiting => waiting.elim)
  | found filter other row start =>
      subst start
      have same : c'.world.challengeChecks challenge = c.world.challengeChecks challenge :=
        challengeChecks_of_act answered (by simp)
      obtain ⟨found, stored, mine, -⟩ := found_of_act answered
      obtain ⟨row', there, user, expires⟩ := owner.row
      refine wait same records ?_ (fun _ _ stage => by cases stage)
        (fun _ stage => by cases stage) ?_
      · rintro rfl
        obtain rfl := Option.some.inj (stored.symm.trans there)
        exact mine.symm.trans user
      · rintro rfl
        obtain rfl := Option.some.inj (stored.symm.trans there)
        have early := (allowed.1.found asks found).1
        have onTime := (auth_act_cases answered).1
        exact .inr (h.recent (by omega))
  | timed other id time found =>
      subst found
      have same : c'.world.challengeChecks challenge = c.world.challengeChecks challenge :=
        challengeChecks_of_act answered (by simp)
      have passed : time = c'.world.clock := Except.ok.inj (now_of_act answered)
      exact wait same records (fun mine => ⟨known mine, passed.le⟩)
        (fun _ _ stage => by cases stage)
        (fun _ stage => by cases stage) (fun waiting => .inl waiting)
  | admitted other id time attempts timed few =>
      subst timed
      have same : c'.world.challengeChecks challenge = c.world.challengeChecks challenge :=
        challengeChecks_of_act answered (by simp)
      refine wait same records (fun mine => (known mine).1) (fun _ _ stage => by cases stage) ?_
        (fun waiting => .inl waiting)
      rintro _ ⟨⟩
      obtain ⟨rfl, passed⟩ := known rfl
      refine .inr fun early => ?_
      have settled := h.settled governed once live (by rw [before]; rfl) (by rw [before]; rfl)
      have early : c'.world.clock < since + RATE_LIMITS.user.windowMs := early
      have counts : recorded id since c'.world ≤ attempts :=
        recorded_le_of_countAttempts answered (by omega)
      have few : attempts < admittedAttempts := few
      omega
  | compared other id id' code hash admitted reply =>
      subst admitted
      by_cases mine : other = challenge
      · subst mine
        cases reply with
        | error error =>
            have same : c'.world = c.world := world_of_compare_error answered
            exact wait (by rw [same]) records trivial (fun _ _ stage => by cases stage)
              (fun _ stage => by cases stage) (fun waiting => waiting.elim)
        | ok agrees =>
            exact h.compare governed once live apart clock
              (challengeChecks_of_compare answered) records
              before after
      · have same : c'.world.challengeChecks challenge = c.world.challengeChecks challenge :=
          challengeChecks_of_act answered (fun _ _ _ op => mine (AuthOp.compareCode.inj op).1)
        cases reply with
        | error error =>
            exact wait same records trivial (fun _ _ stage => by cases stage)
              (fun _ stage => by cases stage) (fun waiting => waiting.elim)
        | ok agrees =>
            exact wait same records known (fun _ _ stage => by cases stage)
              (fun _ stage => by cases stage) (fun waiting => waiting.elim)
  | recorded other id agrees row compared counts reply =>
      subst compared
      have same : c'.world.challengeChecks challenge = c.world.challengeChecks challenge :=
        challengeChecks_of_act answered (by simp)
      have counted := h.counted
      have pays : other = challenge →
          c.world.challengeChecks challenge ≤ recorded userId since c'.world := by
        rintro rfl
        obtain rfl := known rfl
        have takesEffect := allowed.2 (by rw [before]; rfl) (by rw [before]; rfl) row asks
        have more := recorded_of_createAttempt answered takesEffect counts owner.clock
        omega
      have settles : ∀ id' agrees',
          RecoveryStage.compared other id agrees = .compared challenge id' agrees' →
          RecoveryStage.afterRecord other agrees reply = .compared challenge id' agrees'
          ∨ c.world.challengeChecks challenge ≤ recorded userId since c'.world :=
        fun _ _ stage => .inr (pays (RecoveryStage.compared.inj stage).1)
      rcases reply with error | answer
      · exact wait same records trivial settles (fun _ stage => by cases stage)
          (fun waiting => waiting.elim)
      · cases agrees with
        | true =>
            exact wait same records trivial settles (fun _ stage => by cases stage)
              (fun waiting => waiting.elim)
        | false =>
            exact wait same records trivial settles (fun _ stage => by cases stage)
              (fun waiting => waiting.elim)
  | used other usedAt recorded reply =>
      subst recorded
      have same : c'.world.challengeChecks challenge = c.world.challengeChecks challenge :=
        challengeChecks_of_act answered (by simp)
      cases reply with
      | error _ =>
          exact wait same records trivial (fun _ _ stage => by cases stage)
            (fun _ stage => by cases stage) (fun waiting => waiting.elim)
      | ok _ =>
          exact wait same records trivial (fun _ _ stage => by cases stage)
            (fun _ stage => by cases stage) (fun waiting => waiting.elim)

end

-- The challenge a call has found

/-- The stages of a call that has found a challenge. -/
def RecoveryStage.isAfter (stage : RecoveryStage) (challenge : ChallengeId) : Prop :=
  stage.worksOn challenge ∨ stage = .used challenge ∨ stage = .ended

theorem RecoveryMove.isAfter {stage stage' : RecoveryStage} {event : Event authInterface}
    {challenge : ChallengeId} (move : RecoveryMove stage event stage') (h : stage.isAfter challenge)
    : stage'.isAfter challenge := by
  have working : stage.isAfter challenge → ∀ {other}, stage.worksOn other → other = challenge := by
    rintro (works | rfl | rfl) other worksOther
    · cases stage with
      | found _ _ | timed _ _ _ | admitted _ _ | compared _ _ _ | recorded _ =>
          exact worksOther.symm.trans works
      | _ => exact works.elim
    · exact worksOther.elim
    · exact worksOther.elim
  cases move with
  | other _ _ _ left =>
      rcases left with rfl | ⟨rfl, -⟩
      · exact h
      · exact .inr (.inr rfl)
  | found _ _ _ start =>
      subst start
      rcases h with works | used | ended
      · exact works.elim
      · cases used
      · cases ended
  | timed other _ _ found =>
      subst found
      exact .inl (working h rfl)
  | admitted other _ _ _ timed _ =>
      subst timed
      exact .inl (working h rfl)
  | compared other _ _ _ _ admitted reply =>
      subst admitted
      cases reply with
      | error _ => exact .inr (.inr rfl)
      | ok _ => exact .inl (working h rfl)
  | recorded other _ agrees _ compared _ reply =>
      subst compared
      cases reply with
      | error _ => exact .inr (.inr rfl)
      | ok _ =>
          cases agrees with
          | true => exact .inl (working h rfl)
          | false => exact .inr (.inr rfl)
  | used other _ recorded reply =>
      subst recorded
      cases reply with
      | error _ => exact .inr (.inr rfl)
      | ok _ => exact .inr (.inl (congrArg RecoveryStage.used (working h rfl)))

/-- Every call is at a stage after the challenges it has found. -/
def FoundStages (c : RecoveryConfig) : Prop :=
  ∀ i challenge, HasFound c challenge i → (recoveryStage c i).isAfter challenge

theorem FoundStages.step {c c' : RecoveryConfig} {i : Nat} {x : Choice} (h : FoundStages c)
    (governed : Governed c) (stepped : c.step authSemantics i x = some c')
    : FoundStages c' := by
  obtain ⟨op, reply, -, -, -, moved, past, others, -⟩ := governed.step_cases stepped
  rintro j challenge ⟨filter, row, member⟩
  by_cases mine : j = i
  · subst mine
    rw [past] at member
    rcases List.mem_cons.mp member with newest | older
    · obtain ⟨rfl, answer⟩ := Event.mk.inj newest
      obtain rfl := eq_of_heq answer
      refine .inl ?_
      simp only [recoveryProtocol, RecoveryStage.next] at moved
      split at moved
      · have stage : RecoveryStage.found challenge filter.userId = recoveryStage c' j :=
          Option.some.inj moved
        rw [← stage]
        rfl
      · cases moved
    · have move : RecoveryMove (recoveryStage c j) ⟨op, reply⟩ (recoveryStage c' j) :=
        .of_next moved
      exact move.isAfter (h j challenge ⟨filter, row, older⟩)
  · obtain ⟨stage, -, same⟩ := others j mine
    rw [same] at member
    have kept : recoveryStage c' j = recoveryStage c j := stage
    rw [kept]
    exact h j challenge ⟨filter, row, member⟩

section

variable {config : AuthConfig} {calls : List RecoveryCall} {w : World} {challenge : ChallengeId}

theorem recoveryStage_recoveryCalls {i : Nat}
    : recoveryStage (recoveryCalls config calls w) i = .start :=
  recoveryProtocol.phase_initial

theorem usedOnce_recoveryCalls : UsedOnce (recoveryCalls config calls w) challenge := by
  refine .initial (fun i working => ?_) (fun i used => ?_)
  · have start : recoveryProtocol.phase (fun _ => .start) (recoveryCalls config calls w) i
      = .start :=
      recoveryStage_recoveryCalls
    rw [start] at working
    exact working.elim
  · cases used.symm.trans recoveryStage_recoveryCalls

theorem guarded_recoveryCalls {userId : UserId} {since : Nat}
    (uncompared : w.challengeChecks challenge = 0)
    : Guarded challenge userId since (recoveryCalls config calls w) := by
  have none : (recoveryCalls config calls w).world.challengeChecks challenge = 0 := uncompared
  constructor
  · intro i
    rw [recoveryStage_recoveryCalls]
    trivial
  · omega
  · exact fun _ => by omega
  · exact fun _ => by omega
  · exact fun _ i id _ admitted => by cases recoveryStage_recoveryCalls.symm.trans admitted
  · exact fun _ _ _ => by omega
  · omega

theorem foundStages_recoveryCalls : FoundStages (recoveryCalls config calls w) := by
  rintro i k ⟨filter, found, member⟩
  simp [recoveryCalls] at member

end

/-- Where a challenge is found before it expires and while no other call works on it, and the
attempts of its comparisons are recorded, at most one of the calls that find it returns a key, and
its code is compared no more often than the maximum of attempts.
-/
theorem recovered_once (config : AuthConfig) (calls : List RecoveryCall) (w : World)
    (challenge : ChallengeId) (row : OtpChallenge)
    (there : w.otpChallenges.lookup challenge = some row)
    (expires : row.expiresAt ≤ w.clock + RATE_LIMITS.user.windowMs)
    (uncompared : w.challengeChecks challenge = 0) (c : RecoveryConfig)
    (reached : Config.Reaches authSemantics (OneAtATime challenge) (recoveryCalls config calls w) c)
    : (∀ i j, HasFound c challenge i → HasFound c challenge j →
        (c.value? i).isSome = true → (c.value? j).isSome = true → i = j)
      ∧ c.world.challengeChecks challenge ≤ RECOVERY_OTP_MAX_ATTEMPTS := by
  obtain ⟨governed, once, -, guarded, stages⟩ := governed_recoveryCalls.invariant
    (J := fun c => UsedOnce c challenge ∧ ChallengeOf challenge row.userId w.clock c.world
      ∧ Guarded challenge row.userId w.clock c ∧ FoundStages c)
    ⟨usedOnce_recoveryCalls, ⟨⟨row, there, rfl, expires⟩, Nat.le_refl _⟩,
      guarded_recoveryCalls uncompared, foundStages_recoveryCalls⟩
    (fun _ _ _ _ governed h allowed stepped =>
      ⟨h.1.step governed allowed.1 stepped, h.2.1.step governed stepped,
        h.2.2.1.step governed h.1 h.2.1 allowed stepped, h.2.2.2.step governed stepped⟩) reached
  constructor
  · intro i j foundI foundJ valueI valueJ
    have used : ∀ l, HasFound c challenge l → (c.value? l).isSome = true →
        recoveryStage c l = .used challenge := by
      intro l found returned
      obtain ⟨value, finished⟩ := Option.isSome_iff_exists.mp returned
      obtain ⟨other, used⟩ := governed.value finished
      have used : recoveryStage c l = .used other := used
      rcases stages l challenge found with works | same | ended
      · rw [used] at works
        exact works.elim
      · exact same
      · rw [used] at ended
        cases ended
    exact once.single i j (.inr (used i foundI valueI)) (.inr (used j foundJ valueJ))
  · exact guarded.bounded.trans (by decide)

-- One recovery code

def codeCall : RecoveryCall where
  process := 0
  params := codeParams

/-- The calls of a verification up to the comparison, with its answer. -/
def untilCompared (i time : Nat) (agrees : Bool) : List (Nat × Choice) :=
  List.replicate 11 (i, { time := time }) ++ [(i, { time := time, agrees := agrees })]

/-- The calls after a right code, from the record of the attempt to that of the recovery. -/
def afterRightCode (i time : Nat) (lookupKey : String) : List (Nat × Choice) :=
  List.replicate 8 (i, { time := time }) ++ [(i, { time := time, text := lookupKey })]
    ++ List.replicate 4 (i, { time := time })

/-- A wrong code, and then the right one. -/
theorem recovered_once_sequence
    : ∃ c, Config.Reaches authSemantics (OneAtATime "otp")
          (recoveryCalls recoveryConfig [codeCall, codeCall] oneCode) c
        ∧ (c.value? 1).map VerifyRecoveryOtpResult.api_key = some "acbu_key_"
        ∧ (∀ i j, HasFound c "otp" i → HasFound c "otp" j →
            (c.value? i).isSome = true → (c.value? j).isSome = true → i = j)
        ∧ c.world.challengeChecks "otp" ≤ RECOVERY_OTP_MAX_ATTEMPTS := by
  have executed :
      ((recoveryCalls recoveryConfig [codeCall, codeCall] oneCode).run authSemantics
        (OneAtATime "otp")
        (untilCompared 0 2000 false ++ List.replicate 2 (0, { time := 2000 })
          ++ untilCompared 1 3000 true ++ afterRightCode 1 3000 "key")).map
        (fun c => (c.value? 1).map VerifyRecoveryOtpResult.api_key) = some (some "acbu_key_") := by
    decide +kernel
  obtain ⟨c, reached, value⟩ := Config.reaches_of_run executed
  exact ⟨c, reached, value, recovered_once recoveryConfig _ oneCode "otp" _ (AList.lookup_insert _)
    (by decide) rfl c reached⟩

/-- Two verifications that overlap both return a key, and six of them compare six codes. -/
theorem recovered_twice
    : (∃ c, Config.Reaches authSemantics Config.anyStep
          (recoveryCalls recoveryConfig [codeCall, codeCall] oneCode) c
        ∧ (c.value? 0).map VerifyRecoveryOtpResult.api_key = some "acbu_key_"
        ∧ (c.value? 1).map VerifyRecoveryOtpResult.api_key = some "acbu_other_")
      ∧ ∃ c, Config.Reaches authSemantics Config.anyStep
          (recoveryCalls recoveryConfig (List.replicate 6 codeCall) oneCode) c
        ∧ c.world.challengeChecks "otp" = RECOVERY_OTP_MAX_ATTEMPTS + 1 := by
  have twoKeys :
      ((recoveryCalls recoveryConfig [codeCall, codeCall] oneCode).run authSemantics Config.anyStep
        (untilCompared 0 2000 true ++ untilCompared 1 2000 true
          ++ afterRightCode 0 2000 "key" ++ afterRightCode 1 2000 "other")).map
        (fun c => ((c.value? 0).map VerifyRecoveryOtpResult.api_key,
          (c.value? 1).map VerifyRecoveryOtpResult.api_key))
        = some (some "acbu_key_", some "acbu_other_") := by
    decide +kernel
  have sixCodes :
      ((recoveryCalls recoveryConfig (List.replicate 6 codeCall) oneCode).run authSemantics
        Config.anyStep ((List.range 6).flatMap (fun i => untilCompared i 2000 false))).map
        (fun c => c.world.challengeChecks "otp") = some (RECOVERY_OTP_MAX_ATTEMPTS + 1) := by
    decide +kernel
  obtain ⟨c, reached, values⟩ := Config.reaches_of_run twoKeys
  exact ⟨⟨c, reached, Prod.mk.inj values⟩, Config.reaches_of_run sixCodes⟩

end AcbuBackend.Recovery

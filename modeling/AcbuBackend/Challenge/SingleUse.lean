import AcbuBackend.Challenge.ClaimProtocol

/-! Which calls accept a challenge token.
Claims made before the token expires are granted once by Redis; a process whose calls come
one at a time accepts a token once whatever Redis does.
-/

namespace AcbuBackend.Challenge

open Effects AcbuBackend.Runtime

-- Runs

abbrev VerificationConfig := Config denyListInterface ChallengePayload DenyListWorld

theorem claim_of_replay {start phase : Claim × Stage} {past : List (Event denyListInterface)}
    (h : claimProtocol.replay start past = some phase)
    : phase.1 = start.1 := by
  induction past generalizing phase with
  | nil => exact congrArg Prod.fst (Option.some.inj h).symm
  | cons event older ih =>
      obtain ⟨middle, before, moved⟩ := Option.bind_eq_some_iff.mp h
      obtain ⟨stage, -, rfl⟩ := Option.map_eq_some_iff.mp moved
      have same := ih before
      exact same

section

variable (jwt : JsonWebToken) (config : ChallengeConfig) (calls : List Presentation)

/-- All calls before their first step, on any stores. -/
def initialConfig (world : DenyListWorld) : VerificationConfig :=
  .initial world (calls.map (fun call => verifyChallengeToken jwt config call.process call.token))

/-- What call `i` claims. -/
def claimAt (i : Nat) : Claim :=
  (calls[i]?).elim { process := 0, jti := "", exp := 0 } (claimOf jwt config)

/-- How far call `i` has come. -/
def stageOf (c : VerificationConfig) (i : Nat) : Stage :=
  (claimProtocol.phase (fun i => (claimAt jwt config calls i, .checking)) c i).2

/-- Redis is asked for a token before the token expires. -/
def InTime (c : VerificationConfig) (i : Nat) (x : DenyListChoice) : Prop :=
  match c.pending? i with
  | some (.setNx ..) => x.time < (claimAt jwt config calls i).deadline
  | _ => True

/-- A call looks for its token in the map of its process while no other call of the process is
between its look for the token and its entry.
-/
def OneAtATime (c : VerificationConfig) (i : Nat) : Prop :=
  match c.pending? i with
  | some (.localHas process jti) =>
      ∀ j < c.threads.length, j ≠ i → (stageOf jwt config calls c j).inFlight = true →
        ¬ ((claimAt jwt config calls j).process = process ∧ (claimAt jwt config calls j).jti = jti)
  | _ => True

instance (c : VerificationConfig) (i : Nat) (x : DenyListChoice)
    : Decidable (InTime jwt config calls c i x) := by
  unfold InTime
  rcases c.pending? i with _ | op
  · exact .isTrue trivial
  · cases op with
    | setNx _ _ => exact Nat.decLt _ _
    | _ => exact .isTrue trivial

instance (c : VerificationConfig) (i : Nat) : Decidable (OneAtATime jwt config calls c i) := by
  unfold OneAtATime
  rcases c.pending? i with _ | op
  · exact .isTrue trivial
  · cases op with
    | localHas _ _ => exact inferInstance
    | _ => exact .isTrue trivial

/-- The claim of call `i` was not answered by Redis. -/
def ClaimFailed (c : VerificationConfig) (i : Nat) : Prop :=
  ∃ key ttl error, ⟨.setNx key ttl, .error error⟩ ∈ c.past i

/-- What is known of a call that ends with a value. -/
def Entered (i : Nat) (_ : ChallengePayload) (phase : Claim × Stage) : Prop :=
  phase.1 = claimAt jwt config calls i ∧ ∃ answered, phase.2 = .accepted answered

/-- Every call of a run keeps to the stages of its claim. -/
def Verifies (c : VerificationConfig) : Prop :=
  claimProtocol.Governs (fun i => (claimAt jwt config calls i, .checking))
    (Entered jwt config calls) (fun _ _ _ => True) c

variable {jwt config calls}

theorem verifies_initialConfig {world : DenyListWorld}
    (challenges : ∀ call ∈ calls, IsChallengeToken jwt config call.token)
    : Verifies jwt config calls (initialConfig jwt config calls world) := by
  apply Protocol.governs_initial
  intro i prog found
  rw [List.getElem?_map] at found
  obtain ⟨call, member, rfl⟩ := Option.map_eq_some_iff.mp found
  have claim : claimAt jwt config calls i = claimOf jwt config call := by simp [claimAt, member]
  rw [claim]
  have entered := wp_verifyChallengeToken (challenges call (List.mem_of_getElem? member))
  apply Protocol.wp_mono entered
  · intro _ phase known
    exact ⟨known.1.trans claim.symm, known.2⟩
  · exact fun _ _ _ => trivial

theorem accepted_of_value {c : VerificationConfig} {i : Nat}
    (governed : Verifies jwt config calls c) (h : (c.value? i).isSome = true)
    : ∃ answered, stageOf jwt config calls c i = .accepted answered := by
  obtain ⟨_, value⟩ := Option.isSome_iff_exists.mp h
  exact (governed.value value).2

theorem stage_step {c c' : VerificationConfig} {i : Nat} {x : DenyListChoice}
    (governed : Verifies jwt config calls c) (stepped : c.step denyListSemantics i x = some c')
    : ∃ op reply,
        c.pending? i = some op
        ∧ denyListSemantics.act i op x c.world = some (reply, c'.world)
        ∧ StageMove (claimAt jwt config calls i) (stageOf jwt config calls c i) ⟨op, reply⟩
            (stageOf jwt config calls c' i)
        ∧ c'.past i = ⟨op, reply⟩ :: c.past i
        ∧ ∀ j, j ≠ i →
            stageOf jwt config calls c' j = stageOf jwt config calls c j
              ∧ c'.past j = c.past j := by
  obtain ⟨op, reply, live, pending, answered, moved, past, others, -⟩ := governed.step_cases stepped
  refine ⟨op, reply, pending, answered, ?_, past, ?_⟩
  · obtain ⟨⟨prog, history⟩, found, -⟩ := Option.bind_eq_some_iff.mp pending
    have own : (claimProtocol.phase (fun i => (claimAt jwt config calls i, .checking)) c i).1
        = claimAt jwt config calls i :=
      claim_of_replay (governed.phase_eq found).1
    obtain ⟨stage, next, same⟩ := Option.map_eq_some_iff.mp moved
    have move := StageMove.of_next next
    rw [own] at move
    have stage_eq : stageOf jwt config calls c' i = stage := (congrArg Prod.snd same).symm
    rw [stage_eq]
    exact move
  · intro j different
    exact ⟨congrArg Prod.snd (others j different).1, (others j different).2.2⟩

-- Redis grants a token once

/-- Redis remembers what it granted, and granted it once. -/
structure GrantedOnce (jwt : JsonWebToken) (config : ChallengeConfig) (calls : List Presentation)
    (c : VerificationConfig)
    : Prop where
  timed : ∀ i now, stageOf jwt config calls c i = .timed now → now ≤ c.world.clock
  remembered : ∀ i, (stageOf jwt config calls c i).granted = true →
    c.world.Remembers (keyFor (claimAt jwt config calls i).jti)
      (claimAt jwt config calls i).deadline
  single : ∀ i j, (stageOf jwt config calls c i).granted = true →
    (stageOf jwt config calls c j).granted = true →
    (claimAt jwt config calls i).jti = (claimAt jwt config calls j).jti →
    (claimAt jwt config calls i).exp = (claimAt jwt config calls j).exp → i = j
  failed : ∀ i, (stageOf jwt config calls c i).ungranted = true → ClaimFailed c i

/-- What a step does to the grants: its caller keeps its grant or has none, or Redis grants it
a token that it does not remember.
-/
inductive GrantMove (w w' : DenyListWorld) (claim : Claim) (stage stage' : Stage) : Prop
  | kept (granted : stage'.granted = true → stage.granted = true)
  | granted (fresh : ¬ w.Remembers (keyFor claim.jti) claim.deadline)
      (stored : w'.Remembers (keyFor claim.jti) claim.deadline)

/-- Witness: the time to live of a granted claim outlasts the deadline, and a remembered key is
held before it.
-/
theorem GrantMove.of_step {claim : Claim} {stage stage' : Stage} {i : Nat} {op : DenyListOp}
    {x : DenyListChoice} {w w' : DenyListWorld} {reply : denyListInterface.Reply op}
    (move : StageMove claim stage ⟨op, reply⟩ stage')
    (answered : denyListSemantics.act i op x w = some (reply, w'))
    (timed : ∀ now, stage = .timed now → now ≤ w.clock)
    (inTime : ∀ key ttl, op = .setNx key ttl → x.time < claim.deadline)
    : GrantMove w w' claim stage stage' := by
  cases move with
  | checked _ _ _ _ _ left =>
      rcases left with rfl | rfl <;> exact .kept (fun absurd => by cases absurd)
  | unlisted _ | timed _ _ | untimed _ _ => exact .kept (fun absurd => by cases absurd)
  | entered told won reply =>
      subst won
      refine .kept fun granted => ?_
      cases reply with
      | ok _ => exact granted
      | error _ => cases granted
  | claimed now ttl atClock outlasts reply =>
      rcases reply with error | claimed
      · exact .kept (fun absurd => by cases absurd)
      cases claimed with
      | false => exact .kept (fun absurd => by cases absurd)
      | true =>
          have early := inTime _ _ rfl
          have before := timed now atClock
          have taken := act_ok answered
          have onTime := (act_cases answered).1
          simp only [denyListEffect] at taken
          split at taken
          · cases taken
          · rename_i free
            have left : w' = DenyListWorld.store { w with clock := x.time }
              (keyFor claim.jti) ttl :=
              (congrArg Prod.snd taken).symm
            refine .granted (fun remembered => free ?_) ?_
            · have remembered' :
                  ({ w with clock := x.time } : DenyListWorld).Remembers
                    (keyFor claim.jti) claim.deadline := by
                rcases remembered with late | kept
                · exact .inl (late.trans onTime)
                · exact .inr kept
              exact remembered'.held early
            · subst left
              refine .inr ⟨x.time + ttl * 1000, by simp [DenyListWorld.store], ?_⟩
              omega

section

variable {claim : Claim} {stage stage' : Stage} {i : Nat} {op : DenyListOp}
  {x : DenyListChoice} {w w' : DenyListWorld} {reply : denyListInterface.Reply op}

theorem act_now {answer : Except JsError Nat}
    (h : denyListSemantics.act i .now x w = some (answer, w'))
    : answer = .ok w'.clock := by
  obtain ⟨possible, answered⟩ := Environment.act_eq_some h
  have possible : denyListAdmissible .now x w = true := possible
  have done : x.outcome = .done := by
    simp only [denyListAdmissible, Bool.and_eq_true, decide_eq_true_eq] at possible
    exact possible.2
  have answered : x.outcome.answer (.ok x.time, { w with clock := x.time }) w = (answer, w') :=
    answered
  rw [done] at answered
  cases answered
  rfl

theorem StageMove.timed_le {now : Nat} (move : StageMove claim stage ⟨op, reply⟩ stage')
    (answered : denyListSemantics.act i op x w = some (reply, w')) (timed : stage' = .timed now)
    : now ≤ w'.clock := by
  cases move with
  | checked _ _ _ _ _ left => rcases left with rfl | rfl <;> cases timed
  | unlisted _ | untimed _ _ => cases timed
  | timed _ read =>
      cases timed
      exact Nat.le_of_eq (Except.ok.inj (act_now answered))
  | claimed _ _ _ _ reply =>
      rcases reply with error | claimed
      · cases timed
      · cases claimed <;> cases timed
  | entered _ _ reply => cases reply <;> cases timed

theorem StageMove.takesOff (move : StageMove claim stage ⟨op, reply⟩ stage')
    (flies : stage'.inFlight = true)
    : stage.inFlight = true
      ∨ (⟨op, reply⟩ : Event denyListInterface)
        = ⟨.localHas claim.process claim.jti, .ok false⟩ := by
  cases move with
  | checked _ _ _ _ _ left => rcases left with rfl | rfl <;> cases flies
  | unlisted _ => exact .inr rfl
  | timed unlisted _ | untimed unlisted _ => exact .inl (by rw [unlisted]; rfl)
  | claimed _ _ timed _ _ => exact .inl (by rw [timed]; rfl)
  | entered _ won _ => exact .inl (by rw [won]; rfl)

theorem StageMove.wins (move : StageMove claim stage ⟨op, reply⟩ stage')
    (answered : denyListSemantics.act i op x w = some (reply, w')) (wins : stage'.winning = true)
    : stage.winning = true ∨ stage.inFlight = true ∧ ∃ key ttl, op = .setNx key ttl := by
  cases move with
  | checked _ _ _ _ _ left => rcases left with rfl | rfl <;> cases wins
  | unlisted _ | timed _ _ => cases wins
  | untimed _ error => cases act_now answered
  | claimed _ ttl timed _ _ => exact .inr ⟨by rw [timed]; rfl, _, ttl, rfl⟩
  | entered _ won _ => exact .inl (by rw [won]; rfl)

theorem StageMove.lands {told : Bool} (move : StageMove claim stage ⟨op, reply⟩ stage')
    (accepts : stage' = .accepted told)
    : stage.inFlight = true
      ∧ (⟨op, reply⟩ : Event denyListInterface)
        = ⟨.localSet claim.process claim.jti claim.deadline, .ok ()⟩ := by
  cases move with
  | checked _ _ _ _ _ left => rcases left with rfl | rfl <;> cases accepts
  | unlisted _ | timed _ _ | untimed _ _ => cases accepts
  | claimed _ _ _ _ reply =>
      rcases reply with error | claimed
      · cases accepts
      · cases claimed <;> cases accepts
  | entered _ won reply =>
      cases reply with
      | ok _ => exact ⟨by rw [won]; rfl, rfl⟩
      | error _ => cases accepts

theorem StageMove.unanswered (move : StageMove claim stage ⟨op, reply⟩ stage')
    (answered : denyListSemantics.act i op x w = some (reply, w'))
    (ungranted : stage'.ungranted = true)
    : stage.ungranted = true
      ∨ ∃ key ttl error, (⟨op, reply⟩ : Event denyListInterface)
        = ⟨.setNx key ttl, .error error⟩ := by
  cases move with
  | checked _ _ _ _ _ left => rcases left with rfl | rfl <;> cases ungranted
  | unlisted _ | timed _ _ => cases ungranted
  | untimed _ error => cases act_now answered
  | claimed now ttl _ _ reply =>
      rcases reply with error | claimed
      · exact .inr ⟨_, _, error, rfl⟩
      · cases claimed <;> cases ungranted
  | entered told won reply =>
      subst won
      cases reply with
      | ok _ => exact .inl ungranted
      | error _ => cases ungranted

end

theorem GrantedOnce.step {c c' : VerificationConfig} {i : Nat} {x : DenyListChoice}
    (governed : Verifies jwt config calls c) (h : GrantedOnce jwt config calls c)
    (inTime : InTime jwt config calls c i x) (stepped : c.step denyListSemantics i x = some c')
    : GrantedOnce jwt config calls c' := by
  obtain ⟨op, reply, pending, answered, move, past, others⟩ := stage_step governed stepped
  have clock := clock_le_of_act answered
  have early : ∀ key ttl, op = .setNx key ttl → x.time < (claimAt jwt config calls i).deadline := by
    rintro key ttl rfl
    simpa only [InTime, pending] using inTime
  have grant := GrantMove.of_step move answered (h.timed i) early
  have kept : ∀ j, (stageOf jwt config calls c j).granted = true →
      c'.world.Remembers (keyFor (claimAt jwt config calls j).jti)
        (claimAt jwt config calls j).deadline :=
    fun j granted => Remembers.of_act answered move.claims (h.remembered j granted)
  constructor
  · intro j now timed
    by_cases same : j = i
    · subst same
      exact move.timed_le answered timed
    · rw [(others j same).1] at timed
      exact (h.timed j now timed).trans clock.1
  · intro j granted
    by_cases same : j = i
    · subst same
      cases grant with
      | kept still => exact kept j (still granted)
      | granted _ stored => exact stored
    · rw [(others j same).1] at granted
      exact kept j granted
  · -- a grant of the caller excludes every other grant of its token
    have excludes : (stageOf jwt config calls c' i).granted = true → ∀ j, j ≠ i →
        (stageOf jwt config calls c j).granted = true →
        (claimAt jwt config calls i).jti = (claimAt jwt config calls j).jti →
        (claimAt jwt config calls i).exp ≠ (claimAt jwt config calls j).exp := by
      intro mine j different theirs jti exp
      cases grant with
      | kept still => exact different (h.single j i theirs (still mine) jti.symm exp.symm)
      | granted fresh _ =>
          apply fresh
          rw [jti, Claim.deadline, exp]
          exact h.remembered j theirs
    intro j l grantedJ grantedL jti exp
    by_cases mineJ : j = i
    · subst mineJ
      by_contra different
      rw [(others l (Ne.symm different)).1] at grantedL
      exact excludes grantedJ l (Ne.symm different) grantedL jti exp
    · rw [(others j mineJ).1] at grantedJ
      by_cases mineL : l = i
      · subst mineL
        exact absurd exp.symm (excludes grantedL j mineJ grantedJ jti.symm)
      · rw [(others l mineL).1] at grantedL
        exact h.single j l grantedJ grantedL jti exp
  · intro j ungranted
    by_cases same : j = i
    · subst same
      rw [ClaimFailed, past]
      rcases move.unanswered answered ungranted with before | ⟨key, ttl, error, unanswered⟩
      · obtain ⟨key, ttl, error, failed⟩ := h.failed j before
        exact ⟨key, ttl, error, List.mem_cons_of_mem _ failed⟩
      · exact ⟨key, ttl, error, by rw [unanswered]; exact List.mem_cons_self⟩
    · rw [(others j same).1] at ungranted
      rw [ClaimFailed, (others j same).2]
      exact h.failed j ungranted

-- A process whose calls come one at a time accepts a token once

/-- Two callers present the same token identifier to the same process. -/
def Alike (jwt : JsonWebToken) (config : ChallengeConfig) (calls : List Presentation) (i j : Nat)
    : Prop :=
  (claimAt jwt config calls i).process = (claimAt jwt config calls j).process
  ∧ (claimAt jwt config calls i).jti = (claimAt jwt config calls j).jti

/-- Each process remembers what it accepted, and has one call in flight for a token. -/
structure EnteredOnce (jwt : JsonWebToken) (config : ChallengeConfig) (calls : List Presentation)
    (c : VerificationConfig)
    : Prop where
  mirrored : ∀ i told, stageOf jwt config calls c i = .accepted told →
    c.world.Mirrors (claimAt jwt config calls i).process (claimAt jwt config calls i).jti
      (claimAt jwt config calls i).deadline
  alone : ∀ i j, (stageOf jwt config calls c i).inFlight = true →
    (stageOf jwt config calls c j).inFlight = true → Alike jwt config calls i j → i = j
  late : ∀ i j told, stageOf jwt config calls c i = .accepted told →
    (stageOf jwt config calls c j).inFlight = true → Alike jwt config calls i j →
    (claimAt jwt config calls i).deadline ≤ c.world.clock
  single : ∀ i j, (stageOf jwt config calls c i).winning = true →
    (stageOf jwt config calls c j).winning = true → Alike jwt config calls i j →
    (claimAt jwt config calls i).exp = (claimAt jwt config calls j).exp → i = j

theorem Stage.winning_cases {stage : Stage} (h : stage.winning = true)
    : stage.inFlight = true ∨ ∃ told, stage = .accepted told := by
  cases stage with
  | won _ => exact .inl rfl
  | accepted told => exact .inr ⟨told, rfl⟩
  | _ => cases h

theorem Alike.symm {i j : Nat} (h : Alike jwt config calls i j) : Alike jwt config calls j i :=
  ⟨h.1.symm, h.2.symm⟩

theorem expired_of_unlisted {i : Nat} {x : DenyListChoice} {w w' : DenyListWorld}
    {process : ProcessId} {jti : String} {deadline : Nat}
    (h : denyListSemantics.act i (.localHas process jti) x w = some (.ok false, w'))
    (mirrored : w.Mirrors process jti deadline)
    : deadline ≤ w.clock := by
  have taken := act_ok h
  rcases mirrored with late | ⟨expiresAt, stored, -⟩
  · exact late
  · have listed : (w.localDenyLists process jti).isSome = false :=
      Except.ok.inj (congrArg Prod.fst taken)
    rw [stored] at listed
    cases listed

theorem mirrors_of_entry {i : Nat} {x : DenyListChoice} {w w' : DenyListWorld} {process : ProcessId}
    {jti : String} {deadline : Nat}
    (h : denyListSemantics.act i (.localSet process jti deadline) x w = some (.ok (), w'))
    : w'.Mirrors process jti deadline := by
  have left : w' = DenyListWorld.mirror { w with clock := x.time } process jti deadline :=
    (congrArg Prod.snd (act_ok h)).symm
  subst left
  exact .inr ⟨deadline, by simp [DenyListWorld.mirror], Nat.le_refl _⟩

theorem lt_of_inFlight {c : VerificationConfig} {j : Nat}
    (h : (stageOf jwt config calls c j).inFlight = true)
    : j < c.threads.length := by
  by_contra outside
  rw [stageOf, Protocol.phase_of_none _ (List.getElem?_eq_none (Nat.le_of_not_lt outside))] at h
  cases h

/-- Witness: a caller that takes off finds no entry and nobody in flight, and one that lands
leaves its entry.
-/
theorem EnteredOnce.step {c c' : VerificationConfig} {i : Nat} {x : DenyListChoice}
    (governed : Verifies jwt config calls c) (h : EnteredOnce jwt config calls c)
    (inTime : InTime jwt config calls c i x) (separate : OneAtATime jwt config calls c i)
    (stepped : c.step denyListSemantics i x = some c')
    : EnteredOnce jwt config calls c' := by
  obtain ⟨op, reply, pending, answered, move, past, others⟩ := stage_step governed stepped
  have clock := clock_le_of_act answered
  have unchanged : ∀ j, j ≠ i → stageOf jwt config calls c' j = stageOf jwt config calls c j :=
    fun j different => (others j different).1
  -- a caller in flight after the step is alone in its process
  have flight : (stageOf jwt config calls c' i).inFlight = true → ∀ j, j ≠ i →
      (stageOf jwt config calls c j).inFlight = true → ¬ Alike jwt config calls i j := by
    intro mine j different theirs alike
    rcases move.takesOff mine with before | look
    · exact different (h.alone j i theirs before alike.symm)
    · cases look
      have separate := by simpa only [OneAtATime, pending] using separate
      exact separate j (lt_of_inFlight theirs) different theirs ⟨alike.1.symm, alike.2.symm⟩
  -- a caller that has won after the step is the only one of its token in its process
  have victory : (stageOf jwt config calls c' i).winning = true → ∀ j, j ≠ i →
      (stageOf jwt config calls c j).winning = true → Alike jwt config calls i j →
      (claimAt jwt config calls i).exp ≠ (claimAt jwt config calls j).exp := by
    intro mine j different theirs alike exp
    rcases move.wins answered mine with before | ⟨before, key, ttl, rfl⟩
    · exact different (h.single j i theirs before alike.symm exp.symm)
    · rcases Stage.winning_cases theirs with flies | ⟨told, accepted⟩
      · exact different (h.alone j i flies before alike.symm)
      · have gone := h.late j i told accepted before alike.symm
        have early : x.time < (claimAt jwt config calls i).deadline := by
          simpa only [InTime, pending] using inTime
        have same : (claimAt jwt config calls j).deadline
            = (claimAt jwt config calls i).deadline := by
          rw [Claim.deadline, Claim.deadline, exp]
        omega
  constructor
  · intro j told accepted
    by_cases same : j = i
    · subst same
      obtain ⟨-, entry⟩ := move.lands accepted
      cases entry
      exact mirrors_of_entry answered
    · rw [unchanged j same] at accepted
      refine Mirrors.of_act answered ?_ (h.mirrored j told accepted)
      rintro expiresAt enters
      obtain ⟨process, jti, -, flies⟩ := move.entry enters
      exact .inr (h.late j i told accepted flies ⟨process, jti⟩)
  · intro j l fliesJ fliesL alike
    by_cases mineJ : j = i
    · subst mineJ
      by_contra different
      rw [unchanged l (Ne.symm different)] at fliesL
      exact flight fliesJ l (Ne.symm different) fliesL alike
    · rw [unchanged j mineJ] at fliesJ
      by_cases mineL : l = i
      · subst mineL
        exact absurd alike.symm (flight fliesL j mineJ fliesJ)
      · rw [unchanged l mineL] at fliesL
        exact h.alone j l fliesJ fliesL alike
  · intro j l told accepted flies alike
    by_cases mineJ : j = i
    · subst mineJ
      obtain ⟨before, -⟩ := move.lands accepted
      by_cases mineL : l = j
      · subst mineL
        rw [accepted] at flies
        cases flies
      · rw [unchanged l mineL] at flies
        exact absurd (h.alone j l before flies alike) (Ne.symm mineL)
    · rw [unchanged j mineJ] at accepted
      by_cases mineL : l = i
      · subst mineL
        rcases move.takesOff flies with before | look
        · exact (h.late j l told accepted before alike).trans clock.1
        · cases look
          have mirrored := h.mirrored j told accepted
          rw [alike.1, alike.2] at mirrored
          exact (expired_of_unlisted answered mirrored).trans clock.1
      · rw [unchanged l mineL] at flies
        exact (h.late j l told accepted flies alike).trans clock.1
  · intro j l winsJ winsL alike exp
    by_cases mineJ : j = i
    · subst mineJ
      by_contra different
      rw [unchanged l (Ne.symm different)] at winsL
      exact victory winsJ l (Ne.symm different) winsL alike exp
    · rw [unchanged j mineJ] at winsJ
      by_cases mineL : l = i
      · subst mineL
        exact absurd exp.symm (victory winsL j mineJ winsJ alike.symm)
      · rw [unchanged l mineL] at winsL
        exact h.single j l winsJ winsL alike exp

-- Acceptances

theorem stageOf_initial {world : DenyListWorld} {i : Nat}
    : stageOf jwt config calls (initialConfig jwt config calls world) i = .checking := by
  rw [stageOf, initialConfig, Protocol.phase_initial]

/-- Witness: induction on the run, by `GrantedOnce.step`. -/
theorem grantedOnce_of_reaches {world : DenyListWorld} {c : VerificationConfig}
    (challenges : ∀ call ∈ calls, IsChallengeToken jwt config call.token)
    (reached : Config.Reaches denyListSemantics (InTime jwt config calls)
      (initialConfig jwt config calls world) c)
    : Verifies jwt config calls c ∧ GrantedOnce jwt config calls c := by
  have base : GrantedOnce jwt config calls (initialConfig jwt config calls world) := by
    constructor <;> simp [stageOf_initial, Stage.granted, Stage.ungranted]
  refine (verifies_initialConfig challenges).invariant base ?_ reached
  intro _ _ _ _ governed h inTime stepped
  exact GrantedOnce.step governed h inTime stepped

/-- Witness: induction on the run, by `EnteredOnce.step`. -/
theorem enteredOnce_of_reaches {world : DenyListWorld} {c : VerificationConfig}
    (challenges : ∀ call ∈ calls, IsChallengeToken jwt config call.token)
    (reached : Config.Reaches denyListSemantics
      (fun c i x => InTime jwt config calls c i x ∧ OneAtATime jwt config calls c i)
      (initialConfig jwt config calls world) c)
    : Verifies jwt config calls c ∧ EnteredOnce jwt config calls c := by
  have base : EnteredOnce jwt config calls (initialConfig jwt config calls world) := by
    constructor <;> simp [stageOf_initial, Stage.inFlight, Stage.winning]
  refine (verifies_initialConfig challenges).invariant base ?_ reached
  intro _ _ _ _ governed h allowed stepped
  exact EnteredOnce.step governed h allowed.1 allowed.2 stepped

theorem claimAt_eq {i j : Nat} {first second : Presentation} (hi : calls[i]? = some first)
    (hj : calls[j]? = some second) (same : first.token = second.token)
    : (claimAt jwt config calls i).jti = (claimAt jwt config calls j).jti
      ∧ (claimAt jwt config calls i).exp = (claimAt jwt config calls j).exp := by
  simp [claimAt, hi, hj, claimOf, same]

end

/-- Where every claim is made before its token expires, two calls that accept one token have a
claim among them that Redis did not answer; and where the calls of a process come one at a
time, they are calls of two processes.
-/
theorem accepted_apart (jwt : JsonWebToken) (config : ChallengeConfig) (calls : List Presentation)
    (challenges : ∀ call ∈ calls, IsChallengeToken jwt config call.token) (world : DenyListWorld)
    : (∀ c, Config.Reaches denyListSemantics (InTime jwt config calls)
          (initialConfig jwt config calls world) c →
        ∀ i j first second, calls[i]? = some first → calls[j]? = some second →
          first.token = second.token → i ≠ j →
          (c.value? i).isSome = true → (c.value? j).isSome = true →
          ClaimFailed c i ∨ ClaimFailed c j)
      ∧ ∀ c, Config.Reaches denyListSemantics
          (fun c i x => InTime jwt config calls c i x ∧ OneAtATime jwt config calls c i)
          (initialConfig jwt config calls world) c →
        ∀ i j first second, calls[i]? = some first → calls[j]? = some second →
          first.token = second.token → i ≠ j →
          (c.value? i).isSome = true → (c.value? j).isSome = true →
          first.process ≠ second.process := by
  constructor
  · intro c reached i j first second hi hj token different valueI valueJ
    obtain ⟨governed, once⟩ := grantedOnce_of_reaches challenges reached
    obtain ⟨toldI, stageI⟩ := accepted_of_value governed valueI
    obtain ⟨toldJ, stageJ⟩ := accepted_of_value governed valueJ
    obtain ⟨jti, exp⟩ := @claimAt_eq jwt config _ _ _ _ _ hi hj token
    cases toldI with
    | false => exact .inl (once.failed i (by rw [stageI]; rfl))
    | true =>
        cases toldJ with
        | false => exact .inr (once.failed j (by rw [stageJ]; rfl))
        | true =>
            exact absurd (once.single i j (by rw [stageI]; rfl) (by rw [stageJ]; rfl) jti exp)
              different
  · intro c reached i j first second hi hj token different valueI valueJ process
    obtain ⟨governed, once⟩ := enteredOnce_of_reaches challenges reached
    obtain ⟨toldI, stageI⟩ := accepted_of_value governed valueI
    obtain ⟨toldJ, stageJ⟩ := accepted_of_value governed valueJ
    obtain ⟨jti, exp⟩ := @claimAt_eq jwt config _ _ _ _ _ hi hj token
    have alike : Alike jwt config calls i j := by
      refine ⟨?_, jti⟩
      simp [claimAt, hi, hj, claimOf, process]
    exact different (once.single i j (by rw [stageI]; rfl) (by rw [stageJ]; rfl) alike exp)

-- A token of one user, presented twice

/-- One token, signed at time 0. -/
def sampleJwt : JsonWebToken where
  headerTyp := fun _ => some "JWT"
  claims := fun secret token =>
    if secret = "secret" ∧ token = "token" then some (challengePayload "user" none 0) else none

def sampleChallengeConfig : ChallengeConfig :=
  { challengeTokenSecret := "secret", jwtClockToleranceSeconds := 30 }

/-- The token is presented to two processes. -/
def samplePresentations : List Presentation :=
  [{ process := 0, token := "token" }, { process := 1, token := "token" }]

/-- Nothing has been used yet. -/
def freshStores : DenyListWorld :=
  { clock := 0, redis := fun _ => none, localDenyLists := fun _ _ => none }

def callAt (i : Nat) (time : Nat) (outcome : Outcome JsError := .done)
    : List (Nat × DenyListChoice) :=
  List.replicate 5 (i, { time := time })
    ++ [(i, { time := time, outcome := outcome }), (i, { time := time })]

theorem samplePresentations_challenges
    : ∀ call ∈ samplePresentations,
        IsChallengeToken sampleJwt sampleChallengeConfig call.token := by
  intro call member
  refine ⟨"user", none, 0, ?_⟩
  simp only [samplePresentations, List.mem_cons, List.not_mem_nil, or_false] at member
  rcases member with rfl | rfl <;> rfl

def redisDown : JsError := .error "Redis SET NX timed out after 1000ms"

/-- Redis grants the first claim and does not answer the second. -/
theorem accepted_apart_outage
    : ∃ c, (c.value? 0).isSome = true
        ∧ (c.value? 1).isSome = true
        ∧ (ClaimFailed c 0 ∨ ClaimFailed c 1)
        ∧ samplePresentations[0].process ≠ samplePresentations[1].process := by
  have executed :
      ((initialConfig sampleJwt sampleChallengeConfig samplePresentations freshStores).run
        denyListSemantics
        (fun c i x => InTime sampleJwt sampleChallengeConfig samplePresentations c i x
          ∧ OneAtATime sampleJwt sampleChallengeConfig samplePresentations c i)
        (callAt 0 1000 ++ callAt 1 2000 (.failed redisDown))).map
        (fun c => ((c.value? 0).isSome, (c.value? 1).isSome)) = some (true, true) := by
    decide +kernel
  obtain ⟨c, reached, values⟩ := Config.reaches_of_run executed
  obtain ⟨valueI, valueJ⟩ := Prod.mk.inj values
  have apart := accepted_apart sampleJwt sampleChallengeConfig samplePresentations
    samplePresentations_challenges freshStores
  have inTime := reached.mono fun _ _ _ allowed => allowed.1
  exact ⟨c, valueI, valueJ,
    apart.1 c inTime 0 1 _ _ rfl rfl rfl (by decide) valueI valueJ,
    apart.2 c reached 0 1 _ _ rfl rfl rfl (by decide) valueI valueJ⟩

/-- Redis grants the first claim and does not answer the second: both processes accept. -/
theorem accepted_twice_outage
    : ∃ c, Config.Reaches denyListSemantics Config.anyStep
          (initialConfig sampleJwt sampleChallengeConfig samplePresentations freshStores) c
        ∧ ((c.value? 0).isSome, (c.value? 1).isSome) = (true, true) := by
  have executed :
      ((initialConfig sampleJwt sampleChallengeConfig samplePresentations freshStores).run
        denyListSemantics Config.anyStep (callAt 0 1000 ++ callAt 1 2000 (.failed redisDown))).map
        (fun c => ((c.value? 0).isSome, (c.value? 1).isSome)) = some (true, true) := by
    decide +kernel
  exact Config.reaches_of_run executed

end AcbuBackend.Challenge

import AcbuBackend.Challenge.Jwt

/-! The stages of a verification.
A call looks into the map of its process, claims its token in Redis, and enters it into the
map. Redis and the map remember a token until it expires.
-/

namespace AcbuBackend.Challenge

open Effects AcbuBackend.Runtime

-- What the stores remember

namespace DenyListWorld

/-- Redis holds a key until `deadline`, or that time has come. -/
def Remembers (w : DenyListWorld) (key : String) (deadline : Nat) : Prop :=
  deadline ≤ w.clock ∨ ∃ dropped, w.redis key = some dropped ∧ deadline ≤ dropped

/-- A process has an entry until `deadline`, or that time has come. -/
def Mirrors (w : DenyListWorld) (process : ProcessId) (jti : String) (deadline : Nat) : Prop :=
  deadline ≤ w.clock ∨ ∃ expiresAt,
    w.localDenyLists process jti = some expiresAt ∧ deadline ≤ expiresAt

theorem Remembers.held {w : DenyListWorld} {key : String} {deadline : Nat}
    (h : w.Remembers key deadline) (early : w.clock < deadline)
    : w.held key = true := by
  rcases h with late | ⟨dropped, stored, kept⟩
  · exact absurd late (Nat.not_le_of_lt early)
  · have : w.clock < dropped := by omega
    simp [DenyListWorld.held, stored, this]

end DenyListWorld

section

variable {i : Nat} {op : DenyListOp} {x : DenyListChoice} {w w' : DenyListWorld}
  {reply : denyListInterface.Reply op}

theorem act_cases (h : denyListSemantics.act i op x w = some (reply, w'))
    : w.clock ≤ x.time
      ∧ (x.outcome.isFailed = true ∧ w' = w
        ∨ w' = (denyListEffect { w with clock := x.time } op).2) := by
  obtain ⟨possible, answered⟩ := Environment.act_eq_some h
  have onTime : w.clock ≤ x.time := by
    have possible : denyListAdmissible op x w = true := possible
    simp only [denyListAdmissible, Bool.and_eq_true, decide_eq_true_eq] at possible
    exact possible.1
  refine ⟨onTime, ?_⟩
  rcases Outcome.answer_cases answered with ⟨failed, same⟩ | ⟨-, left⟩
  · exact .inl ⟨failed, same⟩
  · exact .inr left

theorem act_ok {value : op.Ret} (h : denyListSemantics.act i op x w = some (.ok value, w'))
    : denyListEffect { w with clock := x.time } op = (.ok value, w') := by
  obtain ⟨-, answered⟩ := Environment.act_eq_some h
  exact (Outcome.answer_ok answered).2

theorem clock_le_of_act (h : denyListSemantics.act i op x w = some (reply, w'))
    : w.clock ≤ w'.clock ∧ w'.clock ≤ x.time := by
  obtain ⟨onTime, ⟨-, rfl⟩ | rfl⟩ := act_cases h
  · exact ⟨Nat.le_refl _, onTime⟩
  · rw [clock_denyListEffect]
    exact ⟨onTime, Nat.le_refl _⟩

/-- Redis forgets a key only when its deadline has come. Witness: a claim is granted only for
a key that is no longer held.
-/
theorem Remembers.of_act {key : String} {deadline : Nat}
    (h : denyListSemantics.act i op x w = some (reply, w'))
    (claims : ∀ other ttl, op ≠ .set other ttl) (before : w.Remembers key deadline)
    : w'.Remembers key deadline := by
  have clock := clock_le_of_act h
  rcases before with late | ⟨dropped, stored, kept⟩
  · exact .inl (late.trans clock.1)
  obtain ⟨-, ⟨-, rfl⟩ | left⟩ := act_cases h
  · exact .inr ⟨dropped, stored, kept⟩
  have unchanged : w'.redis = w.redis → w'.Remembers key deadline :=
    fun same => .inr ⟨dropped, by rw [same]; exact stored, kept⟩
  cases op with
  | set other ttl => exact absurd rfl (claims other ttl)
  | setNx other ttl =>
      simp only [denyListEffect] at left
      split at left
      · subst left
        exact unchanged rfl
      · rename_i free
        subst left
        by_cases same : key = other
        · subst same
          have gone : dropped ≤ x.time := by simpa [DenyListWorld.held, stored] using free
          exact .inl (Nat.le_trans kept gone)
        · exact .inr ⟨dropped, by simpa [DenyListWorld.store, same] using stored, kept⟩
  | _ =>
      subst left
      exact unchanged rfl

theorem Mirrors.of_act {process : ProcessId} {jti : String} {deadline : Nat}
    (h : denyListSemantics.act i op x w = some (reply, w'))
    (keeps : ∀ expiresAt, op = .localSet process jti expiresAt
      → deadline ≤ expiresAt ∨ deadline ≤ w.clock)
    (before : w.Mirrors process jti deadline)
    : w'.Mirrors process jti deadline := by
  have clock := clock_le_of_act h
  rcases before with late | ⟨expiresAt, stored, kept⟩
  · exact .inl (late.trans clock.1)
  obtain ⟨-, ⟨-, rfl⟩ | left⟩ := act_cases h
  · exact .inr ⟨expiresAt, stored, kept⟩
  have unchanged : w'.localDenyLists = w.localDenyLists → w'.Mirrors process jti deadline :=
    fun same => .inr ⟨expiresAt, by rw [same]; exact stored, kept⟩
  cases op with
  | pruneExpired other =>
      subst left
      by_cases same : process = other
      · subst same
        by_cases gone : expiresAt ≤ x.time
        · exact .inl (Nat.le_trans kept gone)
        · refine .inr ⟨expiresAt, ?_, kept⟩
          simp [denyListEffect, DenyListWorld.prune, stored, Nat.lt_of_not_le gone]
      · exact .inr
          ⟨expiresAt, by simpa [denyListEffect, DenyListWorld.prune, same] using stored, kept⟩
  | localSet other entry other' =>
      subst left
      by_cases same : process = other ∧ jti = entry
      · obtain ⟨rfl, rfl⟩ := same
        rcases keeps other' rfl with longer | late
        · exact .inr ⟨other', by simp [denyListEffect, DenyListWorld.mirror], longer⟩
        · exact .inl (late.trans clock.1)
      · exact .inr
          ⟨expiresAt, by simpa [denyListEffect, DenyListWorld.mirror, same] using stored, kept⟩
  | setNx other ttl =>
      simp only [denyListEffect] at left
      split at left <;> subst left <;> exact unchanged rfl
  | _ =>
      subst left
      exact unchanged rfl

end

-- The stages of a call

structure Claim where
  process : ProcessId
  jti : String
  exp : Nat

/-- When the token of a claim expires. -/
def Claim.deadline (claim : Claim) : Nat :=
  claim.exp * 1000

/-- How far a call has come: it checks the token, it has found no entry in its process, it has
read the clock for the claim, it has won the token by an answer of Redis or without one, it
has entered it, or it has been turned away.
-/
inductive Stage
  | checking
  | unlisted
  | timed (now : Nat)
  | won (answered : Bool)
  | accepted (answered : Bool)
  | rejected
deriving DecidableEq

namespace Stage

/-- Between the look into the map of the process and the entry. -/
def inFlight : Stage → Bool
  | .unlisted | .timed _ | .won _ => true
  | _ => false

def winning : Stage → Bool
  | .won _ | .accepted _ => true
  | _ => false

def granted : Stage → Bool
  | .won answered | .accepted answered => answered
  | _ => false

/-- The token was won without an answer of Redis. -/
def ungranted : Stage → Bool
  | .won answered | .accepted answered => !answered
  | _ => false

/-- After the clock was read for a claim. -/
def afterTiming : Except JsError Nat → Stage
  | .ok now => .timed now
  | .error _ => .won false

def afterLook : Except JsError Bool → Stage
  | .ok false => .unlisted
  | _ => .rejected

/-- After Redis was asked. -/
def afterClaim : Except JsError Bool → Stage
  | .ok true => .won true
  | .ok false => .rejected
  | .error _ => .won false

def afterEntry (answered : Bool) : Except JsError Unit → Stage
  | .ok _ => .accepted answered
  | .error _ => .rejected

/-- The stage a call leads to. -/
def next (claim : Claim) (stage : Stage) : (op : DenyListOp) → denyListInterface.Reply op
    → Option Stage
  | .now, reply =>
      if stage = .checking then some .checking
      else if stage = .unlisted then some (afterTiming reply) else none
  | .pruneExpired process, _ =>
      if stage = .checking ∧ process = claim.process then some .checking else none
  | .localHas process jti, reply =>
      if stage = .checking ∧ process = claim.process ∧ jti = claim.jti then some (afterLook reply)
      else none
  | .setNx key ttl, reply =>
      match stage with
      | .timed now =>
          if key = keyFor claim.jti ∧ claim.deadline ≤ now + ttl * 1000 then some (afterClaim reply)
          else none
      | _ => none
  | .localSet process jti expiresAt, reply =>
      match stage with
      | .won answered =>
          if process = claim.process ∧ jti = claim.jti ∧ expiresAt = claim.deadline
          then some (afterEntry answered reply)
          else none
      | _ => none
  | _, _ => none

end Stage

/-- What a call does to the stage of a caller. -/
inductive StageMove (claim : Claim) (stage : Stage) : Event denyListInterface → Stage → Prop
  | checked (event : Event denyListInterface) (checking : stage = .checking)
      (writes : ∀ key ttl, event.op ≠ .set key ttl ∧ event.op ≠ .setNx key ttl)
      (enters : ∀ process jti expiresAt, event.op ≠ .localSet process jti expiresAt)
      (stage' : Stage) (left : stage' = .checking ∨ stage' = .rejected)
      : StageMove claim stage event stage'
  | unlisted (checking : stage = .checking)
      : StageMove claim stage ⟨.localHas claim.process claim.jti, .ok false⟩ .unlisted
  | timed (unlisted : stage = .unlisted) (now : Nat)
    : StageMove claim stage ⟨.now, .ok now⟩ (.timed now)
  | untimed (unlisted : stage = .unlisted) (error : JsError)
      : StageMove claim stage ⟨.now, .error error⟩ (.won false)
  | claimed (now ttl : Nat) (timed : stage = .timed now)
    (outlasts : claim.deadline ≤ now + ttl * 1000)
      (reply : Except JsError Bool)
      : StageMove claim stage ⟨.setNx (keyFor claim.jti) ttl, reply⟩ (.afterClaim reply)
  | entered (answered : Bool) (won : stage = .won answered) (reply : Except JsError Unit)
      : StageMove claim stage ⟨.localSet claim.process claim.jti claim.deadline, reply⟩
          (.afterEntry answered reply)

theorem StageMove.of_next {claim : Claim} {stage stage' : Stage} {op : DenyListOp}
    {reply : denyListInterface.Reply op} (h : stage.next claim op reply = some stage')
    : StageMove claim stage ⟨op, reply⟩ stage' := by
  cases op with
  | now =>
      simp only [Stage.next] at h
      split at h
      · rename_i checking
        obtain rfl := Option.some.inj h
        exact .checked _ checking (by simp) (by simp) _ (.inl rfl)
      · split at h
        · rename_i unlisted
          obtain rfl := Option.some.inj h
          cases reply with
          | ok now => exact .timed unlisted now
          | error error => exact .untimed unlisted error
        · cases h
  | pruneExpired process =>
      simp only [Stage.next] at h
      split at h
      · rename_i checking
        obtain rfl := Option.some.inj h
        exact .checked _ checking.1 (by simp) (by simp) _ (.inl rfl)
      · cases h
  | localHas process jti =>
      simp only [Stage.next] at h
      split at h
      · rename_i checking
        obtain rfl := Option.some.inj h
        obtain ⟨checking, rfl, rfl⟩ := checking
        rcases reply with error | listed
        · exact .checked _ checking (by simp) (by simp) _ (.inr rfl)
        · cases listed with
          | true => exact .checked _ checking (by simp) (by simp) _ (.inr rfl)
          | false => exact .unlisted checking
      · cases h
  | setNx key ttl =>
      simp only [Stage.next] at h
      split at h
      · rename_i now
        split at h
        · rename_i asked
          obtain rfl := Option.some.inj h
          obtain ⟨rfl, outlasts⟩ := asked
          exact .claimed now ttl rfl outlasts reply
        · cases h
      · cases h
  | localSet process jti expiresAt =>
      simp only [Stage.next] at h
      split at h
      · rename_i answered
        split at h
        · rename_i own
          obtain rfl := Option.some.inj h
          obtain ⟨rfl, rfl, rfl⟩ := own
          exact .entered answered rfl reply
        · cases h
      · cases h
  | get _ | set _ _ => cases h

theorem StageMove.claims {claim : Claim} {stage stage' : Stage} {event : Event denyListInterface}
    (move : StageMove claim stage event stage') (key : String) (ttl : Nat)
    : event.op ≠ .set key ttl := by
  cases move with
  | checked _ _ writes _ _ _ => exact (writes key ttl).1
  | _ => simp

theorem StageMove.entry {claim : Claim} {stage stage' : Stage} {event : Event denyListInterface}
    (move : StageMove claim stage event stage') {process : ProcessId} {jti : String}
    {expiresAt : Nat}
    (enters : event.op = .localSet process jti expiresAt)
    : process = claim.process ∧ jti = claim.jti ∧ expiresAt = claim.deadline
        ∧ stage.inFlight = true := by
  cases move with
  | checked _ _ _ enters' _ _ => exact absurd enters (enters' process jti expiresAt)
  | entered answered won _ =>
      cases enters
      exact ⟨rfl, rfl, rfl, by rw [won]; rfl⟩
  | _ => cases enters

def claimProtocol : Protocol denyListInterface (Claim × Stage) where
  next phase op reply := (phase.2.next phase.1 op reply).map (fun stage => (phase.1, stage))

section

variable {claim : Claim}

theorem wp_checking_now {Q : Nat → Claim × Stage → Prop} {E : JsError → Claim × Stage → Prop}
    (hQ : ∀ now, Q now (claim, .checking)) (hE : ∀ error, E error (claim, .checking))
    : claimProtocol.wp (issue .now) (claim, .checking) Q E :=
  Protocol.wp_await.mpr ⟨fun now => ⟨_, rfl, hQ now⟩, fun error => ⟨_, rfl, hE error⟩⟩

/-- The time to live outlasts the deadline, counted from the time the clock was read. -/
theorem le_ttlAt (exp now : Nat) : exp * 1000 ≤ now + ttlAt exp now * 1000 := by
  unfold ttlAt remainingSeconds
  split <;> omega

theorem wp_consumeJti
    : claimProtocol.wp (consumeJti claim.process claim.jti claim.exp) (claim, .checking)
        (fun first phase =>
          phase.1 = claim ∧ (first = true → ∃ answered, phase.2 = .accepted answered))
        (fun _ _ => True) := by
  unfold consumeJti
  simp only [Protocol.wp_bind]
  refine Protocol.wp_await.mpr ⟨fun _ => ⟨(claim,
    .checking), by simp [claimProtocol, Stage.next], ?_⟩,
      fun _ => ⟨(claim, .checking), by simp [claimProtocol, Stage.next], trivial⟩⟩
  refine Protocol.wp_await.mpr ⟨fun listed => ⟨(claim, Stage.afterLook (.ok listed)),
      by simp [claimProtocol, Stage.next], ?_⟩,
    fun error =>
      ⟨(claim, .rejected), by simp [claimProtocol, Stage.next, Stage.afterLook], trivial⟩⟩
  cases listed with
  | true => exact ⟨rfl, fun absurd => by cases absurd⟩
  | false =>
      have entry : ∀ answered, claimProtocol.wp
          (issue (.localSet claim.process claim.jti (claim.exp * 1000)) >>= fun _ => pure true)
          (claim, .won answered)
          (fun first phase =>
            phase.1 = claim ∧ (first = true → ∃ answered, phase.2 = .accepted answered))
          (fun _ _ => True) := by
        intro answered
        rw [Protocol.wp_bind]
        refine Protocol.wp_await.mpr ⟨fun _ => ⟨(claim, .accepted answered), ?_, rfl,
          fun _ => ⟨answered, rfl⟩⟩, fun _ => ⟨(claim, .rejected), ?_, trivial⟩⟩
        · simp [claimProtocol, Stage.next, Stage.afterEntry, Claim.deadline]
        · simp [claimProtocol, Stage.next, Stage.afterEntry, Claim.deadline]
      simp only [Bool.false_eq_true, if_false, Protocol.wp_bind, Protocol.wp_catchWith, ttlSeconds]
      refine Protocol.wp_await.mpr ⟨fun now => ⟨(claim, .timed now), rfl, ?_⟩,
        fun _ => ⟨(claim, .won false), rfl, entry false⟩⟩
      have asked : ∀ reply, claimProtocol.next (claim, .timed now)
          (.setNx (keyFor claim.jti) (ttlAt claim.exp now)) reply
          = some (claim, Stage.afterClaim reply) := by
        intro reply
        simp [claimProtocol, Stage.next, Claim.deadline, le_ttlAt]
      refine Protocol.wp_await.mpr ⟨fun claimed => ⟨_, asked (.ok claimed), ?_⟩,
        fun error => ⟨_, asked (.error error), entry false⟩⟩
      cases claimed with
      | true => exact entry true
      | false => exact ⟨rfl, fun absurd => by cases absurd⟩

theorem wp_checkReplay {payload : ChallengePayload}
    (jti : payload.jti.filter (fun jti => jti ≠ "") = some claim.jti)
    (exp : payload.exp = some claim.exp)
    : claimProtocol.wp (checkReplay claim.process payload true) (claim, .checking)
        (fun _ phase => phase.1 = claim ∧ ∃ answered, phase.2 = .accepted answered)
        (fun _ _ => True) := by
  unfold checkReplay
  rw [jti]
  simp only [firstUse, expiryOf, exp, Protocol.wp_bind, Protocol.wp_pure, if_true]
  apply Protocol.wp_mono wp_consumeJti
  · intro first phase won
    rw [Protocol.wp_ensure]
    exact ⟨fun granted => ⟨won.1, won.2 granted⟩, fun _ => trivial⟩
  · exact fun _ _ _ => trivial

theorem wp_checkIssuedAt {config : ChallengeConfig} {payload : ChallengePayload}
    : claimProtocol.wp (checkIssuedAt config payload) (claim, .checking)
        (fun _ phase => phase = (claim, .checking)) (fun _ _ => True) := by
  unfold checkIssuedAt
  cases payload.iat with
  | none => rfl
  | some iat =>
      simp only [Protocol.wp_bind, Protocol.wp_ensure]
      exact wp_checking_now (fun _ => ⟨fun _ => rfl, fun _ => trivial⟩) (fun _ => trivial)

end

-- Presentations of challenge tokens

/-- A call of `verifyChallengeToken` with the default options. -/
structure Presentation where
  process : ProcessId
  token : String

section

variable (jwt : JsonWebToken) (config : ChallengeConfig)

/-- The token was signed by `signChallengeToken`, for some user and at some time. -/
def IsChallengeToken (token : String) : Prop :=
  ∃ userId otpChallengeId issued,
    jwt.claims config.challengeTokenSecret token
      = some (challengePayload userId otpChallengeId issued)

def claimOf (call : Presentation) : Claim :=
  let payload := jwt.claims config.challengeTokenSecret call.token
  { process := call.process
    jti := (payload.bind ChallengePayload.jti).getD ""
    exp := (payload.bind ChallengePayload.exp).getD 0 }

variable {jwt config}

theorem claims_of_accepted {token : String} {second : Nat} {payload : ChallengePayload}
    (h : acceptedClaims jwt config token second = some payload)
    : jwt.claims config.challengeTokenSecret token = some payload :=
  (Option.filter_eq_some_iff.mp h).1

theorem wp_verifyChallengeToken {call : Presentation}
    (challenge : IsChallengeToken jwt config call.token)
    : claimProtocol.wp (verifyChallengeToken jwt config call.process call.token)
        (claimOf jwt config call, .checking)
        (fun _ phase =>
          phase.1 = claimOf jwt config call ∧ ∃ answered, phase.2 = .accepted answered)
        (fun _ _ => True) := by
  obtain ⟨userId, otpChallengeId, issued, signature⟩ := challenge
  unfold verifyChallengeToken verifyJwt
  simp only [Protocol.wp_bind, Protocol.wp_ensure]
  refine ⟨fun _ => ⟨fun _ => ?_, fun _ => trivial⟩, fun _ => trivial⟩
  refine wp_checking_now (fun now => ?_) (fun _ => trivial)
  rw [Protocol.wp_orThrow]
  refine ⟨fun payload accepted => ?_, fun _ => trivial⟩
  have signed : payload = challengePayload userId otpChallengeId issued :=
    Option.some.inj ((claims_of_accepted accepted).symm.trans signature)
  refine ⟨fun _ => ⟨fun _ => ?_, fun _ => trivial⟩, fun _ => trivial⟩
  apply Protocol.wp_mono wp_checkIssuedAt
  · rintro _ _ rfl
    have jti : payload.jti.filter (fun jti => jti ≠ "") = some (claimOf jwt config call).jti := by
      simp [claimOf, signature, signed, challengePayload, Option.filter]
    have exp : payload.exp = some (claimOf jwt config call).exp := by
      simp [claimOf, signature, signed, challengePayload]
    apply Protocol.wp_mono (wp_checkReplay jti exp)
    · exact fun _ _ entered => entered
    · exact fun _ _ _ => trivial
  · exact fun _ _ _ => trivial

end

end AcbuBackend.Challenge

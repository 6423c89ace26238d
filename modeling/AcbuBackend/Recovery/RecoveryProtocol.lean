import AcbuBackend.Auth.Calls
import AcbuBackend.Recovery.RecoveryService

/-! The stages of a verification: it finds a challenge, is admitted by the limits, compares the
code, records the attempt, and uses the challenge up.
-/

namespace AcbuBackend.Recovery

open Effects AcbuBackend.Runtime Challenge Auth

-- Stages

/-- How far a verification has come. `recorded` and `used` follow a right code; `ended` is one
that returns no key.
-/
inductive RecoveryStage
  | start
  | found (challenge : ChallengeId) (userId : UserId)
  | timed (challenge : ChallengeId) (userId : UserId) (time : Nat)
  | admitted (challenge : ChallengeId) (userId : UserId)
  | compared (challenge : ChallengeId) (userId : UserId) (agrees : Bool)
  | recorded (challenge : ChallengeId)
  | used (challenge : ChallengeId)
  | ended
deriving DecidableEq

def otpAttemptsOf (userId : UserId) (time : Nat) : AttemptFilter where
  userId := some userId
  since := time - RATE_LIMITS.user.windowMs
  reasonPrefix := some RECOVERY_OTP_ATTEMPT_PREFIX

def isOtpAttemptOf (userId : UserId) (row : RecoveryAttempt) : Bool :=
  row.userId = userId && row.reason.any (startsWith RECOVERY_OTP_ATTEMPT_PREFIX)

namespace RecoveryStage

/-- A challenge has been found and is still to be used up or given up. -/
def worksOn (stage : RecoveryStage) (challenge : ChallengeId) : Prop :=
  match stage with
  | .found other _ | .timed other _ _ | .admitted other _ | .compared other _ _ | .recorded other =>
      other = challenge
  | .start | .used _ | .ended => False

instance {stage : RecoveryStage} {challenge : ChallengeId}
    : Decidable (stage.worksOn challenge) := by
  unfold worksOn
  split <;> infer_instance

/-- The code has been compared, and that is not yet recorded. -/
def owes : RecoveryStage → Bool
  | .compared _ _ _ => true
  | _ => false

def afterLookup (userId : UserId)
    : Except JsError (Option (ChallengeId × OtpChallenge)) → RecoveryStage
  | .ok (some (challenge, _)) => .found challenge userId
  | _ => .ended

/-- After the clock was read; only the limits read it for a challenge. -/
def afterNow (stage : RecoveryStage) (reply : Except JsError Nat) : RecoveryStage :=
  match stage, reply with
  | .found challenge userId, .ok time => .timed challenge userId time
  | .found _ _, .error _ => .ended
  | stage, _ => stage

/-- After a count of attempts. The count of the attempts of the user comes last. -/
def afterCount (challenge : ChallengeId) (userId : UserId) (time : Nat) (filter : AttemptFilter)
    : Except JsError Nat → RecoveryStage
  | .error _ => .ended
  | .ok attempts =>
      if filter.userId = none then .timed challenge userId time
      else if RATE_LIMITS.user.maxAttempts ≤ attempts then .ended
      else .admitted challenge userId

def afterComparison (challenge : ChallengeId) (userId : UserId)
    : Except JsError Bool → RecoveryStage
  | .ok agrees => .compared challenge userId agrees
  | .error _ => .ended

def afterRecord (challenge : ChallengeId) (agrees : Bool) : Except JsError Unit → RecoveryStage
  | .ok _ => if agrees then .recorded challenge else .ended
  | .error _ => .ended

def afterUse (challenge : ChallengeId) : Except JsError Unit → RecoveryStage
  | .ok _ => .used challenge
  | .error _ => .ended

/-- The stage a call leads to. -/
def next (stage : RecoveryStage) : (op : AuthOp) → authInterface.Reply op → Option RecoveryStage
  | .findChallenge filter, reply =>
      if stage = .start then some (afterLookup filter.userId reply) else none
  | .denyList .now, reply => some (stage.afterNow reply)
  | .countAttempts filter, reply =>
      match stage with
      | .timed challenge userId time =>
          if filter.userId = none ∨ filter = otpAttemptsOf userId time
          then some (afterCount challenge userId time filter reply)
          else none
      | _ => none
  | .compareCode challenge _ _ _, reply =>
      match stage with
      | .admitted other userId =>
          if other = challenge then some (afterComparison challenge userId reply) else none
      | _ => none
  | .createAttempt row, reply =>
      match stage with
      | .admitted _ _ | .ended => some .ended
      | .compared challenge userId agrees =>
          if isOtpAttemptOf userId row then some (afterRecord challenge agrees reply) else none
      | _ => none
  | .useChallenge challenge _, reply =>
      match stage with
      | .timed _ _ _ | .ended => some .ended
      | .recorded other => if other = challenge then some (afterUse challenge reply) else none
      | _ => none
  | _, _ => some stage

end RecoveryStage

def recoveryProtocol : Protocol authInterface RecoveryStage where
  next := RecoveryStage.next

section

variable {challenge : ChallengeId} {userId : UserId} {time : Nat}

theorem next_findChallenge {filter : ChallengeFilter}
    {reply : Except JsError (Option (ChallengeId × OtpChallenge))}
    : recoveryProtocol.next .start (.findChallenge filter) reply
        = some (.afterLookup filter.userId reply) :=
  rfl

theorem next_countAttempts {filter : AttemptFilter} {reply : Except JsError Nat}
    (allowed : filter.userId = none ∨ filter = otpAttemptsOf userId time)
    : recoveryProtocol.next (.timed challenge userId time) (.countAttempts filter) reply
      = some (.afterCount challenge userId time filter reply) :=
  if_pos allowed

theorem next_createAttempt {agrees : Bool} {row : RecoveryAttempt} {reply : Except JsError Unit}
    (counts : isOtpAttemptOf userId row = true)
    : recoveryProtocol.next (.compared challenge userId agrees) (.createAttempt row) reply
      = some (.afterRecord challenge agrees reply) :=
  if_pos counts

theorem next_createAttempt_wrong {row : RecoveryAttempt} {reply : Except JsError Unit}
    (counts : isOtpAttemptOf userId row = true)
    : recoveryProtocol.next (.compared challenge userId false) (.createAttempt row) reply
      = some .ended := by
  rw [next_createAttempt counts]
  cases reply <;> rfl

theorem next_compareCode {id : UserId} {code hash : String} {reply : Except JsError Bool}
    : recoveryProtocol.next (.admitted challenge userId) (.compareCode challenge id code hash) reply
      = some (.afterComparison challenge userId reply) :=
  if_pos rfl

theorem next_useChallenge {usedAt : Nat} {reply : Except JsError Unit}
    : recoveryProtocol.next (.recorded challenge) (.useChallenge challenge usedAt) reply
      = some (.afterUse challenge reply) :=
  if_pos rfl

end

-- Moves

/-- What a call does to the stage of a verification. -/
inductive RecoveryMove (stage : RecoveryStage) : Event authInterface → RecoveryStage → Prop
  | other (event : Event authInterface) (stage' : RecoveryStage)
      (compares : ∀ challenge id code hash, event.op ≠ .compareCode challenge id code hash)
      (left : stage' = stage ∨ stage' = .ended ∧ ∀ k userId agrees,
        stage ≠ .compared k userId agrees)
      : RecoveryMove stage event stage'
  | found (filter : ChallengeFilter) (challenge : ChallengeId) (row : OtpChallenge)
      (start : stage = .start)
      : RecoveryMove stage ⟨.findChallenge filter, .ok (some (challenge, row))⟩
          (.found challenge filter.userId)
  | timed (challenge : ChallengeId) (userId : UserId) (time : Nat)
      (found : stage = .found challenge userId)
      : RecoveryMove stage ⟨.denyList .now, .ok time⟩ (.timed challenge userId time)
  | admitted (challenge : ChallengeId) (userId : UserId) (time attempts : Nat)
      (timed : stage = .timed challenge userId time) (few : attempts < RATE_LIMITS.user.maxAttempts)
      : RecoveryMove stage ⟨.countAttempts (otpAttemptsOf userId time), .ok attempts⟩
          (.admitted challenge userId)
  | compared (challenge : ChallengeId) (userId id : UserId) (code hash : String)
      (admitted : stage = .admitted challenge userId) (reply : Except JsError Bool)
      : RecoveryMove stage ⟨.compareCode challenge id code hash, reply⟩
          (.afterComparison challenge userId reply)
  | recorded (challenge : ChallengeId) (userId : UserId) (agrees : Bool) (row : RecoveryAttempt)
      (compared : stage = .compared challenge userId agrees)
      (counts : isOtpAttemptOf userId row = true)
      (reply : Except JsError Unit)
      : RecoveryMove stage ⟨.createAttempt row, reply⟩ (.afterRecord challenge agrees reply)
  | used (challenge : ChallengeId) (usedAt : Nat) (recorded : stage = .recorded challenge)
      (reply : Except JsError Unit)
      : RecoveryMove stage ⟨.useChallenge challenge usedAt, reply⟩ (.afterUse challenge reply)

section

variable {stage stage' : RecoveryStage}

theorem RecoveryMove.of_now {reply : Except JsError Nat}
    : RecoveryMove stage ⟨.denyList .now, reply⟩ (stage.afterNow reply) := by
  cases stage with
  | found challenge userId =>
      cases reply with
      | ok time => exact .timed challenge userId time rfl
      | error _ => exact .other _ _ (by simp) (.inr ⟨rfl, by simp⟩)
  | _ => exact .other _ _ (by simp) (.inl rfl)

theorem RecoveryMove.of_count {challenge : ChallengeId} {userId : UserId} {time : Nat}
    {filter : AttemptFilter} {reply : Except JsError Nat}
    (timed : stage = .timed challenge userId time)
    (allowed : filter.userId = none ∨ filter = otpAttemptsOf userId time)
    : RecoveryMove stage ⟨.countAttempts filter, reply⟩
        (.afterCount challenge userId time filter reply) := by
  subst timed
  cases reply with
  | error _ => exact .other _ _ (by simp) (.inr ⟨rfl, by simp⟩)
  | ok attempts =>
      dsimp only [RecoveryStage.afterCount]
      rcases allowed with other | rfl
      · rw [if_pos other]
        exact .other _ _ (by simp) (.inl rfl)
      · have ofUser : (otpAttemptsOf userId time).userId ≠ none := Option.some_ne_none _
        rw [if_neg ofUser]
        split
        · exact .other _ _ (by simp) (.inr ⟨rfl, by simp⟩)
        · rename_i few
          exact .admitted challenge userId time attempts rfl (Nat.lt_of_not_le few)

theorem RecoveryMove.of_next {op : AuthOp} {reply : authInterface.Reply op}
    (h : stage.next op reply = some stage')
    : RecoveryMove stage ⟨op, reply⟩ stage' := by
  cases op with
  | findChallenge filter =>
      simp only [RecoveryStage.next] at h
      split at h
      · rename_i start
        subst start
        obtain rfl := Option.some.inj h
        rcases reply with error | found
        · exact .other _ _ (by simp) (.inr ⟨rfl, by simp⟩)
        · cases found with
          | none => exact .other _ _ (by simp) (.inr ⟨rfl, by simp⟩)
          | some found => exact .found filter found.1 found.2 rfl
      · cases h
  | denyList op =>
      cases op with
      | now =>
          obtain rfl := Option.some.inj h
          exact .of_now
      | _ =>
          obtain rfl := Option.some.inj h
          exact .other _ _ (by simp) (.inl rfl)
  | countAttempts filter =>
      simp only [RecoveryStage.next] at h
      split at h
      · split at h
        · rename_i allowed
          obtain rfl := Option.some.inj h
          exact .of_count rfl allowed
        · cases h
      · cases h
  | compareCode challenge id code hash =>
      simp only [RecoveryStage.next] at h
      split at h
      · rename_i other userId
        split at h
        · rename_i same
          subst same
          obtain rfl := Option.some.inj h
          exact .compared other userId id code hash rfl reply
        · cases h
      · cases h
  | createAttempt row =>
      simp only [RecoveryStage.next] at h
      split at h
      · obtain rfl := Option.some.inj h
        exact .other _ _ (by simp) (.inr ⟨rfl, by simp⟩)
      · obtain rfl := Option.some.inj h
        exact .other _ _ (by simp) (.inl rfl)
      · rename_i challenge userId agrees
        split at h
        · rename_i counts
          obtain rfl := Option.some.inj h
          exact .recorded challenge userId agrees row rfl counts reply
        · cases h
      · cases h
  | useChallenge challenge usedAt =>
      simp only [RecoveryStage.next] at h
      split at h
      · obtain rfl := Option.some.inj h
        exact .other _ _ (by simp) (.inr ⟨rfl, by simp⟩)
      · obtain rfl := Option.some.inj h
        exact .other _ _ (by simp) (.inl rfl)
      · rename_i other
        split at h
        · rename_i same
          subst same
          obtain rfl := Option.some.inj h
          exact .used other usedAt rfl reply
        · cases h
      · cases h
  | _ =>
      obtain rfl := Option.some.inj h
      exact .other _ _ (by simp) (.inl rfl)

end

-- The calls after a recovery

def isDeviceCall : AuthOp → Bool
  | .findDevice _ | .writeDevice _ | .trustDevice _ => true
  | _ => false

section

variable {p : AuthOp → Prop} {userId : UserId}

theorem issues_auditRecoveryEvent {eventType : String} (calls : p (.logAudit eventType userId))
    : Issues p (auditRecoveryEvent eventType userId) :=
  (issues_query calls).catchWith fun _ => .done

theorem issues_rotateUserSessions (time : p (.denyList .now))
    (revokes : ∀ now, p (.revokeApiKeys userId now))
    (audits : p (.logAudit "session_rotated" userId))
    : Issues p (rotateUserSessions userId) := by
  refine Issues.catchWith ?_ fun _ => .done
  refine Issues.bind (issues_query time) fun now => ?_
  exact Issues.bind (issues_query (revokes now)) fun _ => issues_auditRecoveryEvent audits

theorem issues_verifyDevice (calls : ∀ op, isDeviceCall op = true → p op)
    : Issues p (verifyDevice userId) := by
  unfold verifyDevice
  refine Issues.bind (issues_query (calls _ rfl)) fun found => ?_
  split
  · exact Issues.bind (issues_query (calls _ rfl)) fun _ => .done
  · exact Issues.bind (issues_query (calls _ rfl)) fun _ => .done

theorem issues_trustRecoveryDevice {wanted : Bool} (calls : ∀ op, isDeviceCall op = true → p op)
    (audits : p (.logAudit "device_trusted" userId))
    : Issues p (trustRecoveryDevice userId wanted) := by
  unfold trustRecoveryDevice
  split
  · refine (issues_verifyDevice calls).bind fun device => ?_
    dsimp only
    split
    · exact .done
    · exact Issues.bind (issues_query (calls _ rfl)) fun _ => issues_auditRecoveryEvent audits
  · exact .done

end

-- The programs keep to the stages

section

variable {α : Type} {op : AuthOp} {stage : RecoveryStage} {challenge : ChallengeId}
    {userId : UserId}
  {attempt : OtpAttempt}

/-- A verification that returns a key has used a challenge up. -/
abbrev Recovers {α : Type} (prog : Prog authInterface α) (stage : RecoveryStage) : Prop :=
  recoveryProtocol.wp prog stage (fun _ stage => ∃ challenge, stage = .used challenge)
    (fun _ stage => stage.owes = false)

/-- A verification that returns no key. -/
abbrev Refuses {α : Type} (prog : Prog authInterface α) (stage : RecoveryStage) : Prop :=
  recoveryProtocol.wp prog stage (fun _ _ => False) (fun _ stage => stage.owes = false)

theorem Refuses.recovers {prog : Prog authInterface α} (h : Refuses prog stage)
    : Recovers prog stage :=
  Protocol.wp_mono h (fun _ _ absurd => absurd.elim) (fun _ _ known => known)

theorem wp_ignoring {β : Type} {prog : Prog authInterface α} {next : α → Prog authInterface β}
    {Q : β → RecoveryStage → Prop} (paid : stage.owes = false)
    (h : Issues (recoveryProtocol.Ignores stage) prog)
    (rest : ∀ value, recoveryProtocol.wp (next value) stage Q (fun _ stage => stage.owes = false))
    : recoveryProtocol.wp (prog >>= next) stage Q (fun _ stage => stage.owes = false) := by
  rw [Protocol.wp_bind]
  apply Protocol.wp_mono (Protocol.wp_of_only h)
  · rintro value _ ⟨-, rfl⟩
    exact rest value
  · rintro _ _ ⟨-, rfl⟩
    exact paid

/-- The deny-list is no part of a verification, before it finds its challenge and after it is
settled.
-/
theorem recovery_ignores_denyList
    (apart : stage = .start ∨ stage = .ended ∨ ∃ challenge, stage = .used challenge)
    (listed : op.isDenyList = true)
    : recoveryProtocol.Ignores stage op := by
  intro reply
  cases op with
  | denyList op =>
      cases op with
      | now => rcases apart with rfl | rfl | ⟨_, rfl⟩ <;> rfl
      | _ => rfl
  | _ => cases listed

theorem recovery_ignores_makesKey (makes : op.makesKey = true)
    : recoveryProtocol.Ignores stage op := by
  intro reply
  cases op with
  | randomText | bcryptHash _ | createApiKey _ _ => rfl
  | _ => cases makes

theorem issues_revokeRecoveryChallengeToken {process : ProcessId} {payload : ChallengePayload}
    (apart : stage = .start ∨ stage = .ended ∨ ∃ challenge, stage = .used challenge)
    : Issues (recoveryProtocol.Ignores stage) (revokeRecoveryChallengeToken process payload) :=
  issues_revokeChallenge fun _ => recovery_ignores_denyList apart

theorem recovery_ignores_isDeviceCall (device : isDeviceCall op = true)
    : recoveryProtocol.Ignores stage op := by
  intro reply
  cases op with
  | findDevice _ | writeDevice _ | trustDevice _ => rfl
  | _ => cases device

theorem recovery_ignores_logAudit {eventType : String}
    : recoveryProtocol.Ignores stage (.logAudit eventType userId) :=
  fun _ => rfl

theorem wp_orUnavailable {process : ProcessId} {payload : ChallengePayload}
    {body : Prog authInterface α} {Q : α → RecoveryStage → Prop}
    (h : recoveryProtocol.wp body stage Q (fun _ stage => stage = .ended))
    : recoveryProtocol.wp (orUnavailable process payload body) stage Q
        (fun _ stage => stage.owes = false) := by
  refine Protocol.wp_catchWith.mpr (Protocol.wp_mono h (fun _ _ known => known) ?_)
  rintro error _ rfl
  exact wp_ignoring rfl (issues_revokeRecoveryChallengeToken (.inr (.inl rfl))) fun _ => rfl

theorem wp_recordRecoveryOtpAttempt {success : Bool} {reason : String}
    (later : Except JsError Unit → RecoveryStage)
    (moves : ∀ row reply, isOtpAttemptOf attempt.payload.userId row = true →
      recoveryProtocol.next stage (.createAttempt row) reply = some (later reply))
    (failed : ∀ error, later (.error error) = .ended)
    : recoveryProtocol.wp (recordRecoveryOtpAttempt attempt success reason) stage
        (fun _ stage => stage = later (.ok ())) (fun _ stage => stage.owes = false) := by
  refine wp_orUnavailable (Protocol.wp_await.mpr ⟨fun value => ⟨_, moves _ (.ok value) ?_, rfl⟩,
    fun error => ⟨_, moves _ (.error error) ?_, failed error⟩⟩)
  all_goals simp [isOtpAttemptOf, startsWith, String.toList_append]

theorem wp_retireChallenge_ended {Q : Unit → RecoveryStage → Prop} (h : Q () .ended)
    : recoveryProtocol.wp (retireChallenge attempt) .ended Q
        (fun _ stage => stage.owes = false) := by
  unfold retireChallenge markRecoveryChallengeUsed
  rw [Protocol.wp_bind]
  refine wp_orUnavailable (Protocol.wp_await.mpr ⟨fun _ => ⟨_, rfl, ?_⟩, fun _ => ⟨_, rfl, rfl⟩⟩)
  apply Protocol.wp_mono (Protocol.wp_of_only
    (issues_revokeRecoveryChallengeToken (.inr (.inl (Eq.refl RecoveryStage.ended)))))
  · rintro _ _ ⟨-, rfl⟩
    exact h
  · rintro _ _ ⟨-, rfl⟩
    rfl

theorem wp_lockChallenge {β : Type} {next : Unit → Prog authInterface β}
    (rest : Refuses (next ()) .ended)
    : Refuses (lockChallenge attempt >>= next) .ended := by
  unfold Refuses lockChallenge
  rw [Protocol.wp_bind]
  split
  · exact wp_retireChallenge_ended rest
  · exact rest

theorem refuses_rejectOtp
    (moves : ∀ row reply, isOtpAttemptOf attempt.payload.userId row = true →
      recoveryProtocol.next stage (.createAttempt row) reply = some .ended)
    : Refuses (rejectOtp (α := α) attempt) stage := by
  unfold Refuses rejectOtp
  rw [Protocol.wp_bind]
  apply Protocol.wp_mono (wp_recordRecoveryOtpAttempt (fun _ => .ended) moves fun _ => rfl)
  · rintro _ _ rfl
    exact wp_lockChallenge (wp_ignoring rfl (issues_auditRecoveryEvent recovery_ignores_logAudit)
      fun _ => rfl)
  · exact fun _ _ known => known

/-- Where the limits leave a verification. -/
def AfterLimits (challenge : ChallengeId) (userId : UserId) (allowed : Bool) (stage : RecoveryStage)
    : Prop :=
  if allowed then stage = .admitted challenge userId
  else stage = .ended ∨ ∃ time, stage = .timed challenge userId time

theorem wp_reached_other {limit : RateLimit} {source : Option String}
    {filterOf : String → AttemptFilter} {time : Nat} (other : ∀ text, (filterOf text).userId = none)
    : recoveryProtocol.wp (limit.reached source filterOf) (.timed challenge userId time)
        (fun _ stage => stage = .timed challenge userId time) (fun _ stage => stage = .ended) := by
  unfold RateLimit.reached
  split
  · rfl
  · rename_i text _
    rw [Protocol.wp_bind]
    exact Protocol.wp_await.mpr
      ⟨fun attempts => ⟨_, if_pos (.inl (other text)), if_pos (other text)⟩,
        fun _ => ⟨_, if_pos (.inl (other text)), rfl⟩⟩

theorem wp_reached_user {time : Nat} (given : userId ≠ "")
    : recoveryProtocol.wp (RATE_LIMITS.user.reached (some userId) (fun userId =>
          { userId := some userId, since := time - RATE_LIMITS.user.windowMs,
            reasonPrefix := some RECOVERY_OTP_ATTEMPT_PREFIX })) (.timed challenge userId time)
        (fun reached stage => AfterLimits challenge userId (!reached) stage)
        (fun _ stage => stage = .ended) := by
  have source : (some userId).filter (fun text => text ≠ "") = some userId := by simp [given]
  unfold RateLimit.reached
  rw [source]
  dsimp only
  rw [Protocol.wp_bind]
  refine Protocol.wp_await.mpr ⟨fun attempts => ⟨_, if_pos (.inr rfl), ?_⟩,
    fun _ => ⟨_, if_pos (.inr rfl), rfl⟩⟩
  have counted : (otpAttemptsOf userId time).userId ≠ none := Option.some_ne_none _
  change AfterLimits challenge userId _
    (.afterCount challenge userId time (otpAttemptsOf userId time) (.ok attempts))
  dsimp only [RecoveryStage.afterCount]
  rw [if_neg counted]
  by_cases many : RATE_LIMITS.user.maxAttempts ≤ attempts <;> simp [AfterLimits, many]

theorem wp_checkRecoveryRateLimit {identifier ip : String} (given : userId ≠ "")
    : recoveryProtocol.wp (checkRecoveryRateLimit identifier (some userId) (some ip)
          (some RECOVERY_OTP_ATTEMPT_PREFIX)) (.found challenge userId)
        (fun result stage => AfterLimits challenge userId result.allowed stage)
        (fun _ stage => stage = .ended) := by
  unfold checkRecoveryRateLimit
  rw [Protocol.wp_bind]
  refine Protocol.wp_await.mpr ⟨fun time => ⟨.timed challenge userId time, rfl, ?_⟩,
    fun _ => ⟨.ended, rfl, rfl⟩⟩
  have counted : (some RECOVERY_OTP_ATTEMPT_PREFIX).filter (fun text => text ≠ "")
      = some RECOVERY_OTP_ATTEMPT_PREFIX := by decide
  rw [counted, Protocol.wp_bind]
  refine Protocol.wp_await.mpr
    ⟨fun attempts => ⟨_, next_countAttempts (.inl rfl), ?_⟩,
      fun _ => ⟨_, next_countAttempts (.inl rfl), rfl⟩⟩
  have refused : ∀ reason limit, AfterLimits challenge userId
      (RateLimit.refuse limit time reason).allowed (.timed challenge userId time) :=
    fun _ _ => .inr ⟨time, rfl⟩
  rw [Protocol.wp_ite]
  refine ⟨fun _ => refused _ _, fun _ => ?_⟩
  rw [Protocol.wp_bind]
  apply Protocol.wp_mono (wp_reached_other fun _ => rfl)
  · rintro ipReached _ rfl
    rw [Protocol.wp_ite]
    refine ⟨fun _ => refused _ _, fun _ => ?_⟩
    rw [Protocol.wp_bind]
    apply Protocol.wp_mono (wp_reached_user given)
    · intro userReached stage known
      cases userReached with
      | true => exact known
      | false => exact known
    · exact fun _ _ known => known
  · exact fun _ _ known => known

theorem wp_retireChallenge_recorded
    : recoveryProtocol.wp (retireChallenge attempt) (.recorded attempt.challengeId)
        (fun _ stage => stage = .used attempt.challengeId) (fun _ stage => stage.owes = false) := by
  unfold retireChallenge markRecoveryChallengeUsed
  rw [Protocol.wp_bind]
  refine wp_orUnavailable (Protocol.wp_await.mpr
    ⟨fun _ => ⟨_, next_useChallenge, ?_⟩,
      fun _ => ⟨_, next_useChallenge, rfl⟩⟩)
  apply Protocol.wp_mono (Protocol.wp_of_only
    (issues_revokeRecoveryChallengeToken (.inr (.inr ⟨attempt.challengeId, rfl⟩))))
  · rintro _ _ ⟨-, rfl⟩
    rfl
  · rintro _ _ ⟨-, rfl⟩
    rfl

theorem recovers_completeRecovery {params : VerifyRecoveryOtpParams}
    : Recovers (completeRecovery attempt params)
        (.compared attempt.challengeId attempt.payload.userId true) := by
  unfold completeRecovery Recovers
  rw [Protocol.wp_bind]
  apply Protocol.wp_mono (wp_recordRecoveryOtpAttempt (.afterRecord attempt.challengeId true)
    (fun _ _ counts => next_createAttempt counts) fun _ => rfl)
  · rintro _ _ rfl
    rw [Protocol.wp_bind]
    apply Protocol.wp_mono wp_retireChallenge_recorded
    · rintro _ _ rfl
      refine wp_ignoring rfl (issues_rotateUserSessions (fun _ => rfl) (fun _ _ => rfl)
        recovery_ignores_logAudit) fun _ => ?_
      refine wp_ignoring rfl (issues_generateApiKey fun _ => recovery_ignores_makesKey) fun _ => ?_
      refine wp_ignoring rfl (issues_trustRecoveryDevice (fun _ => recovery_ignores_isDeviceCall)
        recovery_ignores_logAudit) fun _ => ?_
      exact wp_ignoring rfl (issues_auditRecoveryEvent recovery_ignores_logAudit) fun _ => ⟨_, rfl⟩
    · exact fun _ _ known => known
  · exact fun _ _ known => known

theorem refuses_limited {time : Nat}
    (limited : stage = .ended ∨ stage = .timed attempt.challengeId userId time)
    : Refuses (α := α) (do
        retireChallenge attempt
        auditRecoveryEvent "recovery_failed" attempt.payload.userId
        .fail (.error RECOVERY_OTP_LOCKOUT_ERROR)) stage := by
  have ends : Refuses (α := α) (do
      auditRecoveryEvent "recovery_failed" attempt.payload.userId
      .fail (.error RECOVERY_OTP_LOCKOUT_ERROR)) .ended :=
    wp_ignoring rfl (issues_auditRecoveryEvent recovery_ignores_logAudit) fun _ => rfl
  have moves : ∀ reply, recoveryProtocol.next stage
      (.useChallenge attempt.challengeId attempt.foundAt) reply = some .ended := by
    intro reply
    rcases limited with rfl | rfl <;> rfl
  unfold Refuses retireChallenge markRecoveryChallengeUsed
  simp only [Protocol.wp_bind]
  refine wp_orUnavailable (Protocol.wp_await.mpr
    ⟨fun value => ⟨_, moves (.ok value), ?_⟩, fun error => ⟨_, moves (.error error), rfl⟩⟩)
  apply Protocol.wp_mono (Protocol.wp_of_only
    (issues_revokeRecoveryChallengeToken (.inr (.inl (Eq.refl RecoveryStage.ended)))))
  · rintro _ _ ⟨-, rfl⟩
    have ends := ends
    unfold Refuses at ends
    rwa [Protocol.wp_bind] at ends
  · rintro _ _ ⟨-, rfl⟩
    rfl

theorem wp_compareOtp {code codeHash : String}
    : recoveryProtocol.wp (compareOtp attempt code codeHash)
        (.admitted attempt.challengeId attempt.payload.userId)
        (fun isMatch stage => stage = .compared attempt.challengeId attempt.payload.userId isMatch)
        (fun _ stage => stage.owes = false) := by
  refine Protocol.wp_catchWith.mpr (Protocol.wp_await.mpr
    ⟨fun isMatch => ⟨_, next_compareCode, rfl⟩, fun _ => ⟨_, next_compareCode, ?_⟩⟩)
  have refuses : Refuses (α := Bool) (do
      recordRecoveryOtpAttempt attempt false "verification_error"
      lockChallenge attempt
      .fail (.error RECOVERY_OTP_UNAVAILABLE_ERROR)) .ended := by
    unfold Refuses
    rw [Protocol.wp_bind]
    apply Protocol.wp_mono (wp_recordRecoveryOtpAttempt (fun _ => .ended) (fun _ _ _ => rfl)
      fun _ => rfl)
    · rintro _ _ rfl
      exact wp_lockChallenge rfl
    · exact fun _ _ known => known
  exact Protocol.wp_mono refuses (fun _ _ absurd => absurd.elim) (fun _ _ known => known)

theorem recovers_attemptChallenge {codeHash : String} {params : VerifyRecoveryOtpParams}
    (given : attempt.payload.userId ≠ "")
    : Recovers (attemptChallenge attempt codeHash params)
        (.found attempt.challengeId attempt.payload.userId) := by
  unfold attemptChallenge Recovers
  rw [Protocol.wp_bind]
  refine wp_orUnavailable (Protocol.wp_mono (wp_checkRecoveryRateLimit given) ?_
    fun _ _ known => known)
  intro result stage known
  dsimp only
  -- the attempt goes on with its count
  generalize counts :
    ({ attempt with attemptCount := getRecoveryChallengeAttemptCount result.remainingAttempts }
      : OtpAttempt) = counted
  have same : counted.challengeId = attempt.challengeId ∧ counted.payload = attempt.payload := by
    rw [← counts]
    exact ⟨rfl, rfl⟩
  rw [← same.1, ← same.2] at known
  cases allowed : result.allowed with
  | false =>
      rw [allowed] at known
      have limited : stage = .ended
          ∨ ∃ time, stage = .timed counted.challengeId counted.payload.userId time := known
      simp only [Bool.not_false, if_true]
      rw [← same.2]
      rcases limited with ended | ⟨time, timed⟩
      · exact (refuses_limited (show _ ∨ _ = RecoveryStage.timed _ "" 0 from .inl ended)).recovers
      · exact (refuses_limited (.inr timed)).recovers
  | true =>
      rw [allowed] at known
      obtain rfl : stage = .admitted counted.challengeId counted.payload.userId := known
      simp only [Bool.not_true, Bool.false_eq_true, if_false]
      split
      · exact (refuses_rejectOtp fun _ _ _ => rfl).recovers
      · rw [Protocol.wp_bind]
        apply Protocol.wp_mono wp_compareOtp
        · rintro isMatch _ rfl
          cases isMatch with
          | true => exact recovers_completeRecovery
          | false =>
              exact (refuses_rejectOtp fun _ _ counts => next_createAttempt_wrong counts).recovers
        · exact fun _ _ known => known

theorem wp_verifyRecoveryToken {config : AuthConfig} {process : ProcessId} {token : String}
    : recoveryProtocol.wp (verifyRecoveryToken config process token) .start
        (fun payload stage => stage = .start ∧ payload.userId ≠ "")
        (fun _ stage => stage.owes = false) := by
  have verified : recoveryProtocol.wp
      (do
        let payload ←
          (verifyChallengeToken config.jwt config.challenge process token false).within
            denyListCalls
        Prog.ensure (payload.userId ≠ "") (.error "Invalid challenge")
        return payload) .start
      (fun payload stage => stage = .start ∧ payload.userId ≠ "")
      (fun _ stage => stage.owes = false) := by
    refine wp_ignoring rfl (issues_within fun _ => recovery_ignores_denyList (.inl rfl))
      fun payload => ?_
    rw [Protocol.wp_bind, Protocol.wp_ensure]
    exact ⟨fun given => ⟨rfl, of_decide_eq_true given⟩, fun _ => rfl⟩
  exact Protocol.wp_catchWith.mpr (Protocol.wp_mono verified (fun _ _ known => known)
    fun _ _ known => known)

theorem recovers_verifyRecoveryOtp {config : AuthConfig} {process : ProcessId}
    {params : VerifyRecoveryOtpParams}
    : Recovers (verifyRecoveryOtp config process params) .start := by
  unfold verifyRecoveryOtp verifyRecoveryPayload Recovers
  rw [Protocol.wp_bind]
  apply Protocol.wp_mono wp_verifyRecoveryToken
  · rintro payload _ ⟨rfl, given⟩
    rw [Protocol.wp_bind]
    refine Protocol.wp_await.mpr ⟨fun time => ⟨.start, rfl, ?_⟩, fun _ => ⟨.start, rfl, rfl⟩⟩
    rw [Protocol.wp_bind]
    refine wp_orUnavailable (Protocol.wp_await.mpr ⟨fun found => ⟨_, next_findChallenge, ?_⟩,
      fun _ => ⟨_, next_findChallenge, rfl⟩⟩)
    cases found with
    | none =>
        refine wp_ignoring rfl (issues_revokeRecoveryChallengeToken (.inr (.inl rfl))) fun _ => ?_
        exact wp_ignoring rfl (issues_auditRecoveryEvent recovery_ignores_logAudit) fun _ => rfl
    | some found => exact recovers_attemptChallenge given
  · exact fun _ _ known => known

end

end AcbuBackend.Recovery

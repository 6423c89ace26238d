import AcbuBackend.Auth.Calls
import AcbuBackend.Auth.Frames

/-! The stages of an attempt on an account: a sign-in or a second factor reads the account, checks
its lock, compares, and writes the counter and the lock.
-/

namespace AcbuBackend.Auth

open Effects AcbuBackend.Runtime Challenge

-- Attempts

/-- A call of `signin`, or of `verify2fa` in a server process. -/
inductive Attempt
  | signin (params : SigninParams)
  | verify2fa (process : ProcessId) (params : Verify2faParams)

def Attempt.program (config : AuthConfig) : Attempt → Prog authInterface SigninResult
  | .signin params => Auth.signin config params
  | .verify2fa process params => do
      let session ← Auth.verify2fa config process params
      return .session session

-- Stages

/-- How far an attempt has come: it has not read an account, it has read one that is locked
until a time, it may compare, it has compared wrongly with the counter it read, also with the
time its lock starts from, it has compared rightly, or it writes the account no more.
-/
inductive AttemptStage
  | start
  | locked (id : UserId) (attempts lockedUntil : Nat)
  | admitted (id : UserId) (attempts : Nat)
  | wrong (id : UserId) (attempts : Nat)
  | timed (id : UserId) (attempts time : Nat)
  | right (id : UserId)
  | settled
deriving DecidableEq

namespace AttemptStage

/-- The attempt has read the account and may still write it. -/
def worksOn (stage : AttemptStage) (id : UserId) : Prop :=
  match stage with
  | .start | .settled => False
  | .locked other _ _ | .admitted other _ | .wrong other _ | .timed other _ _ | .right other =>
      other = id

instance {stage : AttemptStage} {id : UserId} : Decidable (stage.worksOn id) := by
  unfold worksOn
  split <;> infer_instance

def owes : AttemptStage → Bool
  | .wrong _ _ | .timed _ _ _ => true
  | _ => false

def afterRead (id : UserId) (user : User) : AttemptStage :=
  match user.lockoutUntil with
  | none => .admitted id user.failedSigninAttempts
  | some lockedUntil => .locked id user.failedSigninAttempts lockedUntil

/-- After a search for the account an identifier names. -/
def afterSearch : Except JsError (Option (UserId × User)) → AttemptStage
  | .ok (some (id, user)) => afterRead id user
  | .ok none => .admitted "dummy-id" 0
  | .error _ => .settled

def afterLookup (id : UserId) : Except JsError (Option User) → AttemptStage
  | .ok (some user) => afterRead id user
  | _ => .settled

/-- After the clock was read. -/
def afterNow (stage : AttemptStage) (reply : Except JsError Nat) : AttemptStage :=
  match stage, reply with
  | .locked id attempts lockedUntil, .ok time =>
      if lockedUntil ≤ time then .admitted id attempts else .settled
  | .locked _ _ _, .error _ => .settled
  | .wrong id attempts, .ok time => .timed id attempts time
  | .wrong _ _, .error _ => .settled
  | stage, _ => stage

def afterComparison (id : UserId) (attempts : Nat) : Except JsError Bool → AttemptStage
  | .ok true => .right id
  | .ok false => .wrong id attempts
  | .error _ => .settled

def mayWrite (config : AuthConfig) (stage : AttemptStage) (id : UserId) (failedSigninAttempts : Nat)
    (lockoutUntil : Option Nat)
    : Bool :=
  match stage with
  | .wrong other attempts =>
      other = id ∧ failedSigninAttempts = attempts + 1
        ∧ failedSigninAttempts < config.maxSigninAttempts
        ∧ lockoutUntil = none
  | .timed other attempts time =>
      other = id ∧ failedSigninAttempts = attempts + 1
        ∧ config.maxSigninAttempts ≤ failedSigninAttempts
        ∧ lockoutUntil = some (time + config.signinLockoutDurationMs)
  | .right other | .admitted other _ => other = id ∧ failedSigninAttempts = 0 ∧ lockoutUntil = none
  | _ => false

end AttemptStage

/-- The account whose passcode or second factor a call compares. -/
def AuthOp.comparesFor : AuthOp → Option UserId
  | .comparePasscode id _ _ | .compareCode _ id _ _ | .checkTotp id _ _ => some id
  | _ => none

def AttemptStage.compare (stage : AttemptStage) (id : UserId) (reply : Except JsError Bool)
    : Option AttemptStage :=
  match stage with
  | .admitted other attempts =>
      if other = id then some (afterComparison id attempts reply) else none
  | _ => none

/-- The stage a call leads to. -/
def AttemptStage.next (config : AuthConfig) (stage : AttemptStage)
    : (op : AuthOp) → authInterface.Reply op → Option AttemptStage
  | .findUserBy _ _, reply => if stage = .start then some (afterSearch reply) else none
  | .findUser id, reply =>
      if stage = .start then some (afterLookup id reply)
      else if stage = .settled then some .settled
      else none
  | .denyList .now, reply => some (stage.afterNow reply)
  | .comparePasscode id _ _, reply => stage.compare id reply
  | .compareCode _ id _ _, reply => stage.compare id reply
  | .checkTotp id _ _, reply => stage.compare id reply
  | .updateUser id failedSigninAttempts lockoutUntil, _ =>
      if stage.mayWrite config id failedSigninAttempts lockoutUntil then some .settled else none
  | _, _ => some stage

def attemptProtocol (config : AuthConfig) : Protocol authInterface AttemptStage where
  next := AttemptStage.next config

-- The programs keep to the stages

section

variable {config : AuthConfig} {op : AuthOp} {id : UserId} {user : User} {stage : AttemptStage}

theorem attempt_ignores_guards (guards : op.guards = true)
    : (attemptProtocol config).Ignores stage op := by
  intro reply
  cases op with
  | getBruteAttempts _ _ | siteverify _ _ => rfl
  | _ => cases guards

theorem attempt_ignores_denyList (apart : stage = .start ∨ stage = .settled)
    (listed : op.isDenyList = true)
    : (attemptProtocol config).Ignores stage op := by
  intro reply
  cases op with
  | denyList op =>
      cases op with
      | now => rcases apart with rfl | rfl <;> rfl
      | _ => rfl
  | _ => cases listed

theorem settled_ignores_opensSession (opens : op.opensSession = true)
    : (attemptProtocol config).Ignores .settled op := by
  intro reply
  cases op with
  | denyList op =>
      cases op with
      | now => rfl
      | _ => cases opens
  | findUser _ | logAudit _ _ | randomText | bcryptHash _ | createApiKey _ _
  | createRefreshToken _ _ =>
      rfl
  | _ => cases opens

theorem settled_ignores_asksCode (asks : op.asksCode = true)
    : (attemptProtocol config).Ignores .settled op := by
  intro reply
  cases op with
  | denyList op =>
      cases op with
      | now => rfl
      | _ => cases asks
  | findUser _ | logAudit _ _ | generateSecureOtp | bcryptHash _ | createChallenge _
  | publishOtp _ _ _
  | signChallengeToken _ => rfl
  | _ => cases asks

/-- An attempt that has ended owes nothing. -/
abbrev EndsPaid (config : AuthConfig) {α : Type} (prog : Prog authInterface α)
    (stage : AttemptStage)
    : Prop :=
  (attemptProtocol config).wp prog stage (fun _ stage => stage.owes = false)
    (fun _ stage => stage.owes = false)

theorem EndsPaid.ignoring {α β : Type} {prog : Prog authInterface α}
    {next : α → Prog authInterface β}
    (paid : stage.owes = false) (h : Issues ((attemptProtocol config).Ignores stage) prog)
    (rest : ∀ value, EndsPaid config (next value) stage)
    : EndsPaid config (prog >>= next) stage := by
  unfold EndsPaid
  rw [Protocol.wp_bind]
  apply Protocol.wp_mono (Protocol.wp_of_only h)
  · rintro value _ ⟨-, rfl⟩
    exact rest value
  · rintro _ _ ⟨-, rfl⟩
    exact paid

theorem EndsPaid.query {β : Type} {op : AuthOp} {next : op.Ret → Prog authInterface β}
    (later : authInterface.Reply op → AttemptStage)
    (moves : ∀ reply, stage.next config op reply = some (later reply))
    (failed : ∀ error, (later (.error error)).owes = false)
    (rest : ∀ value, EndsPaid config (next value) (later (.ok value)))
    : EndsPaid config (Auth.query op >>= next) stage := by
  unfold EndsPaid
  rw [Protocol.wp_bind]
  exact Protocol.wp_await.mpr ⟨fun value => ⟨_, moves (.ok value), rest value⟩,
    fun error => ⟨_, moves (.error error), failed error⟩⟩

theorem wp_rejectLocked
    : (attemptProtocol config).wp (rejectLocked user.lockoutUntil) (.afterRead id user)
        (fun _ stage => stage = .admitted id user.failedSigninAttempts)
        (fun _ stage => stage.owes = false) := by
  unfold rejectLocked AttemptStage.afterRead
  cases user.lockoutUntil with
  | none => rfl
  | some lockedUntil =>
      rw [Protocol.wp_bind]
      refine Protocol.wp_await.mpr ⟨fun time => ⟨_, rfl, ?_⟩, fun _ => ⟨_, rfl, rfl⟩⟩
      rw [Protocol.wp_ensure]
      constructor
      · intro passed
        exact if_pos (of_decide_eq_true passed)
      · intro inForce
        have refused : AttemptStage.afterNow (.locked id user.failedSigninAttempts lockedUntil)
          (.ok time)
            = .settled :=
          if_neg (of_decide_eq_false inForce)
        rw [refused]
        rfl

theorem wp_handleFailure {attempts : Nat}
    : (attemptProtocol config).wp (handleFailure config id attempts) (.wrong id attempts)
        (fun _ stage => stage = .settled) (fun _ stage => stage = .settled) := by
  unfold handleFailure
  split
  · rename_i many
    rw [Protocol.wp_bind]
    refine Protocol.wp_await.mpr ⟨fun time => ⟨.timed id attempts time, rfl, ?_⟩,
      fun _ => ⟨_, rfl, rfl⟩⟩
    have allowed : (AttemptStage.timed id attempts time).mayWrite config id (attempts + 1)
        (some (time + config.signinLockoutDurationMs)) = true := by
      simp [AttemptStage.mayWrite, many]
    exact Protocol.wp_await.mpr ⟨fun _ => ⟨_, if_pos allowed, rfl⟩,
      fun _ => ⟨_, if_pos allowed, rfl⟩⟩
  · rename_i few
    have allowed : (AttemptStage.wrong id attempts).mayWrite config id (attempts + 1) none
        = true := by
      simpa [AttemptStage.mayWrite] using few
    exact Protocol.wp_await.mpr ⟨fun _ => ⟨_, if_pos allowed, rfl⟩,
      fun _ => ⟨_, if_pos allowed, rfl⟩⟩

theorem endsPaid_handleFailure {α : Type} {attempts : Nat} {error : JsError}
    : EndsPaid (α := α) config (do handleFailure config id attempts; .fail error)
        (.wrong id attempts) := by
  unfold EndsPaid
  rw [Protocol.wp_bind]
  apply Protocol.wp_mono wp_handleFailure
  · rintro _ _ rfl
    rfl
  · rintro _ _ rfl
    rfl

theorem endsPaid_reset {β : Type} {next : Unit → Prog authInterface β}
    (resets : stage.mayWrite config id 0 none = true)
    (rest : ∀ value, EndsPaid config (next value) .settled)
    : EndsPaid config (query (.updateUser id 0 none) >>= next) stage :=
  EndsPaid.query (fun _ => .settled) (fun _ => if_pos resets) (fun _ => rfl) rest

theorem endsPaid_of_issues {α : Type} {prog : Prog authInterface α} (paid : stage.owes = false)
    (h : Issues ((attemptProtocol config).Ignores stage) prog)
    : EndsPaid config prog stage := by
  apply Protocol.wp_mono (Protocol.wp_of_only h)
  · rintro _ _ ⟨-, rfl⟩
    exact paid
  · rintro _ _ ⟨-, rfl⟩
    exact paid

theorem endsPaid_afterPasscode {params : SigninParams} {isMatch : Bool}
    : EndsPaid config (afterPasscode config params id user isMatch)
        (.afterComparison id user.failedSigninAttempts (.ok isMatch)) := by
  unfold afterPasscode
  cases isMatch with
  | false => exact endsPaid_handleFailure
  | true =>
      refine endsPaid_reset (by simp [AttemptStage.afterComparison, AttemptStage.mayWrite])
        fun _ => ?_
      split
      · exact endsPaid_of_issues rfl (issues_requireSecondFactor fun _ => settled_ignores_asksCode)
      · exact endsPaid_of_issues rfl (Issues.bind
          (issues_openSession fun _ => settled_ignores_opensSession) fun _ => .done)

theorem endsPaid_signin {params : SigninParams}
    : EndsPaid config (signin config params) .start := by
  unfold signin resolveUserByIdentifier
  refine .ignoring rfl (issues_getStatus fun _ => attempt_ignores_guards) fun status => ?_
  refine .ignoring rfl .ensure fun _ => ?_
  refine .ignoring rfl (issues_checkCaptcha fun _ => attempt_ignores_guards) fun _ => ?_
  unfold EndsPaid
  simp only [Protocol.wp_bind]
  refine Protocol.wp_await.mpr ⟨fun found => ⟨.afterSearch (.ok found), rfl, ?_⟩,
    fun error => ⟨.afterSearch (.error error), rfl, rfl⟩⟩
  have read : AttemptStage.afterSearch (.ok found)
      = .afterRead (found.getD ("dummy-id", { passcodeHash := some DUMMY_HASH })).1
          (found.getD ("dummy-id", { passcodeHash := some DUMMY_HASH })).2 := by
    cases found <;> rfl
  rw [read]
  generalize found.getD ("dummy-id", { passcodeHash := some DUMMY_HASH }) = account
  obtain ⟨id, user⟩ := account
  apply Protocol.wp_mono wp_rejectLocked
  · rintro _ _ rfl
    rw [Protocol.wp_orThrow]
    refine ⟨fun hash _ => ?_, fun _ => rfl⟩
    refine Protocol.wp_await.mpr ⟨fun isMatch => ⟨_, if_pos rfl, endsPaid_afterPasscode⟩,
      fun _ => ⟨_, if_pos rfl, rfl⟩⟩
  · exact fun _ _ paid => paid

theorem wp_checkSecondFactor {code method : String}
    : (attemptProtocol config).wp (checkSecondFactor config code id user method)
        (.admitted id user.failedSigninAttempts)
        (fun _ stage => stage.mayWrite config id 0 none = true)
        (fun _ stage => stage.owes = false) := by
  have admitted : (AttemptStage.admitted id user.failedSigninAttempts).mayWrite config id 0 none
      = true := by
    simp [AttemptStage.mayWrite]
  have compared : ∀ isMatch : Bool,
      (attemptProtocol config).wp (if isMatch then return () else rejectCode config id user)
        (.afterComparison id user.failedSigninAttempts (.ok isMatch))
        (fun _ stage => stage.mayWrite config id 0 none = true)
        (fun _ stage => stage.owes = false) := by
    intro isMatch
    cases isMatch with
    | true => simp [AttemptStage.afterComparison, AttemptStage.mayWrite]
    | false =>
        simp only [Bool.false_eq_true, if_false]
        unfold rejectCode
        rw [Protocol.wp_bind]
        apply Protocol.wp_mono wp_handleFailure
        · rintro _ _ rfl
          rfl
        · rintro _ _ rfl
          rfl
  unfold checkSecondFactor
  split
  · rw [Protocol.wp_bind, Protocol.wp_orThrow]
    refine ⟨fun secret _ => ?_, fun _ => rfl⟩
    rw [Protocol.wp_bind]
    exact Protocol.wp_await.mpr ⟨fun valid => ⟨_, if_pos rfl, compared valid⟩,
      fun _ => ⟨_, if_pos rfl, rfl⟩⟩
  · split
    · simp only [Protocol.wp_bind]
      refine Protocol.wp_await.mpr ⟨fun time => ⟨_, rfl, ?_⟩, fun _ => ⟨_, rfl, rfl⟩⟩
      refine Protocol.wp_await.mpr ⟨fun found => ⟨_, rfl, ?_⟩, fun _ => ⟨_, rfl, rfl⟩⟩
      rw [Protocol.wp_orThrow]
      refine ⟨fun challenge _ => ?_, fun _ => rfl⟩
      exact Protocol.wp_await.mpr ⟨fun isMatch => ⟨_, if_pos rfl, compared isMatch⟩,
        fun _ => ⟨_, if_pos rfl, rfl⟩⟩
    · exact admitted

theorem endsPaid_verify2fa {process : ProcessId} {params : Verify2faParams}
    : EndsPaid config (verify2fa config process params) .start := by
  unfold verify2fa secondFactorOf
  refine .ignoring rfl (issues_within fun _ => attempt_ignores_denyList (.inl rfl))
    fun payload => ?_
  refine .ignoring rfl (issues_getStatus fun _ => attempt_ignores_guards) fun status => ?_
  refine .ignoring rfl .ensure fun _ => ?_
  unfold EndsPaid
  simp only [Protocol.wp_bind]
  refine Protocol.wp_await.mpr ⟨fun found => ⟨.afterLookup payload.userId (.ok found), rfl, ?_⟩,
    fun error => ⟨.afterLookup payload.userId (.error error), rfl, rfl⟩⟩
  rw [Protocol.wp_orThrow]
  constructor
  · rintro user rfl
    rw [Protocol.wp_orThrow]
    refine ⟨fun method _ => ?_, fun _ => ?_⟩
    · have checked : (attemptProtocol config).wp (rejectLocked user.lockoutUntil)
          (.afterRead payload.userId user) _ _ :=
        wp_rejectLocked
      apply Protocol.wp_mono checked
      · rintro _ _ rfl
        apply Protocol.wp_mono wp_checkSecondFactor
        · intro _ stage resets
          refine Protocol.wp_await.mpr ⟨fun _ => ⟨.settled, if_pos resets, ?_⟩,
            fun _ => ⟨.settled, if_pos resets, rfl⟩⟩
          apply Protocol.wp_mono (Protocol.wp_of_only
            (issues_revokeChallenge fun _ => attempt_ignores_denyList (.inr rfl)))
          · rintro _ _ ⟨-, rfl⟩
            exact endsPaid_of_issues rfl (issues_openSession fun _ => settled_ignores_opensSession)
          · rintro _ _ ⟨-, rfl⟩
            rfl
        · exact fun _ _ paid => paid
      · exact fun _ _ paid => paid
    · change (AttemptStage.afterRead payload.userId user).owes = false
      unfold AttemptStage.afterRead
      split <;> rfl
  · rintro rfl
    rfl

theorem endsPaid_program {attempt : Attempt} : EndsPaid config (attempt.program config) .start := by
  cases attempt with
  | signin params => exact endsPaid_signin
  | verify2fa process params =>
      exact Protocol.wp_bind.mpr (Protocol.wp_mono endsPaid_verify2fa (fun _ _ paid => paid)
        (fun _ _ paid => paid))

end

-- Moves

/-- The account a call was answered with. -/
def account? : Event authInterface → Option (UserId × User)
  | ⟨.findUserBy _ _, .ok found⟩ => found
  | ⟨.findUser id, .ok found⟩ => found.map (fun user => (id, user))
  | _ => none

/-- The account a call compared for, and what came of it. -/
def verdict? : Event authInterface → Option (UserId × Except JsError Bool)
  | ⟨.comparePasscode id _ _, reply⟩ => some (id, reply)
  | ⟨.compareCode _ id _ _, reply⟩ => some (id, reply)
  | ⟨.checkTotp id _ _, reply⟩ => some (id, reply)
  | _ => none

/-- What a call does to the stage of an attempt. -/
inductive AttemptMove (config : AuthConfig) (stage : AttemptStage)
    : Event authInterface → AttemptStage → Prop
  | other (event : Event authInterface) (stage' : AttemptStage) (compares : verdict? event = none)
      (writes : event.op.writesUser = none)
      (left : stage' = stage ∨ stage' = .settled ∧ stage.owes = false)
      : AttemptMove config stage event stage'
  | clockFailed (error : JsError) : AttemptMove config stage ⟨.denyList .now, .error error⟩ .settled
  | nobody (event : Event authInterface) (compares : verdict? event = none)
      (writes : event.op.writesUser = none) (start : stage = .start)
      : AttemptMove config stage event (.admitted "dummy-id" 0)
  | read (event : Event authInterface) (id : UserId) (user : User)
    (compares : verdict? event = none)
      (writes : event.op.writesUser = none) (start : stage = .start)
      (answered : account? event = some (id, user))
      : AttemptMove config stage event (.afterRead id user)
  | admitted (id : UserId) (attempts lockedUntil time : Nat)
      (locked : stage = .locked id attempts lockedUntil) (passed : lockedUntil ≤ time)
      : AttemptMove config stage ⟨.denyList .now, .ok time⟩ (.admitted id attempts)
  | compared (event : Event authInterface) (id : UserId) (attempts : Nat)
      (reply : Except JsError Bool) (admitted : stage = .admitted id attempts)
      (compares : verdict? event = some (id, reply))
      : AttemptMove config stage event (.afterComparison id attempts reply)
  | timed (id : UserId) (attempts time : Nat) (wrong : stage = .wrong id attempts)
      : AttemptMove config stage ⟨.denyList .now, .ok time⟩ (.timed id attempts time)
  | wrote (id : UserId) (failedSigninAttempts : Nat) (lockoutUntil : Option Nat)
      (reply : Except JsError Unit)
      (allowed : stage.mayWrite config id failedSigninAttempts lockoutUntil = true)
      : AttemptMove config stage ⟨.updateUser id failedSigninAttempts lockoutUntil, reply⟩ .settled

section

variable {config : AuthConfig} {stage stage' : AttemptStage}

theorem AttemptMove.of_compare {event : Event authInterface} {id : UserId}
    {reply : Except JsError Bool}
    (compares : verdict? event = some (id, reply)) (h : stage.compare id reply = some stage')
    : AttemptMove config stage event stage' := by
  unfold AttemptStage.compare at h
  split at h
  · rename_i other attempts
    split at h
    · rename_i same
      subst same
      obtain rfl := Option.some.inj h
      exact .compared event _ attempts reply rfl compares
    · cases h
  · cases h

theorem AttemptMove.of_now {reply : Except JsError Nat}
    : AttemptMove config stage ⟨.denyList .now, reply⟩ (stage.afterNow reply) := by
  cases stage with
  | locked id attempts lockedUntil =>
      cases reply with
      | error error => exact .clockFailed error
      | ok time =>
          by_cases passed : lockedUntil ≤ time
          · have admits : AttemptStage.afterNow (.locked id attempts lockedUntil) (.ok time)
                = .admitted id attempts :=
              if_pos passed
            rw [admits]
            exact .admitted id attempts lockedUntil time rfl passed
          · have refuses : AttemptStage.afterNow (.locked id attempts lockedUntil) (.ok time)
              = .settled :=
              if_neg passed
            rw [refuses]
            exact .other _ _ rfl rfl (.inr ⟨rfl, rfl⟩)
  | wrong id attempts =>
      cases reply with
      | error error => exact .clockFailed error
      | ok time => exact .timed id attempts time rfl
  | _ => exact .other _ _ rfl rfl (.inl rfl)

theorem AttemptMove.of_next {op : AuthOp} {reply : authInterface.Reply op}
    (h : stage.next config op reply = some stage')
    : AttemptMove config stage ⟨op, reply⟩ stage' := by
  cases op with
  | findUserBy kind value =>
      simp only [AttemptStage.next] at h
      split at h
      · rename_i start
        obtain rfl := Option.some.inj h
        rcases reply with error | found
        · exact .other _ _ rfl rfl (.inr ⟨rfl, by rw [start]; rfl⟩)
        · cases found with
          | none => exact .nobody _ rfl rfl start
          | some account => exact .read _ account.1 account.2 rfl rfl start rfl
      · cases h
  | findUser id =>
      simp only [AttemptStage.next] at h
      split at h
      · rename_i start
        obtain rfl := Option.some.inj h
        rcases reply with error | found
        · exact .other _ _ rfl rfl (.inr ⟨rfl, by rw [start]; rfl⟩)
        · cases found with
          | none => exact .other _ _ rfl rfl (.inr ⟨rfl, by rw [start]; rfl⟩)
          | some user => exact .read _ id user rfl rfl start rfl
      · split at h
        · rename_i settled
          obtain rfl := Option.some.inj h
          exact .other _ _ rfl rfl (.inl settled.symm)
        · cases h
  | denyList op =>
      cases op with
      | now =>
          obtain rfl := Option.some.inj h
          exact .of_now
      | _ =>
          obtain rfl := Option.some.inj h
          exact .other _ _ rfl rfl (.inl rfl)
  | comparePasscode id _ _ => exact .of_compare rfl h
  | compareCode _ id _ _ => exact .of_compare rfl h
  | checkTotp id _ _ => exact .of_compare rfl h
  | updateUser id failedSigninAttempts lockoutUntil =>
      simp only [AttemptStage.next] at h
      split at h
      · rename_i allowed
        obtain rfl := Option.some.inj h
        exact .wrote id failedSigninAttempts lockoutUntil reply allowed
      · cases h
  | _ =>
      obtain rfl := Option.some.inj h
      exact .other _ _ rfl rfl (.inl rfl)

end

end AcbuBackend.Auth

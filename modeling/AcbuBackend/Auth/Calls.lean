import AcbuBackend.Auth.AuthService
import AcbuBackend.Effects.Concurrent

/-! Which calls the parts of a sign-in, a refresh and a second factor issue. -/

namespace AcbuBackend.Auth

open Effects AcbuBackend.Runtime Challenge

-- Kinds of calls

namespace AuthOp

def makesKey : AuthOp → Bool
  | .randomText | .bcryptHash _ => true
  | .createApiKey _ row => row.revokedAt.isNone
  | _ => false

def makesToken : AuthOp → Bool
  | .randomText | .denyList .now | .createRefreshToken .. => true
  | _ => false

def opensSession : AuthOp → Bool
  | .findUser _ | .logAudit .. => true
  | op => op.makesKey || op.makesToken

/-- The calls that ask for a second factor. -/
def asksCode : AuthOp → Bool
  | .findUser _ | .generateSecureOtp | .bcryptHash _ | .denyList .now | .createChallenge _
  | .publishOtp .. | .signChallengeToken _ | .logAudit .. => true
  | _ => false

/-- The calls that guard a sign-in. -/
def guards : AuthOp → Bool
  | .getBruteAttempts .. | .siteverify .. => true
  | _ => false

def isDenyList : AuthOp → Bool
  | .denyList _ => true
  | _ => false

theorem opensSession_of_makesKey {op : AuthOp} (h : op.makesKey = true)
    : op.opensSession = true := by
  cases op with
  | randomText | bcryptHash _ => rfl
  | createApiKey _ row =>
      have unrevoked : row.revokedAt.isNone = true := h
      simp [opensSession, makesKey, unrevoked]
  | _ => cases h

theorem opensSession_of_makesToken {op : AuthOp} (h : op.makesToken = true)
    : op.opensSession = true := by
  cases op with
  | randomText | createRefreshToken _ _ => rfl
  | denyList op =>
      cases op with
      | now => rfl
      | _ => cases h
  | _ => cases h

end AuthOp

-- The calls of a program

section

variable {config : AuthConfig} {p : AuthOp → Prop}

theorem only_query {op : AuthOp} {Q : op.Ret → Unit → Prop} {E : JsError → Unit → Prop}
    (allowed : p op) (hQ : ∀ value, Q value ()) (hE : ∀ error, E error ())
    : (Protocol.only p).wp (query op) () Q E :=
  Protocol.wp_await.mpr ⟨fun value => ⟨(), Protocol.only_next.mpr allowed, hQ value⟩,
    fun error => ⟨(), Protocol.only_next.mpr allowed, hE error⟩⟩

/-- A program of calls of one kind, of whose result nothing is said. -/
abbrev Issues (p : AuthOp → Prop) {α : Type} (prog : Prog authInterface α) : Prop :=
  (Protocol.only p).wp prog () (fun _ _ => True) (fun _ _ => True)

theorem issues_query {op : AuthOp} (allowed : p op) : Issues p (query op) :=
  only_query allowed (fun _ => trivial) (fun _ => trivial)

theorem Issues.bind {α β : Type} {prog : Prog authInterface α} {next : α → Prog authInterface β}
    (h : Issues p prog) (rest : ∀ value, Issues p (next value))
    : Issues p (prog >>= next) :=
  Protocol.only_bind h rest

theorem Issues.done {α : Type} {value : α} : Issues p (.done value) :=
  trivial

theorem Issues.fail {α : Type} {error : JsError} : Issues (α := α) p (.fail error) :=
  trivial

theorem Issues.ensure {check : Bool} {error : JsError} : Issues p (Prog.ensure check error) :=
  Protocol.only_ensure

theorem Issues.orThrow {α : Type} {value : Option α} {error : JsError}
    : Issues p (Prog.orThrow value error) :=
  Protocol.only_orThrow

theorem Issues.fromExcept {α : Type} {result : Except JsError α}
    : Issues p (Prog.fromExcept result) :=
  Protocol.only_fromExcept

theorem Issues.catchWith {α : Type} {prog : Prog authInterface α}
    {handler : JsError → Prog authInterface α} (h : Issues p prog)
    (handles : ∀ error, Issues p (handler error))
    : Issues p (prog.catchWith handler) :=
  Protocol.only_catchWith h handles

theorem issues_within {α : Type} {prog : Prog denyListInterface α}
    (calls : ∀ op, op.isDenyList = true → p op)
    : Issues p (prog.within denyListCalls) := by
  have any : (Protocol.only fun _ => True).wp prog () (fun _ _ => True) (fun _ _ => True) :=
    Protocol.wp_of_total (fun _ => True) (fun _ _ _ _ =>
      ⟨(), Protocol.only_next.mpr trivial, trivial⟩)
      trivial
  exact Protocol.wp_mono (Protocol.only_within (fun op _ => calls (.denyList op) rfl) any)
    (fun _ _ _ => trivial) (fun _ _ _ => trivial)

theorem issues_generateApiKey {userId : UserId} {permissions : List String}
    (calls : ∀ op, op.makesKey = true → p op)
    : Issues p (generateApiKey userId permissions) := by
  unfold generateApiKey
  refine (issues_query (calls _ rfl)).bind fun lookupKey => ?_
  refine (issues_query (calls _ rfl)).bind fun secret => ?_
  refine (issues_query (calls _ rfl)).bind fun keyHash => ?_
  exact (issues_query (calls _ rfl)).bind fun _ => .done

theorem issues_createRefreshToken {userId : UserId} (calls : ∀ op, op.makesToken = true → p op)
    : Issues p (createRefreshToken config userId) := by
  unfold createRefreshToken
  refine (issues_query (calls _ rfl)).bind fun token => ?_
  refine (issues_query (calls _ rfl)).bind fun family => ?_
  refine (issues_query (calls _ rfl)).bind fun time => ?_
  exact (issues_query (calls _ rfl)).bind fun _ => .done

theorem issues_refreshTokenFor {wanted : Bool} {userId : UserId}
    (calls : ∀ op, op.opensSession = true → p op)
    : Issues p (refreshTokenFor config wanted userId) := by
  unfold refreshTokenFor issueRefreshToken
  split
  · have made : Issues p (createRefreshToken config userId) :=
      issues_createRefreshToken fun op makes => calls op (AuthOp.opensSession_of_makesToken makes)
    refine Issues.bind (made.bind fun token => ?_) fun _ => .done
    exact (issues_query (calls _ rfl)).bind fun _ => .done
  · exact .done

theorem issues_openSession {userId : UserId} {action : String} {wanted : Bool}
    (calls : ∀ op, op.opensSession = true → p op)
    : Issues p (openSession config userId action wanted) := by
  unfold openSession walletAddress
  refine Issues.bind (issues_generateApiKey fun op makes =>
    calls op (AuthOp.opensSession_of_makesKey makes)) fun key => ?_
  refine Issues.bind ((issues_query (calls _ rfl)).bind fun user => .done) fun address => ?_
  refine (issues_query (calls _ rfl)).bind fun _ => ?_
  exact (issues_refreshTokenFor calls).bind fun _ => .done

theorem issues_getStatus {identifier ip : String} (calls : ∀ op, op.guards = true → p op)
    : Issues p (getStatus config identifier ip) := by
  unfold getStatus
  refine (issues_query (calls _ rfl)).bind fun attempts => ?_
  cases attempts <;> exact .done

theorem issues_checkCaptcha {required : Bool} {captchaToken : Option String} {ip : String}
    (calls : ∀ op, op.guards = true → p op)
    : Issues p (checkCaptcha config required captchaToken ip) := by
  unfold checkCaptcha verifyCaptcha
  split
  · exact .ensure
  · refine Issues.bind ?_ fun verified => .ensure
    split
    · exact .done
    · exact (issues_query (calls _ rfl)).catchWith fun _ => .done

theorem issues_resolveUserByIdentifier {identifier : String}
    (calls : ∀ kind value, p (.findUserBy kind value))
    : Issues p (resolveUserByIdentifier config identifier) := by
  unfold resolveUserByIdentifier
  exact Issues.bind (issues_query (calls _ _)) fun _ => .done

theorem issues_rejectLocked {lockoutUntil : Option Nat} (calls : p (.denyList .now))
    : Issues p (rejectLocked lockoutUntil) := by
  unfold rejectLocked
  cases lockoutUntil with
  | none => exact .done
  | some _ => exact Issues.bind (issues_query calls) fun _ => .ensure

theorem issues_handleFailure {id : UserId} {failedSigninAttempts : Nat} (time : p (.denyList .now))
    (writes : ∀ failed locked, p (.updateUser id failed locked))
    : Issues p (handleFailure config id failedSigninAttempts) := by
  unfold handleFailure
  split
  · exact Issues.bind (issues_query time) fun _ => issues_query (writes _ _)
  · exact issues_query (writes _ _)

theorem issues_findUsableToken {tokenHash : String} (time : p (.denyList .now))
    (finds : ∀ now, p (.findRefreshToken tokenHash now))
    : Issues p (findUsableToken tokenHash) := by
  unfold findUsableToken
  refine Issues.bind (issues_query time) fun now => ?_
  exact Issues.bind (issues_query (finds now)) fun _ => Issues.orThrow.bind fun _ => .done

theorem issues_sendOtp {userId : UserId} {channel : String}
    (calls : ∀ op, op.asksCode = true → p op)
    : Issues p (sendOtp userId channel) := by
  unfold sendOtp
  refine (issues_query (calls _ rfl)).bind fun user => ?_
  refine Issues.orThrow.bind fun recipient => ?_
  refine (issues_query (calls _ rfl)).bind fun code => ?_
  refine (issues_query (calls _ rfl)).bind fun codeHash => ?_
  refine (issues_query (calls _ rfl)).bind fun time => ?_
  refine (issues_query (calls _ rfl)).bind fun challenge => ?_
  exact (issues_query (calls _ rfl)).catchWith fun _ => .done

theorem issues_requireSecondFactor {userId : UserId} {method : String}
    (calls : ∀ op, op.asksCode = true → p op)
    : Issues p (requireSecondFactor userId method) := by
  have signs : Issues p (do
      let challenge_token ← query (.signChallengeToken userId)
      query (.logAudit "signin_2fa_required" userId)
      return SigninResult.requires_2fa challenge_token) := by
    refine (issues_query (calls _ rfl)).bind fun token => ?_
    exact (issues_query (calls _ rfl)).bind fun _ => .done
  unfold requireSecondFactor
  dsimp only
  split
  · exact (issues_sendOtp calls).bind fun _ => signs
  · exact signs

theorem issues_revokeChallenge {process : ProcessId} {payload : ChallengePayload}
    (calls : ∀ op, op.isDenyList = true → p op)
    : Issues p (revokeChallenge process payload) := by
  unfold revokeChallenge
  split
  · exact .done
  · exact (issues_within calls).bind fun exp => issues_within calls

end

end AcbuBackend.Auth

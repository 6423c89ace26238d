import AcbuBackend.Auth.AuthService

/-! Recovery with a one-time code: the limits of its attempts, the devices, the rotation of the
sessions, and the verification of the code.
-/

namespace AcbuBackend.Recovery

open Effects Effects.Prog AcbuBackend.Runtime Challenge Auth

-- Limits

/-- A number of attempts within a window of milliseconds. -/
structure RateLimit where
  maxAttempts : Nat
  windowMs : Nat

namespace RATE_LIMITS

def identifier : RateLimit where
  maxAttempts := 5
  windowMs := 15 * 60 * 1000

def ip : RateLimit where
  maxAttempts := 10
  windowMs := 60 * 60 * 1000

def user : RateLimit where
  maxAttempts := 3
  windowMs := 24 * 60 * 60 * 1000

end RATE_LIMITS

def RECOVERY_OTP_MAX_ATTEMPTS : Nat := RATE_LIMITS.identifier.maxAttempts

def RECOVERY_OTP_ATTEMPT_PREFIX : String := "recovery-otp"

structure RecoveryRateLimitResult where
  allowed : Bool
  remainingAttempts : Nat
  resetTime : Option Nat := none
  reason : Option String := none

def RateLimit.refuse (limit : RateLimit) (time : Nat) (reason : String)
    : RecoveryRateLimitResult where
  allowed := false
  remainingAttempts := 0
  resetTime := some (time + limit.windowMs)
  reason := some reason

/-- Whether a limit is reached by the attempts of a source. A source that is not given is not
checked.
-/
def RateLimit.reached (limit : RateLimit) (source : Option String)
    (filterOf : String → AttemptFilter)
    : Prog authInterface Bool :=
  match source.filter (fun text => text ≠ "") with
  | none => return false
  | some text => do
      let attempts ← query (.countAttempts (filterOf text))
      return limit.maxAttempts ≤ attempts

def checkRecoveryRateLimit (identifier : String) (userId ip attemptReasonPrefix : Option String)
    : Prog authInterface RecoveryRateLimitResult := do
  let time ← now
  let reasonPrefix := attemptReasonPrefix.filter (fun text => text ≠ "")
  let identifierAttempts ← query (.countAttempts
    { identifier := some identifier, since := time - RATE_LIMITS.identifier.windowMs
      reasonPrefix })
  if RATE_LIMITS.identifier.maxAttempts ≤ identifierAttempts then
    return RATE_LIMITS.identifier.refuse time
      "Too many attempts for this identifier. Please try again later."
  else do
    let ipReached ← RATE_LIMITS.ip.reached ip (fun ip =>
      { ip := some ip, since := time - RATE_LIMITS.ip.windowMs, reasonPrefix })
    if ipReached then
      return RATE_LIMITS.ip.refuse time
        "Too many attempts from this IP address. Please try again later."
    else do
      let userReached ← RATE_LIMITS.user.reached userId (fun userId =>
        { userId := some userId, since := time - RATE_LIMITS.user.windowMs, reasonPrefix })
      if userReached then
        return RATE_LIMITS.user.refuse time
          "Too many recovery attempts for this account. Please contact support."
      else
        return {
          allowed := true
          remainingAttempts := RATE_LIMITS.identifier.maxAttempts - identifierAttempts }

-- Devices and sessions

/-- What a request tells of its device. The rows of the devices are the environment's. -/
structure DeviceFingerprint where
  ip : String

/-- `verifyDevice`: the id of the device, and whether it is trusted. -/
def verifyDevice (userId : UserId) : Prog authInterface (String × Bool) := do
  let existingDevice ← query (.findDevice userId)
  match existingDevice.filter Prod.snd with
  | some (deviceId, _) => do
      let _ ← query (.writeDevice userId)
      return (deviceId, true)
  | none => do
      let deviceId ← query (.writeDevice userId)
      return (deviceId, false)

/-- `auditRecoveryEvent`. An event that cannot be written is dropped. -/
def auditRecoveryEvent (eventType : String) (userId : UserId) : Prog authInterface Unit :=
  swallow (query (.logAudit eventType userId))

/-- `rotateUserSessions`. Its errors are dropped. -/
def rotateUserSessions (userId : UserId) : Prog authInterface Unit :=
  swallow (do
    let time ← now
    query (.revokeApiKeys userId time)
    auditRecoveryEvent "session_rotated" userId)

def trustRecoveryDevice (userId : UserId) (wanted : Bool) : Prog authInterface Unit :=
  if wanted then do
    let (deviceId, isTrusted) ← verifyDevice userId
    if isTrusted then return ()
    else do
      query (.trustDevice deviceId)
      auditRecoveryEvent "device_trusted" userId
  else return ()

-- Verification of a code

def RECOVERY_OTP_LOCKOUT_ERROR : String := "Too many attempts. Please request a new recovery code."

def RECOVERY_OTP_UNAVAILABLE_ERROR : String := "Recovery verification temporarily unavailable."

structure VerifyRecoveryOtpParams where
  challenge_token : String
  code : String
  deviceFingerprint : Option DeviceFingerprint := none
  trust_device : Bool := false

structure VerifyRecoveryOtpResult where
  api_key : String
  user_id : UserId
deriving DecidableEq

/-- `/^\d{6}$/`. -/
def isSixDigits (code : String) : Bool :=
  code.toList.length = 6 && code.toList.all isDigit

def getRecoveryChallengeAttemptCount (remainingAttempts : Nat) : Nat :=
  max 1 (RECOVERY_OTP_MAX_ATTEMPTS - remainingAttempts + 1)

/-- What a verification works with once it has found its challenge. -/
structure OtpAttempt where
  process : ProcessId
  payload : ChallengePayload
  challengeId : ChallengeId
  attemptKey : String
  ip : String
  foundAt : Nat
  attemptCount : Nat := 0

section

variable (config : AuthConfig)

def getRecoveryOtpAttemptKey (challengeToken : String) : String :=
  RECOVERY_OTP_ATTEMPT_PREFIX ++ ":" ++ config.sha256 challengeToken

def revokeRecoveryChallengeToken (process : ProcessId) (payload : ChallengePayload)
    : Prog authInterface Unit :=
  revokeChallenge process payload

/-- A step whose failure revokes the token and makes the verification unavailable. -/
def orUnavailable {α : Type} (process : ProcessId) (payload : ChallengePayload)
    (body : Prog authInterface α)
    : Prog authInterface α :=
  body.catchWith (fun _ => do
    revokeRecoveryChallengeToken process payload
    .fail (.error RECOVERY_OTP_UNAVAILABLE_ERROR))

def recordRecoveryOtpAttempt (attempt : OtpAttempt) (success : Bool) (reason : String)
    : Prog authInterface Unit :=
  orUnavailable attempt.process attempt.payload (query (.createAttempt {
    userId := attempt.payload.userId
    identifier := attempt.attemptKey
    success
    reason := some (RECOVERY_OTP_ATTEMPT_PREFIX ++ ":" ++ reason)
    ip := some attempt.ip }))

def markRecoveryChallengeUsed (attempt : OtpAttempt) : Prog authInterface Unit :=
  orUnavailable attempt.process attempt.payload
    (query (.useChallenge attempt.challengeId attempt.foundAt))

def retireChallenge (attempt : OtpAttempt) : Prog authInterface Unit := do
  markRecoveryChallengeUsed attempt
  revokeRecoveryChallengeToken attempt.process attempt.payload

def OtpAttempt.challengeLocked (attempt : OtpAttempt) : Bool :=
  RECOVERY_OTP_MAX_ATTEMPTS ≤ attempt.attemptCount

/-- Uses up the challenge where this was its last attempt. -/
def lockChallenge (attempt : OtpAttempt) : Prog authInterface Unit :=
  if attempt.challengeLocked then retireChallenge attempt else return ()

def rejectOtp {α : Type} (attempt : OtpAttempt) : Prog authInterface α := do
  recordRecoveryOtpAttempt attempt false "invalid"
  lockChallenge attempt
  auditRecoveryEvent "recovery_failed" attempt.payload.userId
  .fail (.error (if attempt.challengeLocked then RECOVERY_OTP_LOCKOUT_ERROR else "Invalid code"))

def compareOtp (attempt : OtpAttempt) (code codeHash : String) : Prog authInterface Bool :=
  (query (.compareCode attempt.challengeId attempt.payload.userId code codeHash)).catchWith
    (fun _ => do
      recordRecoveryOtpAttempt attempt false "verification_error"
      lockChallenge attempt
      .fail (.error RECOVERY_OTP_UNAVAILABLE_ERROR))

/-- What follows a right code. -/
def completeRecovery (attempt : OtpAttempt) (params : VerifyRecoveryOtpParams)
    : Prog authInterface VerifyRecoveryOtpResult := do
  recordRecoveryOtpAttempt attempt true "success"
  retireChallenge attempt
  rotateUserSessions attempt.payload.userId
  let api_key ← generateApiKey attempt.payload.userId []
  trustRecoveryDevice attempt.payload.userId (params.trust_device &&
    params.deviceFingerprint.isSome)
  auditRecoveryEvent "recovery_completed" attempt.payload.userId
  return { api_key, user_id := attempt.payload.userId }

def attemptChallenge (attempt : OtpAttempt) (codeHash : String) (params : VerifyRecoveryOtpParams)
    : Prog authInterface VerifyRecoveryOtpResult := do
  let rateLimitResult ← orUnavailable attempt.process attempt.payload
    (checkRecoveryRateLimit attempt.attemptKey (some attempt.payload.userId) (some attempt.ip)
      (some RECOVERY_OTP_ATTEMPT_PREFIX))
  let attempt :=
    { attempt with attemptCount := getRecoveryChallengeAttemptCount rateLimitResult.remainingAttempts }
  if !rateLimitResult.allowed then do
    retireChallenge attempt
    auditRecoveryEvent "recovery_failed" attempt.payload.userId
    .fail (.error RECOVERY_OTP_LOCKOUT_ERROR)
  else if !isSixDigits params.code then rejectOtp attempt
  else do
    let isMatch ← compareOtp attempt params.code codeHash
    if !isMatch then rejectOtp attempt else completeRecovery attempt params

/-- The challenge token of a recovery, which is verified and not consumed. -/
def verifyRecoveryToken (process : ProcessId) (challengeToken : String)
    : Prog authInterface ChallengePayload :=
  catchWith
    (do
      let payload ←
        (verifyChallengeToken config.jwt config.challenge process challengeToken false).within
          denyListCalls
      ensure (payload.userId ≠ "") (.error "Invalid challenge")
      return payload)
    (fun _ => .fail (.error "Invalid or expired challenge"))

def verifyRecoveryPayload (process : ProcessId) (params : VerifyRecoveryOtpParams)
    (payload : ChallengePayload)
    : Prog authInterface VerifyRecoveryOtpResult := do
  let time ← now
  let challenge ← orUnavailable process payload (query (.findChallenge
    { id := payload.otpChallengeId.filter (fun id => id ≠ ""), userId := payload.userId
      now := time }))
  match challenge with
  | none => do
      revokeRecoveryChallengeToken process payload
      auditRecoveryEvent "recovery_failed" payload.userId
      .fail (.error "Invalid or expired code")
  | some (challengeId, challenge) =>
      attemptChallenge
        { process
          payload
          challengeId
          attemptKey := getRecoveryOtpAttemptKey config params.challenge_token
          ip := ((params.deviceFingerprint.map DeviceFingerprint.ip).filter
            (fun ip => ip ≠ "")).getD "unknown"
          foundAt := time }
        challenge.codeHash params

/-- `verifyRecoveryOtp`, in a server process. -/
def verifyRecoveryOtp (process : ProcessId) (params : VerifyRecoveryOtpParams)
    : Prog authInterface VerifyRecoveryOtpResult := do
  let payload ← verifyRecoveryToken config process params.challenge_token
  verifyRecoveryPayload config process params payload

end

/-- Every token is the one of the recovery challenge of the user. -/
def recoveryConfig : AuthConfig :=
  { sampleAuthConfig with
    jwt := {
      headerTyp := fun _ => some "JWT"
      claims := fun secret _ =>
        if secret = "secret" then some (challengePayload "user" (some "otp") 1000) else none } }

/-- A user with one recovery code. -/
def oneCode : World :=
  { World.empty 1000 with
    users := (∅ : AList (fun _ : UserId => User)).insert "user" { email := some "user@example.com" }
    otpChallenges := (∅ : AList (fun _ : ChallengeId => OtpChallenge)).insert "otp"
      { userId := "user", codeHash := "hash", channel := "email", expiresAt := 601000,
        createdAt := 1000 } }

def codeParams : VerifyRecoveryOtpParams where
  challenge_token := "token"
  code := "123456"

end AcbuBackend.Recovery

import AcbuBackend.Auth.ApiKeys

/-! Sign-in, the second factor, and refresh tokens. -/

namespace AcbuBackend.Auth

open Effects Effects.Prog AcbuBackend.Runtime Challenge

/-- The configuration of the service, the `jsonwebtoken` package, and the functions of the
platform it calls.
-/
structure AuthConfig where
  maxSigninAttempts : Nat
  signinLockoutDurationMs : Nat
  bruteMaxAttempts : Nat
  captchaSecret : String
  challenge : ChallengeConfig
  jwt : JsonWebToken
  sha256 : String → String
  toLowerCase : String → String

def OTP_EXPIRY_MINUTES : Nat := 10

def REFRESH_TOKEN_EXPIRY_DAYS : Nat := 30

def DUMMY_HASH : String := "$2a$10$CwTycUXWue0Thq9StjUM0uEnOTWj2XOTl0pypEQuA7y2h2H6jX.m2"

def tooManyAttempts : JsError :=
  appError "Too many attempts. Please try again later." 403 .TOO_MANY_ATTEMPTS

def captchaRequired : JsError :=
  appError "CAPTCHA required" 403 .CAPTCHA_REQUIRED

def invalidCredentials : JsError :=
  appError "Invalid credentials" 401 .INVALID_CREDENTIALS

def invalidCode : JsError :=
  appError "Invalid code" 401 .INVALID_CODE

def invalidOrExpiredCode : JsError :=
  appError "Invalid or expired code" 401 .INVALID_OR_EXPIRED_CODE

def totpNotConfigured : JsError :=
  appError "TOTP not configured" 400 .VALIDATION_ERROR

def twoFactorChannelNotConfigured : JsError :=
  appError "2FA channel not configured" 400 .VALIDATION_ERROR

def invalidOrExpiredRefreshToken : JsError :=
  appError "Invalid or expired refresh token" 401 .INVALID_REFRESH_TOKEN

section

variable (config : AuthConfig)

-- Identifiers

/-- `s.replace(/\s/g, "")`. -/
def withoutSpace (s : String) : String :=
  String.ofList (s.toList.filter (fun c => !isJsSpace c))

/-- `/^\+[0-9]{10,15}$/`. -/
def isE164 (s : String) : Bool :=
  match s.toList with
  | '+' :: digits => 10 ≤ digits.length && digits.length ≤ 15 && digits.all isDigit
  | _ => false

def normalizeIdentifier (s : String) : IdentifierKind × String :=
  let trimmed := jsTrim s
  let lower := config.toLowerCase trimmed
  if lower.toList.head? = some '@' then
    (.username, withoutSpace (String.ofList lower.toList.tail))
  else if isE164 trimmed then (.phone, trimmed)
  else if trimmed.toList.contains '@' && trimmed.toList.contains '.' then (.email, lower)
  else (.username, withoutSpace lower)

def resolveUserByIdentifier (identifier : String) : Prog authInterface (UserId × User) := do
  let (kind, value) := normalizeIdentifier config identifier
  let found ← query (.findUserBy kind value)
  return found.getD ("dummy-id", { passcodeHash := some DUMMY_HASH })

-- Guards

/-- `AuthBruteGuard.getStatus`: whether an identifier is locked, and whether it needs a CAPTCHA.
-/
def getStatus (identifier ip : String) : Prog authInterface (Bool × Bool) := do
  let attempts ← query (.getBruteAttempts identifier ip)
  match attempts with
  | none => return (false, false)
  | some attempts =>
      return (config.bruteMaxAttempts ≤ attempts, (config.bruteMaxAttempts + 1) / 2 ≤ attempts)

def verifyCaptcha (token ip : String) : Prog authInterface Bool :=
  if config.captchaSecret = "" ∨ jsTrim token = "" then return false
  else catchWith (query (.siteverify token ip)) (fun _ => return false)

/-- Refuses a request without a CAPTCHA where one is required, or with a wrong one. -/
def checkCaptcha (required : Bool) (captchaToken : Option String) (ip : String)
    : Prog authInterface Unit :=
  match captchaToken.filter (fun token => token ≠ "") with
  | none => ensure (!required) captchaRequired
  | some token => do
      let verified ← verifyCaptcha config token ip
      ensure verified captchaRequired

/-- Refuses an account that is locked. -/
def rejectLocked (lockoutUntil : Option Nat) : Prog authInterface Unit :=
  match lockoutUntil with
  | none => return ()
  | some lockoutUntil => do
      let time ← now
      ensure (lockoutUntil ≤ time) tooManyAttempts

/-- Records a failed attempt: the counter the account was read with, raised, and the lock it
leads to.
-/
def handleFailure (id : UserId) (failedSigninAttempts : Nat) : Prog authInterface Unit :=
  if config.maxSigninAttempts ≤ failedSigninAttempts + 1 then do
    let time ← now
    query (.updateUser id (failedSigninAttempts + 1) (some (time + config.signinLockoutDurationMs)))
  else query (.updateUser id (failedSigninAttempts + 1) none)

-- Refresh tokens

def refreshExpiry (time : Nat) : Nat :=
  time + REFRESH_TOKEN_EXPIRY_DAYS * 24 * 60 * 60 * 1000

structure IssueRefreshTokenResult where
  refresh_token : String
  expires_at : Nat
deriving DecidableEq

def createRefreshToken (userId : UserId) : Prog authInterface IssueRefreshTokenResult := do
  let token ← query .randomText
  let tokenFamilyId ← query .randomText
  let time ← now
  query (.createRefreshToken (config.sha256 token)
    { userId, tokenFamilyId, expiresAt := refreshExpiry time })
  return { refresh_token := token, expires_at := refreshExpiry time }

def issueRefreshToken (userId : UserId) : Prog authInterface IssueRefreshTokenResult := do
  let token ← createRefreshToken config userId
  query (.logAudit "refresh_token_issued" userId)
  return token

structure RefreshAccessTokenResult where
  api_key : String
  refresh_token : String
  user_id : UserId
  expires_at : Nat
deriving DecidableEq

/-- The check of `refreshAccessToken`: the row of a token that is neither revoked nor expired,
and the time of the check.
-/
def findUsableToken (tokenHash : String) : Prog authInterface (RefreshToken × Nat) := do
  let time ← now
  let found ← query (.findRefreshToken tokenHash time)
  let existingToken ← orThrow found invalidOrExpiredRefreshToken
  return (existingToken, time)

def refreshAccessToken (refresh_token : String) : Prog authInterface RefreshAccessTokenResult := do
  let (existingToken, time) ← findUsableToken (config.sha256 refresh_token)
  query (.revokeFamily existingToken.tokenFamilyId time (some (config.sha256 refresh_token)))
  let api_key ← generateApiKey existingToken.userId []
  let newToken ← createRefreshToken config existingToken.userId
  query (.logAudit "refresh_token_rotated" existingToken.userId)
  return {
    api_key
    refresh_token := newToken.refresh_token
    user_id := existingToken.userId
    expires_at := newToken.expires_at }

-- Sign-in

structure SigninParams where
  identifier : String
  passcode : String
  ip : String
  captchaToken : Option String := none
  issueRefreshToken : Bool := false

/-- What a completed sign-in returns. -/
structure Session where
  api_key : String
  user_id : UserId
  wallet_enrollment_required : Bool
  stellar_address : Option String
  refresh_token : Option IssueRefreshTokenResult := none
deriving DecidableEq

inductive SigninResult
  | requires_2fa (challenge_token : String)
  | session (session : Session)
deriving DecidableEq

/-- `getWalletEnrollmentStatus`: the address of the wallet of a user. -/
def walletAddress (userId : UserId) : Prog authInterface (Option String) := do
  let user ← query (.findUser userId)
  return user.bind User.stellarAddress

def refreshTokenFor (wanted : Bool) (userId : UserId)
    : Prog authInterface (Option IssueRefreshTokenResult) :=
  if wanted then do
    let token ← issueRefreshToken config userId
    return some token
  else return none

def openSession (userId : UserId) (action : String) (wantsRefreshToken : Bool)
    : Prog authInterface Session := do
  let api_key ← generateApiKey userId []
  let address ← walletAddress userId
  query (.logAudit action userId)
  let refresh_token ← refreshTokenFor config wantsRefreshToken userId
  return {
    api_key
    user_id := userId
    wallet_enrollment_required := !address.any (fun text => text ≠ "")
    stellar_address := address
    refresh_token }

/-- Sends a one-time code over the channel of a user. A broker that is down is ignored. -/
def sendOtp (userId : UserId) (channel : String) : Prog authInterface Unit := do
  let user ← query (.findUser userId)
  let address := user.bind (fun user => if channel = "email" then user.email else user.phoneE164)
  let recipient ← orThrow (address.filter (fun text => text ≠ "")) twoFactorChannelNotConfigured
  let code ← query .generateSecureOtp
  let codeHash ← query (.bcryptHash code)
  let time ← now
  let _ ← query (.createChallenge
    { userId, codeHash, channel, expiresAt := time + OTP_EXPIRY_MINUTES * 60 * 1000 })
  swallow (query (.publishOtp channel recipient code))

def requireSecondFactor (userId : UserId) (method : String) : Prog authInterface SigninResult := do
  if method = "sms" ∨ method = "email" then sendOtp userId method else pure ()
  let challenge_token ← query (.signChallengeToken userId)
  query (.logAudit "signin_2fa_required" userId)
  return .requires_2fa challenge_token

/-- What follows the comparison of the passcode. -/
def afterPasscode (params : SigninParams) (id : UserId) (user : User) (isMatch : Bool)
    : Prog authInterface SigninResult :=
  if isMatch = false then do
    handleFailure config id user.failedSigninAttempts
    .fail invalidCredentials
  else do
    query (.updateUser id 0 none)
    match user.twoFaMethod.filter (fun method => method ≠ "") with
    | some method => requireSecondFactor id method
    | none => do
        let session ← openSession config id "signin_success" params.issueRefreshToken
        return .session session

def signin (params : SigninParams) : Prog authInterface SigninResult := do
  let (locked, requiresCaptcha) ← getStatus config params.identifier params.ip
  ensure (!locked) tooManyAttempts
  checkCaptcha config requiresCaptcha params.captchaToken params.ip
  let (id, user) ← resolveUserByIdentifier config params.identifier
  rejectLocked user.lockoutUntil
  let passcodeHash ← orThrow (user.passcodeHash.filter (fun hash => hash ≠ "")) invalidCredentials
  let isMatch ← query (.comparePasscode id params.passcode passcodeHash)
  afterPasscode config params id user isMatch

-- The second factor

structure Verify2faParams where
  challenge_token : String
  code : String
  ip : String
  issueRefreshToken : Bool := false

/-- Records a wrong code and refuses it. -/
def rejectCode (id : UserId) (user : User) : Prog authInterface Unit := do
  handleFailure config id user.failedSigninAttempts
  .fail invalidCode

/-- The comparison with the second factor of a user. A method that is none of the three is not
checked.
-/
def checkSecondFactor (code : String) (id : UserId) (user : User) (method : String)
    : Prog authInterface Unit :=
  if method = "totp" then do
    let secret ← orThrow (user.totpSecretEncrypted.filter (fun secret => secret ≠ ""))
      totpNotConfigured
    let valid ← query (.checkTotp id code secret)
    if valid then return () else rejectCode config id user
  else if method = "sms" ∨ method = "email" then do
    let time ← now
    let found ← query (.findChallenge { userId := id, channel := some method, now := time })
    let (challengeId, challenge) ← orThrow found invalidOrExpiredCode
    let isMatch ← query (.compareCode challengeId id code challenge.codeHash)
    if isMatch then return () else rejectCode config id user
  else return ()

def revokeChallenge (process : ProcessId) (payload : ChallengePayload) : Prog authInterface Unit :=
  match payload.jti.filter (fun jti => jti ≠ "") with
  | none => return ()
  | some jti => do
      let exp ← (expiryOf payload).within denyListCalls
      (revokeJti process jti exp).within denyListCalls

def secondFactorOf (userId : UserId) : Prog authInterface (User × String) := do
  let found ← query (.findUser userId)
  let user ← orThrow found invalidCredentials
  let method ← orThrow (user.twoFaMethod.filter (fun method => method ≠ "")) invalidCredentials
  return (user, method)

/-- `verify2fa`, in a server process. -/
def verify2fa (process : ProcessId) (params : Verify2faParams) : Prog authInterface Session := do
  let payload ←
    (verifyChallengeToken config.jwt config.challenge process params.challenge_token).within
      denyListCalls
  let (locked, _) ← getStatus config payload.userId params.ip
  ensure (!locked) tooManyAttempts
  let (user, method) ← secondFactorOf payload.userId
  rejectLocked user.lockoutUntil
  checkSecondFactor config params.code payload.userId user method
  query (.updateUser payload.userId 0 none)
  revokeChallenge process payload
  openSession config payload.userId "verify_2fa_success" params.issueRefreshToken

end

/-- The challenge tokens of a user, with the times they were signed at. -/
def sampleChallenges : List (String × Nat) :=
  [("challenge 1", 1000), ("challenge 2", 2000), ("challenge 3", 3000), ("challenge 4", 4000)]

/-- A configuration, with a digest that marks its text. -/
def sampleAuthConfig : AuthConfig where
  maxSigninAttempts := 3
  signinLockoutDurationMs := 900000
  bruteMaxAttempts := 5
  captchaSecret := ""
  challenge := { challengeTokenSecret := "secret", jwtClockToleranceSeconds := 30 }
  jwt := {
    headerTyp := fun _ => some "JWT"
    claims := fun secret token =>
      if secret = "secret" then (sampleChallenges.lookup token).map (challengePayload "user" none)
      else none }
  sha256 := fun text => "sha256 " ++ text
  toLowerCase := fun text => String.ofList (text.toList.map Char.toLower)

def oneUser : World :=
  { World.empty 1000 with
    users := (∅ : AList (fun _ : UserId => User)).insert "user"
      { username := some "alice", passcodeHash := some "hash" } }

/-- The choices for calls that all take effect at a time, with the texts drawn in them. -/
def drawn (time : Nat) (texts : List String) : List Choice :=
  texts.map (fun text => { time := time, text := text })

def refreshTexts (lookupKey token tokenFamilyId : String) : List String :=
  ["", "", "", lookupKey, "secret", "hash", "", token, tokenFamilyId, "", "", ""]

end AcbuBackend.Auth

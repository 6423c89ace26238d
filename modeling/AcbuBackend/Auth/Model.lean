import AcbuBackend.Challenge.Jwt
import AcbuBackend.Runtime.Tables

/-! The accounts and their credentials: the tables, and the calls of the sign-in, refresh and
recovery functions. Texts drawn at random, the answers of the hash functions and the results
of comparisons are chosen by the environment.
-/

namespace AcbuBackend.Auth

open Effects AcbuBackend.Runtime Challenge

abbrev UserId := String

/-- A row of `users`. `deletedAt` is `none` where the row has no such column. -/
structure User where
  username : Option String := none
  email : Option String := none
  phoneE164 : Option String := none
  passcodeHash : Option String := none
  twoFaMethod : Option String := none
  totpSecretEncrypted : Option String := none
  failedSigninAttempts : Nat := 0
  lockoutUntil : Option Nat := none
  stellarAddress : Option String := none
  tier : String := "free"
  deletedAt : Option (Option Nat) := none
  isDisabled : Bool := false
deriving DecidableEq

inductive ApiKeyType
  | USER_KEY
  | ADMIN_KEY
  | BREAK_GLASS_KEY
deriving DecidableEq

/-- The `permissions` column: never set, an array, or anything else. -/
inductive StoredPermissions
  | unset
  | scopes (scopes : List String)
  | malformed
deriving DecidableEq

/-- A row of `api_keys`, under its lookup key. -/
structure ApiKey where
  id : String := ""
  userId : Option UserId
  organizationId : Option String := none
  keyHash : String
  keyType : ApiKeyType := .USER_KEY
  createdByUserId : Option UserId := none
  emergencyReason : Option String := none
  permissions : StoredPermissions := .scopes []
  rateLimit : Nat := 100
  expiresAt : Option Nat := none
  emergencyExpiresAt : Option Nat := none
  refreshTokenFamilyId : Option String := none
  revokedAt : Option Nat := none
deriving DecidableEq

/-- A row of `refresh_tokens`, under the hash of its token. -/
structure RefreshToken where
  userId : UserId
  tokenFamilyId : String
  expiresAt : Nat
  revokedAt : Option Nat := none
  replacedByToken : Option String := none
deriving DecidableEq

abbrev ChallengeId := String

/-- A row of `otp_challenges`. -/
structure OtpChallenge where
  userId : UserId
  codeHash : String
  channel : String
  expiresAt : Nat
  usedAt : Option Nat := none
  createdAt : Nat := 0
deriving DecidableEq

/-- A row of `recovery_attempts`. -/
structure RecoveryAttempt where
  userId : UserId
  identifier : String
  success : Bool
  reason : Option String := none
  ip : Option String := none
  createdAt : Nat := 0
deriving DecidableEq

/-- How an identifier names a user. -/
inductive IdentifierKind
  | username
  | email
  | phone
deriving DecidableEq

/-- The `where` of a search for a challenge: its id if one is given, its channel if one is
given, its user, and a time before it expires. A used challenge is never found.
-/
structure ChallengeFilter where
  id : Option ChallengeId := none
  userId : UserId
  channel : Option String := none
  now : Nat
deriving DecidableEq

/-- The `where` of a count of recovery attempts. -/
structure AttemptFilter where
  identifier : Option String := none
  ip : Option String := none
  userId : Option UserId := none
  since : Nat
  reasonPrefix : Option String := none
deriving DecidableEq

/-- The calls of the sign-in, refresh and recovery functions. A comparison names the user or
the challenge it is made for, which the hash functions are not told.
-/
inductive AuthOp
  | denyList (op : DenyListOp)
  | randomText
  | generateSecureOtp
  | signChallengeToken (userId : UserId)
  | bcryptHash (text : String)
  | comparePasscode (userId : UserId) (passcode hash : String)
  | compareSecret (secret hash : String)
  | compareCode (challenge : ChallengeId) (userId : UserId) (code hash : String)
  | checkTotp (userId : UserId) (code secret : String)
  | getBruteAttempts (identifier ip : String)
  | siteverify (token ip : String)
  | findUserBy (kind : IdentifierKind) (value : String)
  | findUser (id : UserId)
  | updateUser (id : UserId) (failedSigninAttempts : Nat) (lockoutUntil : Option Nat)
  | createApiKey (lookupKey : String) (row : ApiKey)
  | findApiKey (lookupKey : String) (now emergencyNow : Nat)
  | revokeApiKeys (userId : UserId) (now : Nat)
  | createRefreshToken (tokenHash : String) (row : RefreshToken)
  | findRefreshToken (tokenHash : String) (now : Nat)
  | revokeFamily (tokenFamilyId : String) (now : Nat) (replacedByToken : Option String)
  | createChallenge (row : OtpChallenge)
  | findChallenge (filter : ChallengeFilter)
  | useChallenge (id : ChallengeId) (usedAt : Nat)
  | publishOtp (channel recipient code : String)
  | countAttempts (filter : AttemptFilter)
  | createAttempt (row : RecoveryAttempt)
  | findDevice (userId : UserId)
  | writeDevice (userId : UserId)
  | trustDevice (deviceId : String)
  | logAudit (action : String) (userId : UserId)
deriving DecidableEq

/-- The value each call answers with. -/
abbrev AuthOp.Ret : AuthOp → Type
  | .denyList op => op.Ret
  | .randomText | .generateSecureOtp | .signChallengeToken _ | .bcryptHash _ => String
  | .comparePasscode .. | .compareSecret .. | .compareCode .. | .checkTotp .. => Bool
  | .getBruteAttempts .. => Option Nat
  | .siteverify .. => Bool
  | .findUserBy .. => Option (UserId × User)
  | .findUser _ => Option User
  | .findApiKey .. => Option (ApiKey × Option User)
  | .findRefreshToken .. => Option RefreshToken
  | .createChallenge _ => ChallengeId
  | .findChallenge _ => Option (ChallengeId × OtpChallenge)
  | .countAttempts _ => Nat
  | .findDevice _ => Option (String × Bool)
  | .writeDevice _ => String
  | .updateUser .. | .createApiKey .. | .revokeApiKeys .. | .createRefreshToken ..
  | .revokeFamily ..
  | .useChallenge .. | .publishOtp .. | .createAttempt _ | .trustDevice _ | .logAudit .. => Unit

abbrev authInterface : Interface where
  Op := AuthOp
  Ret := AuthOp.Ret
  Err := JsError

/-- Issues a call of the sign-in, refresh and recovery functions. -/
abbrev query (op : AuthOp) : Prog authInterface op.Ret :=
  Prog.await (I := authInterface) op

def denyListCalls : Inclusion denyListInterface authInterface where
  op := .denyList
  value := fun _ value => value
  error := id
  throws := id

/-- `Date.now()`. -/
abbrev now : Prog authInterface Nat :=
  query (.denyList .now)

-- The world

/-- The tables and the deny-list with its clock. Of every account also the times of its wrong
passcodes since it was last reset, newest first, and of its second-factor comparisons; and of
every challenge the number of comparisons with its code.
-/
structure World where
  denyList : DenyListWorld
  users : AList (fun _ : UserId => User)
  apiKeys : AList (fun _ : String => ApiKey)
  refreshTokens : AList (fun _ : String => RefreshToken)
  otpChallenges : AList (fun _ : ChallengeId => OtpChallenge)
  recoveryAttempts : List RecoveryAttempt
  wrongPasscodes : UserId → List Nat
  codeChecks : UserId → List Nat
  challengeChecks : ChallengeId → Nat

/-- When a call takes place, whether it does, and what the environment answers it with. -/
structure Choice where
  time : Nat
  outcome : Outcome JsError := .done
  agrees : Bool := false
  text : String := ""
  attempts : Option Nat := none
  device : Option (String × Bool) := none

namespace World

abbrev clock (w : World) : Nat :=
  w.denyList.clock

def atTime (w : World) (time : Nat) : World :=
  { w with denyList := { w.denyList with clock := time } }

/-- No account, no credential, and no identifier used. -/
def empty (clock : Nat) : World where
  denyList := { clock, redis := fun _ => none, localDenyLists := fun _ _ => none }
  users := ∅
  apiKeys := ∅
  refreshTokens := ∅
  otpChallenges := ∅
  recoveryAttempts := []
  wrongPasscodes := fun _ => []
  codeChecks := fun _ => []
  challengeChecks := fun _ => 0

def userBy (w : World) (kind : IdentifierKind) (value : String) : Option (UserId × User) :=
  (w.users.entries.find? (fun e =>
    (match kind with
      | .username => e.2.username
      | .email => e.2.email
      | .phone => e.2.phoneE164) = some value)).map (fun e => (e.1, e.2))

/-- Writes the attempt counter and the lock of an account; a counter of 0 resets it. -/
def updateUser (w : World) (id : UserId) (failedSigninAttempts : Nat) (lockoutUntil : Option Nat)
    : Except JsError Unit × World :=
  match w.users.lookup id with
  | none => (.error (.error "Record to update not found."), w)
  | some user =>
      (.ok (),
        { w with
          users := w.users.insert id { user with failedSigninAttempts, lockoutUntil }
          wrongPasscodes := fun other =>
            if other = id ∧ failedSigninAttempts = 0 then [] else w.wrongPasscodes other })

def comparePasscode (w : World) (id : UserId) (agrees : Bool) : World :=
  { w with
    wrongPasscodes := fun other =>
      if other = id ∧ agrees = false then w.clock :: w.wrongPasscodes other
      else w.wrongPasscodes other }

/-- A comparison of a second factor of an account. -/
def checkCode (w : World) (id : UserId) : World :=
  { w with
    codeChecks := fun other =>
      if other = id then w.clock :: w.codeChecks other else w.codeChecks other }

/-- A comparison with the code of a challenge. -/
def checkChallenge (w : World) (challenge : ChallengeId) : World :=
  { w with
    challengeChecks := fun other =>
      if other = challenge then w.challengeChecks other + 1 else w.challengeChecks other }

end World

-- Rows

/-- The `where` of the lookup of an API key: it is not revoked, and neither it nor its
emergency has expired.
-/
def ApiKey.current (row : ApiKey) (now emergencyNow : Nat) : Bool :=
  row.revokedAt.isNone
  && row.expiresAt.all (fun expiresAt => now < expiresAt)
  && (row.keyType ≠ .BREAK_GLASS_KEY || row.emergencyExpiresAt.any
    (fun expires => emergencyNow < expires))

/-- The `where` of the lookup of a refresh token. -/
def RefreshToken.usable (row : RefreshToken) (now : Nat) : Bool :=
  row.revokedAt.isNone && decide (now < row.expiresAt)

/-- The `where` of the lookup of a challenge. -/
def OtpChallenge.matches (row : OtpChallenge) (id : ChallengeId) (filter : ChallengeFilter)
    : Bool :=
  filter.id.all (fun wanted => wanted = id)
  && row.userId = filter.userId
  && filter.channel.all (fun channel => channel = row.channel)
  && decide (filter.now < row.expiresAt)
  && row.usedAt.isNone

def startsWith (start text : String) : Bool :=
  start.toList.isPrefixOf text.toList

/-- The `where` of a count of attempts. -/
def RecoveryAttempt.matches (row : RecoveryAttempt) (filter : AttemptFilter) : Bool :=
  filter.identifier.all (fun identifier => identifier = row.identifier)
  && filter.ip.all (fun ip => row.ip = some ip)
  && filter.userId.all (fun userId => userId = row.userId)
  && decide (filter.since ≤ row.createdAt)
  && filter.reasonPrefix.all (fun start => row.reason.any (startsWith start))

def ApiKey.revokeOf (userId : UserId) (now : Nat) (row : ApiKey) : ApiKey :=
  if row.userId = some userId ∧ row.revokedAt = none then
    { row with revokedAt := some now } else row

def RefreshToken.revokeIn (tokenFamilyId : String) (now : Nat) (replacedByToken : Option String)
    (row : RefreshToken)
    : RefreshToken :=
  if row.tokenFamilyId = tokenFamilyId ∧ row.revokedAt = none
  then { row with revokedAt := some now, replacedByToken := replacedByToken.or row.replacedByToken }
  else row

/-- The newest of the challenges that match, the first of them in the table where several are
as new.
-/
def newestChallenge : List (ChallengeId × OtpChallenge) → Option (ChallengeId × OtpChallenge)
  | [] => none
  | head :: rest =>
      match newestChallenge rest with
      | none => some head
      | some other => if head.2.createdAt < other.2.createdAt then some other else some head

/-- `otpChallenge.findFirst`, newest first. -/
def World.findChallenge (w : World) (filter : ChallengeFilter)
    : Option (ChallengeId × OtpChallenge) :=
  newestChallenge
    ((w.otpChallenges.entries.filter (fun e => e.2.matches e.1 filter)).map (fun e => (e.1, e.2)))

-- Effects

def insertNew {ρ : Type} (table : AList (fun _ : String => ρ)) (key : String) (row : ρ)
    : Except JsError Unit × AList (fun _ : String => ρ) :=
  if key ∈ table then (.error .uniqueConstraint, table) else (.ok (), table.insert key row)

/-- What a call answers at the time of the clock, and the world it leaves. -/
def effect (x : Choice) (w : World) : (op : AuthOp) → Except JsError op.Ret × World
  | .denyList op =>
      let (reply, denyList) := denyListEffect w.denyList op
      (reply, { w with denyList })
  | .randomText | .generateSecureOtp | .signChallengeToken _ | .bcryptHash _ => (.ok x.text, w)
  | .comparePasscode id _ _ => (.ok x.agrees, w.comparePasscode id x.agrees)
  | .compareSecret _ _ => (.ok x.agrees, w)
  | .compareCode challenge id _ _ => (.ok x.agrees, (w.checkChallenge challenge).checkCode id)
  | .checkTotp id _ _ => (.ok x.agrees, w.checkCode id)
  | .getBruteAttempts _ _ => (.ok x.attempts, w)
  | .siteverify _ _ => (.ok x.agrees, w)
  | .findUserBy kind value => (.ok (w.userBy kind value), w)
  | .findUser id => (.ok (w.users.lookup id), w)
  | .updateUser id failedSigninAttempts lockoutUntil =>
      w.updateUser id failedSigninAttempts lockoutUntil
  | .createApiKey lookupKey row =>
      let (reply, apiKeys) := insertNew w.apiKeys lookupKey { row with id := x.text }
      (reply, { w with apiKeys })
  | .findApiKey lookupKey now emergencyNow =>
      (.ok (((w.apiKeys.lookup lookupKey).filter (fun row => row.current now emergencyNow)).map
        (fun row => (row, row.userId.bind (fun id => w.users.lookup id)))), w)
  | .revokeApiKeys userId now =>
      (.ok (), { w with apiKeys := updateRows w.apiKeys (fun _ => ApiKey.revokeOf userId now) })
  | .createRefreshToken tokenHash row =>
      let (reply, refreshTokens) := insertNew w.refreshTokens tokenHash row
      (reply, { w with refreshTokens })
  | .findRefreshToken tokenHash now =>
      (.ok ((w.refreshTokens.lookup tokenHash).filter (fun row => row.usable now)), w)
  | .revokeFamily tokenFamilyId now replacedByToken =>
      (.ok (), { w with
        refreshTokens := updateRows w.refreshTokens
          (fun _ => RefreshToken.revokeIn tokenFamilyId now replacedByToken) })
  | .createChallenge row =>
      if x.text ∈ w.otpChallenges then (.error .uniqueConstraint, w)
      else (.ok x.text, { w with
        otpChallenges := w.otpChallenges.insert x.text { row with createdAt := w.clock } })
  | .findChallenge filter => (.ok (w.findChallenge filter), w)
  | .useChallenge id usedAt =>
      match w.otpChallenges.lookup id with
      | none => (.error (.error "Record to update not found."), w)
      | some row => (.ok (), { w with
          otpChallenges := w.otpChallenges.insert id { row with usedAt := some usedAt } })
  | .countAttempts filter => (.ok (w.recoveryAttempts.countP (fun row => row.matches filter)), w)
  | .createAttempt row =>
      (.ok (), { w with recoveryAttempts := { row with createdAt := w.clock } :: w.recoveryAttempts })
  | .findDevice _ => (.ok x.device, w)
  | .writeDevice _ => (.ok x.text, w)
  | .publishOtp .. | .trustDevice _ | .logAudit .. => (.ok (), w)

/-- A call that cannot report an error after it took effect: it is made within the process. -/
def AuthOp.isLocal : AuthOp → Bool
  | .randomText | .generateSecureOtp | .signChallengeToken _ | .bcryptHash _ | .comparePasscode ..
  | .compareSecret .. | .compareCode .. | .checkTotp .. => true
  | _ => false

/-- Time does not go back; the clock and the map of a process do not fail, and what is
computed within a process either fails or answers.
-/
def admissible (op : AuthOp) (x : Choice) (w : World) : Bool :=
  w.clock ≤ x.time
  && match op with
    | .denyList op => denyListAdmissible op { time := x.time, outcome := x.outcome } w.denyList
    | op => !(op.isLocal && x.outcome.isLost)

def authEnvironment : Environment authInterface World Choice where
  outcome := Choice.outcome
  effect := fun x w op => effect x (w.atTime x.time) op
  admissible := admissible

def authSemantics : Semantics authInterface World Choice :=
  authEnvironment.semantics

end AcbuBackend.Auth

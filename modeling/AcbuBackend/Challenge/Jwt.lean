import AcbuBackend.Effects.Outcome
import AcbuBackend.Runtime.Errors
import AcbuBackend.Runtime.Text

/-! Challenge tokens of the second factor: how they are signed, how one is verified, and the
deny-list of the used ones. Redis holds it for all server processes, and each process mirrors its
own entries. Times are milliseconds of one clock that no call turns back.
-/

namespace AcbuBackend.Challenge

open Effects Effects.Prog AcbuBackend.Runtime

-- The deny-list

abbrev ProcessId := Nat

/-- The calls of the deny-list: the clock, the map of a process, and Redis. -/
inductive DenyListOp
  | now
  | pruneExpired (process : ProcessId)
  | localHas (process : ProcessId) (jti : String)
  | localSet (process : ProcessId) (jti : String) (expiresAt : Nat)
  | get (key : String)
  | set (key : String) (ttl : Nat)
  | setNx (key : String) (ttl : Nat)
deriving DecidableEq

abbrev DenyListOp.Ret : DenyListOp → Type
  | .now => Nat
  | .localHas .. | .get _ | .setNx .. => Bool
  | .pruneExpired _ | .localSet .. | .set .. => Unit

abbrev denyListInterface : Interface where
  Op := DenyListOp
  Ret := DenyListOp.Ret
  Err := JsError

abbrev issue (op : DenyListOp) : Prog denyListInterface op.Ret :=
  Prog.await (I := denyListInterface) op

-- The functions of the deny-list

def KEY_PREFIX : String := "jwt:jti:revoked:"

def keyFor (jti : String) : String :=
  KEY_PREFIX ++ jti

/-- Seconds from `now` until `exp`, rounded up. -/
def remainingSeconds (exp now : Nat) : Nat :=
  (exp * 1000 - now + 999) / 1000

/-- The time to live of an entry, at least one second. -/
def ttlAt (exp now : Nat) : Nat :=
  if 0 < remainingSeconds exp now then remainingSeconds exp now else 1

def ttlSeconds (exp : Nat) : Prog denyListInterface Nat := do
  let now ← issue .now
  return ttlAt exp now

/-- Marks a token as used. A failed write to Redis is dropped. -/
def revokeJti (process : ProcessId) (jti : String) (exp : Nat) : Prog denyListInterface Unit := do
  issue (.localSet process jti (exp * 1000))
  swallow (do
    let ttl ← ttlSeconds exp
    issue (.set (keyFor jti) ttl))

/-- Claims a token. Without an answer from Redis the map of the process decides. -/
def consumeJti (process : ProcessId) (jti : String) (exp : Nat)
    : Prog denyListInterface Bool := do
  issue (.pruneExpired process)
  if ← issue (.localHas process jti) then return false
  else do
    let claimed ← catchWith
      (do
        let ttl ← ttlSeconds exp
        issue (.setNx (keyFor jti) ttl))
      (fun _ => return true)
    if claimed then do
      issue (.localSet process jti (exp * 1000))
      return true
    else return false

/-- Whether a token has been used. Without an answer from Redis the map of the process decides.
-/
def isJtiRevoked (process : ProcessId) (jti : String) : Prog denyListInterface Bool := do
  issue (.pruneExpired process)
  if ← issue (.localHas process jti) then return true
  else catchWith (issue (.get (keyFor jti))) (fun _ => return false)

-- The stores

/-- The clock, the time at which Redis drops each key it holds, and the map of each process.
-/
structure DenyListWorld where
  clock : Nat
  redis : String → Option Nat
  localDenyLists : ProcessId → String → Option Nat

/-- When a call takes place, and whether it does. -/
structure DenyListChoice where
  time : Nat
  outcome : Outcome JsError := .done

namespace DenyListWorld

/-- Redis holds a key until it drops it. -/
def held (w : DenyListWorld) (key : String) : Bool :=
  (w.redis key).any (fun dropped => w.clock < dropped)

/-- `SET key 1 EX ttl`. -/
def store (w : DenyListWorld) (key : String) (ttl : Nat) : DenyListWorld :=
  { w with redis := fun other => if other = key then some (w.clock + ttl * 1000) else w.redis other }

/-- Writes to the map of a process. -/
def mirror (w : DenyListWorld) (process : ProcessId) (jti : String) (expiresAt : Nat)
    : DenyListWorld :=
  { w with
    localDenyLists := fun other entry =>
      if other = process ∧ entry = jti then some expiresAt else w.localDenyLists other entry }

/-- Deletes the expired entries of a process. -/
def prune (w : DenyListWorld) (process : ProcessId) : DenyListWorld :=
  { w with
    localDenyLists := fun other entry =>
      if other = process then (w.localDenyLists other entry).filter
        (fun expiresAt => w.clock < expiresAt)
      else w.localDenyLists other entry }

end DenyListWorld

/-- What a call answers at the time of the clock, and the world it leaves. -/
def denyListEffect (w : DenyListWorld)
    : (op : DenyListOp) → Except JsError op.Ret × DenyListWorld
  | .now => (.ok w.clock, w)
  | .pruneExpired process => (.ok (), w.prune process)
  | .localHas process jti => (.ok (w.localDenyLists process jti).isSome, w)
  | .localSet process jti expiresAt => (.ok (), w.mirror process jti expiresAt)
  | .get key => (.ok (w.held key), w)
  | .set key ttl => (.ok (), w.store key ttl)
  | .setNx key ttl => if w.held key then (.ok false, w) else (.ok true, w.store key ttl)

theorem clock_denyListEffect {w : DenyListWorld} {op : DenyListOp}
    : (denyListEffect w op).2.clock = w.clock := by
  cases op with
  | setNx key ttl =>
      simp only [denyListEffect]
      split <;> rfl
  | _ => rfl

/-- Time does not go back, and only Redis can fail. -/
def denyListAdmissible (op : DenyListOp) (x : DenyListChoice) (w : DenyListWorld) : Bool :=
  w.clock ≤ x.time
  && match op with
    | .get _ | .set .. | .setNx .. => true
    | _ => x.outcome = .done

def denyListEnvironment : Environment denyListInterface DenyListWorld DenyListChoice where
  outcome := DenyListChoice.outcome
  effect := fun x w op => denyListEffect { w with clock := x.time } op
  admissible := denyListAdmissible

def denyListSemantics : Semantics denyListInterface DenyListWorld DenyListChoice :=
  denyListEnvironment.semantics

-- Tokens

def EXPECTED_JWT_TYP : String := "JWT"

/-- `CHALLENGE_EXPIRY`, in seconds. -/
def CHALLENGE_EXPIRY : Nat := 300

def CHALLENGE_AUDIENCE : String := "2fa_challenge"

def CHALLENGE_ISSUER : String := "acbu/auth"

/-- The claims of a token. -/
structure ChallengePayload where
  userId : String
  otpChallengeId : Option String := none
  aud : Option String := none
  iss : Option String := none
  iat : Option Nat := none
  exp : Option Nat := none
  jti : Option String := none

/-- What the `jsonwebtoken` package reads of a token: the `typ` of its header, and its claims
where its signature is one of the secret. Both are `none` where there is nothing to read.
-/
structure JsonWebToken where
  headerTyp : String → Option String
  claims : (secret : String) → String → Option ChallengePayload

structure ChallengeConfig where
  challengeTokenSecret : String
  jwtClockToleranceSeconds : Nat

/-- The payload `signChallengeToken` signs at a time. -/
def challengePayload (userId : String) (otpChallengeId : Option String) (now : Nat)
    : ChallengePayload where
  userId
  otpChallengeId := otpChallengeId.filter (fun id => id ≠ "")
  aud := some CHALLENGE_AUDIENCE
  iss := some CHALLENGE_ISSUER
  iat := some (now / 1000)
  exp := some (now / 1000 + CHALLENGE_EXPIRY)
  jti := some s!"chal_{userId}_{now}"

section

variable (jwt : JsonWebToken) (config : ChallengeConfig)

/-- `assertJwtTypHeader`. -/
def hasJwtTyp (token : String) : Bool :=
  (jwt.headerTyp token).any (fun typ => typ ≠ "" ∧ jsToUpperCase (jsTrim typ) = EXPECTED_JWT_TYP)

/-- The claims of a token at a second, where `jwt.verify` accepts it with the audience, the
issuer and the clock tolerance of the challenges.
-/
def acceptedClaims (token : String) (second : Nat) : Option ChallengePayload :=
  (jwt.claims config.challengeTokenSecret token).filter (fun payload =>
    payload.exp.all (fun exp => second < exp + config.jwtClockToleranceSeconds)
    ∧ payload.aud = some CHALLENGE_AUDIENCE
    ∧ payload.iss = some CHALLENGE_ISSUER)

/-- `verifyJwt`; a `JsonWebTokenError` is rethrown as its caller does. -/
def verifyJwt (token : String) : Prog denyListInterface ChallengePayload := do
  ensure (hasJwtTyp jwt token) (.error "Invalid or expired challenge token")
  let now ← issue .now
  orThrow (acceptedClaims jwt config token (now / 1000))
    (.error "Invalid or expired challenge token")

/-- The second at which a token without one expires. -/
def expiryOf (payload : ChallengePayload) : Prog denyListInterface Nat :=
  match payload.exp with
  | some exp => return exp
  | none => do
      let now ← issue .now
      return now / 1000 + 300

/-- Whether the `iat` of a token lies within the clock tolerance. -/
def checkIssuedAt (payload : ChallengePayload) : Prog denyListInterface Unit :=
  match payload.iat with
  | none => return ()
  | some iat => do
      let now ← issue .now
      ensure (iat ≤ now / 1000 + config.jwtClockToleranceSeconds) (.error "Invalid token issued-at")

/-- `firstUse`: whether a token is used for the first time. -/
def firstUse (process : ProcessId) (payload : ChallengePayload) (jti : String) (consume : Bool)
    : Prog denyListInterface Bool := do
  let exp ← expiryOf payload
  if consume then consumeJti process jti exp
  else do
    let revoked ← isJtiRevoked process jti
    return !revoked

def checkReplay (process : ProcessId) (payload : ChallengePayload) (consume : Bool)
    : Prog denyListInterface Unit :=
  match payload.jti.filter (fun jti => jti ≠ "") with
  | none => return ()
  | some jti => do
      let first ← firstUse process payload jti consume
      ensure first (.error "Challenge token has already been used")

def verifyChallengeToken (process : ProcessId) (token : String) (consume : Bool := true)
    : Prog denyListInterface ChallengePayload := do
  ensure (config.challengeTokenSecret ≠ "")
    (.error "CHALLENGE_TOKEN_SECRET or JWT_SECRET is required")
  let decoded ← verifyJwt jwt config token
  ensure (decoded.aud = some CHALLENGE_AUDIENCE) (.error "Invalid token audience")
  ensure (decoded.iss = some CHALLENGE_ISSUER) (.error "Invalid token issuer")
  checkIssuedAt config decoded
  checkReplay process decoded consume
  return decoded

end

end AcbuBackend.Challenge

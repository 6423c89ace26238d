import AcbuBackend.Auth.Model

/-! API keys: how one is generated, and how a request is authenticated by one. -/

namespace AcbuBackend.Auth

open Effects Effects.Prog AcbuBackend.Runtime

def API_KEY_PREFIX : String := "acbu"

def API_KEY_LOOKUP_LENGTH : Nat := 12

def API_KEY_SECRET_LENGTH : Nat := 64

/-- The options of `generateApiKey` that the row keeps. -/
structure ApiKeyOptions where
  organizationId : Option String := none
  keyType : ApiKeyType := .USER_KEY
  createdByUserId : Option UserId := none
  emergencyReason : Option String := none
  emergencyExpiresAt : Option Nat := none
  expiresAt : Option Nat := none
  rateLimit : Option Nat := none

def generateApiKey (userId : UserId) (permissions : List String) (options : ApiKeyOptions := {})
    : Prog authInterface String := do
  let lookupKey ← query .randomText
  let secret ← query .randomText
  let keyHash ← query (.bcryptHash secret)
  query (.createApiKey lookupKey
    { userId := some userId
      organizationId := options.organizationId
      keyHash
      keyType := options.keyType
      createdByUserId := options.createdByUserId
      emergencyReason := options.emergencyReason
      permissions := .scopes permissions
      rateLimit := options.rateLimit.getD 100
      expiresAt := options.expiresAt
      emergencyExpiresAt := options.emergencyExpiresAt })
  return s!"{API_KEY_PREFIX}_{lookupKey}_{secret}"

-- Authentication

/-- `PermissionScopeEnum`. -/
def PERMISSION_SCOPES : List String :=
  ["p2p:read", "p2p:write", "p2p:admin", "sme:read", "sme:write", "sme:admin",
    "international:read", "international:write", "salary:read", "salary:write", "gateway:read",
    "gateway:write", "gateway:admin", "enterprise:read", "enterprise:write", "enterprise:admin",
    "savings:read", "savings:write", "lending:read", "lending:write", "bills:read",
    "bills:write", "payroll:read", "payroll:write", "government:read", "government:write",
    "investment:read", "investment:write"]

def validatePermissions : StoredPermissions → Except JsError (List String)
  | .unset => .ok []
  | .scopes scopes => .ok (scopes.filter (fun scope => scope ∈ PERMISSION_SCOPES))
  | .malformed => .error (plainAppError "API key has malformed permissions and cannot be used" 403)

/-- A hexadecimal digit of either case. -/
def isHexDigit (c : Char) : Bool :=
  isDigit c || ('a' ≤ c && c ≤ 'f') || ('A' ≤ c && c ≤ 'F')

structure ParsedApiKey where
  lookupKey : String
  secret : String

def parseApiKey (rawApiKey : String) : Option ParsedApiKey :=
  let chars := (trimChars rawApiKey.toList).map Char.toLower
  let start := API_KEY_PREFIX.length + 1
  let middle := start + API_KEY_LOOKUP_LENGTH
  let lookupKey := (chars.drop start).take API_KEY_LOOKUP_LENGTH
  let secret := chars.drop (middle + 1)
  if chars.take start = (API_KEY_PREFIX ++ "_").toList
      ∧ lookupKey.length = API_KEY_LOOKUP_LENGTH ∧ lookupKey.all isHexDigit
      ∧ chars[middle]? = some '_'
      ∧ secret.length = API_KEY_SECRET_LENGTH ∧ secret.all isHexDigit
  then some { lookupKey := String.ofList lookupKey, secret := String.ofList secret }
  else none

/-- What `jwt.decode` finds in a text that has the shape of a token. -/
structure DecodedToken where
  typ : Option String
  aud : Option String
  iss : Option String

/-- `rejectIfJwtToken`: the message a token in place of an API key is refused with. -/
def refusedToken (decoded : DecodedToken) : String :=
  if ¬ decoded.typ.any (fun typ => typ ≠ "" ∧ jsToUpperCase (jsTrim typ)
    = Challenge.EXPECTED_JWT_TYP)
  then "Invalid credentials format"
  else if decoded.aud = some Challenge.CHALLENGE_AUDIENCE
    ∧ decoded.iss = some Challenge.CHALLENGE_ISSUER
  then "Challenge tokens cannot be used for API access"
  else "Invalid credentials format"

/-- Rejects the key of a user that is deleted or disabled. A row without a `deletedAt` column
has an undefined one, which is not `null`.
-/
def rejectInactive (user : Option User) : Except JsError Unit :=
  match user with
  | none => .ok ()
  | some user =>
      if user.deletedAt ≠ some none then .error (plainAppError "Invalid API key" 401)
      else if user.isDisabled then .error (plainAppError "Invalid API key" 401)
      else .ok ()

/-- What a request is authenticated as, and the tier of the user. -/
structure AuthenticatedKey where
  lookupKey : String
  id : String
  userId : Option UserId
  organizationId : Option String
  keyType : ApiKeyType
  createdByUserId : Option UserId
  emergencyReason : Option String
  emergencyExpiresAt : Option Nat
  permissions : List String
  rateLimit : Nat
  userTier : Option String

def authenticatedKey (lookupKey : String) (row : ApiKey) (user : Option User)
    (permissions : List String)
    : AuthenticatedKey where
  lookupKey
  id := row.id
  userId := row.userId
  organizationId := row.organizationId
  keyType := row.keyType
  createdByUserId := row.createdByUserId
  emergencyReason := row.emergencyReason
  emergencyExpiresAt := row.emergencyExpiresAt
  permissions
  rateLimit := row.rateLimit
  userTier := (user.map User.tier).filter (fun tier => tier ≠ "")

/-- `validateApiKey`, of the key a request presents. -/
def validateApiKey (decodeJwt : String → Option DecodedToken) (apiKey : Option String)
    : Prog authInterface AuthenticatedKey := do
  let apiKey ← orThrow (apiKey.filter (fun text => text ≠ ""))
    (plainAppError "API key is required" 401)
  match decodeJwt apiKey with
  | some decoded => .fail (plainAppError (refusedToken decoded) 401)
  | none => do
      let parsed ← orThrow (parseApiKey apiKey) (plainAppError "Invalid API key format" 401)
      let time ← now
      let emergencyTime ← now
      let found ← query (.findApiKey parsed.lookupKey time emergencyTime)
      let (row, user) ← orThrow found (plainAppError "Invalid API key" 401)
      fromExcept (rejectInactive user)
      let isValid ← query (.compareSecret parsed.secret row.keyHash)
      ensure isValid (plainAppError "Invalid API key" 401)
      let permissions ← fromExcept (validatePermissions row.permissions)
      return authenticatedKey parsed.lookupKey row user permissions

end AcbuBackend.Auth

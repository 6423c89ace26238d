import Mathlib.Data.List.DropRight
import AcbuBackend.Auth.IssuedKeys

/-! The authentication of a WebSocket upgrade, and when it agrees with `validateApiKey`. -/

namespace AcbuBackend.Auth

open Effects Effects.Prog AcbuBackend.Runtime

-- The upgrade

/-- What an upgrade request carries: the names of its query parameters and two headers. -/
structure UpgradeRequest where
  queryParams : List String := []
  xApiKey : Option String := none
  authorization : Option String := none

structure WsAuthResult where
  keyId : String
  userId : Option UserId
  organizationId : Option String
  keyType : ApiKeyType
  permissions : List String
deriving DecidableEq

def tokenParams : List String :=
  ["token", "api_key", "apikey", "access_token", "auth"]

/-- A `WsAuthError`. Each has status 401. -/
abbrev wsAuthError (message : String) : JsError :=
  .error message

/-- The trimmed text after `Bearer` and at least one space, in any case. -/
def bearerKey (authorization : String) : Option String :=
  let chars := authorization.toList
  let rest := chars.drop "Bearer".length
  if (chars.take "Bearer".length).map Char.toLower = "bearer".toList ∧ rest.head?.any isJsSpace
  then some (String.ofList (trimChars rest))
  else none

/-- `rawKey`: the key header, or else the bearer of the authorization header. -/
def rawKey (req : UpgradeRequest) : Option String :=
  match (req.xApiKey.map jsTrim).filter (fun text => text ≠ "") with
  | some text => some text
  | none => (req.authorization.bind bearerKey).filter (fun text => text ≠ "")

/-- The `validatePermissions` of the upgrade. -/
def wsPermissions : StoredPermissions → List String
  | .scopes scopes => scopes.filter (fun scope => scope ∈ PERMISSION_SCOPES)
  | .unset | .malformed => []

def wsAuthResult (row : ApiKey) : WsAuthResult where
  keyId := row.id
  userId := row.userId
  organizationId := row.organizationId
  keyType := row.keyType
  permissions := wsPermissions row.permissions

/-- `authenticateWsUpgrade`. Its `parseApiKey` is a copy of the other one, and its lookup does
not read the user.
-/
def authenticateWsUpgrade (req : UpgradeRequest) : Prog authInterface WsAuthResult := do
  ensure (!tokenParams.any (fun param => param ∈ req.queryParams))
    (wsAuthError "Authentication tokens must be sent in request headers, not the query string")
  let rawKey ← orThrow (rawKey req)
    (wsAuthError "WebSocket upgrade requires an API key in x-api-key or Authorization header")
  let parsed ← orThrow (parseApiKey rawKey) (wsAuthError "Invalid API key format")
  let time ← now
  let emergencyTime ← now
  let found ← query (.findApiKey parsed.lookupKey time emergencyTime)
  let (record, _) ← orThrow found (wsAuthError "Invalid API key")
  let valid ← query (.compareSecret parsed.secret record.keyHash)
  ensure valid (wsAuthError "Invalid API key")
  return wsAuthResult record

-- Upgrades at one moment

/-- What `authenticateWsUpgrade` decides about a key header. -/
def upgradedAt (verify : String → String → Bool) (w : World) (apiKey : String)
    : Except JsError WsAuthResult :=
  (authenticateWsUpgrade { xApiKey := some apiKey }).answered (momentReply verify w)

theorem trimChars_trimChars (cs : List Char) : trimChars (trimChars cs) = trimChars cs := by
  have left : (trimChars cs).dropWhile isJsSpace = trimChars cs := by
    have start : trimChars cs <+: cs.dropWhile isJsSpace := List.rdropWhile_prefix isJsSpace _
    cases same : trimChars cs with
    | nil => rfl
    | cons head tail =>
        obtain ⟨rest, whole⟩ := start
        have visible := List.head?_dropWhile_not isJsSpace cs
        rw [← whole, same] at visible
        have visible : isJsSpace head = false := by simpa using visible
        rw [List.dropWhile_cons_of_neg (by simp [visible])]
  calc trimChars (trimChars cs)
      = ((trimChars cs).dropWhile isJsSpace).rdropWhile isJsSpace := rfl
    _ = ((cs.dropWhile isJsSpace).rdropWhile isJsSpace).rdropWhile isJsSpace := by
        rw [left]
        rfl
    _ = trimChars cs := List.rdropWhile_idempotent isJsSpace _

section

variable {verify : String → String → Bool} {jwtDecode : String → Option DecodedToken} {w : World}
  {apiKey : String} {parsed : ParsedApiKey} {row : ApiKey}

theorem parseApiKey_jsTrim : parseApiKey (jsTrim apiKey) = parseApiKey apiKey := by
  unfold parseApiKey jsTrim
  rw [String.toList_ofList, trimChars_trimChars]

theorem rawKey_header
    : rawKey { xApiKey := some apiKey } = (some (jsTrim apiKey)).filter
        (fun text => text ≠ "") := by
  unfold rawKey
  simp only [Option.map_some]
  cases (some (jsTrim apiKey)).filter (fun text => text ≠ "") <;> rfl

theorem upgradedAt_of_unread (unread : parseApiKey apiKey = none)
    : ∃ error, upgradedAt verify w apiKey = .error error := by
  unfold upgradedAt authenticateWsUpgrade
  by_cases given : jsTrim apiKey = ""
  · have missing : rawKey { xApiKey := some apiKey } = none := by
      rw [rawKey_header, given]
      rfl
    simp only [answered_bind, answered_ensure, answered_orThrow, missing, Except.bind]
    exact ⟨_, rfl⟩
  · have text : rawKey { xApiKey := some apiKey } = some (jsTrim apiKey) := by
      rw [rawKey_header, Option.filter_some, if_pos (decide_eq_true given)]
    simp only [answered_bind, answered_ensure, answered_orThrow, text, Option.elim_some,
      parseApiKey_jsTrim, unread, Except.bind]
    exact ⟨_, rfl⟩

theorem upgradedAt_of_read (read : parseApiKey apiKey = some parsed)
    : upgradedAt verify w apiKey
      = ((w.apiKeys.lookup parsed.lookupKey).filter (fun row => row.current w.clock w.clock)).elim
          (.error (wsAuthError "Invalid API key"))
          (fun row =>
            if verify parsed.secret row.keyHash then .ok (wsAuthResult row)
            else .error (wsAuthError "Invalid API key")) := by
  have given : jsTrim apiKey ≠ "" := ne_empty_of_parseApiKey (parseApiKey_jsTrim.trans read)
  have text : rawKey { xApiKey := some apiKey } = some (jsTrim apiKey) := by
    rw [rawKey_header, Option.filter_some, if_pos (decide_eq_true given)]
  obtain ⟨time, decided, found⟩ := @answered_checks verify w parsed.lookupKey
  unfold upgradedAt authenticateWsUpgrade
  simp only [answered_bind, answered_ensure, answered_orThrow, text, Option.elim_some,
    parseApiKey_jsTrim, read, time, found, decided, answered_pure, Except.bind]
  cases (w.apiKeys.lookup parsed.lookupKey).filter (fun row => row.current w.clock w.clock) with
  | none => rfl
  | some row => cases same : verify parsed.secret row.keyHash <;> simp [same]

theorem upgradedAt_eq_ok_iff {result : WsAuthResult}
    : upgradedAt verify w apiKey = .ok result
      ↔ ∃ parsed row, Presents verify w apiKey parsed row ∧ result = wsAuthResult row := by
  constructor
  · intro accepted
    cases read : parseApiKey apiKey with
    | none =>
        obtain ⟨error, refused⟩ := upgradedAt_of_unread read
        rw [refused] at accepted
        cases accepted
    | some parsed =>
        rw [upgradedAt_of_read read] at accepted
        cases found : (w.apiKeys.lookup parsed.lookupKey).filter
          (fun row => row.current w.clock w.clock) with
        | none =>
            rw [found] at accepted
            cases accepted
        | some row =>
            obtain ⟨stored, current⟩ := Option.filter_eq_some_iff.mp found
            simp only [found, Option.elim_some] at accepted
            split at accepted
            · rename_i verified
              exact ⟨parsed, row, ⟨read, stored, current, verified⟩, (Except.ok.inj accepted).symm⟩
            · cases accepted
  · rintro ⟨parsed, row, ⟨read, stored, current, verified⟩, rfl⟩
    rw [upgradedAt_of_read read, stored, Option.filter_some, if_pos current]
    exact if_pos verified

theorem Presents.unique {parsed' : ParsedApiKey} {row' : ApiKey}
    (h : Presents verify w apiKey parsed row)
    (h' : Presents verify w apiKey parsed' row')
    : parsed' = parsed ∧ row' = row := by
  obtain rfl := Option.some.inj (h.read.symm.trans h'.read)
  exact ⟨rfl, Option.some.inj (h'.stored.symm.trans h.stored)⟩

end

-- Agreement

def AuthenticatedKey.reported (key : AuthenticatedKey) : WsAuthResult where
  keyId := key.id
  userId := key.userId
  organizationId := key.organizationId
  keyType := key.keyType
  permissions := key.permissions

/-- The upgrade accepts a header if and only if `validateApiKey` does, and reports the same. -/
def AcceptorsAgree (verify : String → String → Bool) (jwtDecode : String → Option DecodedToken)
    (w : World) (apiKey : String) : Prop :=
  ∀ result, upgradedAt verify w apiKey = .ok result
    ↔ ∃ key, validatedAt verify jwtDecode w apiKey = .ok key ∧ key.reported = result

/-- They agree on a header if and only if it is not the current key of an inactive user, nor of a
row whose permissions cannot be read.
-/
theorem acceptors_agree (verify : String → String → Bool) (jwtDecode : String → Option DecodedToken)
    (w : World) (apiKey : String)
    : AcceptorsAgree verify jwtDecode w apiKey
      ↔ ∀ parsed row, Presents verify w apiKey parsed row →
        rejectInactive (w.userOf row) = .ok () ∧ row.permissions ≠ .malformed := by
  have decoded : ∀ {permissions : StoredPermissions} {scopes : List String},
      validatePermissions permissions = .ok scopes
        ↔ permissions ≠ .malformed ∧ wsPermissions permissions = scopes := by
    intro permissions scopes
    cases permissions <;> simp [validatePermissions, wsPermissions]
  constructor
  · intro agree parsed row presents
    obtain ⟨key, accepted, -⟩ := (agree (wsAuthResult row)).mp
      (upgradedAt_eq_ok_iff.mpr ⟨parsed, row, presents, rfl⟩)
    obtain ⟨_, _, scopes, presents', active, valid, -⟩ := validatedAt_eq_ok_iff.mp accepted
    obtain ⟨-, rfl⟩ := presents.unique presents'
    exact ⟨active, (decoded.mp valid).1⟩
  · intro accepts result
    rw [upgradedAt_eq_ok_iff]
    constructor
    · rintro ⟨parsed, row, presents, rfl⟩
      obtain ⟨active, readable⟩ := accepts parsed row presents
      exact ⟨_, validatedAt_eq_ok_iff.mpr
        ⟨parsed, row, _, presents, active, decoded.mpr ⟨readable, rfl⟩, rfl⟩, rfl⟩
    · rintro ⟨key, accepted, rfl⟩
      obtain ⟨parsed, row, scopes, presents, -, valid, rfl⟩ := validatedAt_eq_ok_iff.mp accepted
      obtain ⟨-, rfl⟩ := decoded.mp valid
      exact ⟨parsed, row, presents, rfl⟩

/-- The key of a user whose row has exactly the columns of the schema opens the upgrade alone. -/
theorem acceptors_disagree
    : ¬ AcceptorsAgree sampleVerify (fun _ => none) (afterKey {})
        (issuedText "0123456789ab" sampleSecret) := by
  intro agree
  have upgraded : (upgradedAt sampleVerify (afterKey {})
    (issuedText "0123456789ab" sampleSecret)).toOption
      = some { keyId := "key", userId := some "user", organizationId := none, keyType := .USER_KEY,
               permissions := ["p2p:read"] } := by
    decide +kernel
  have rejected : (validatedAt sampleVerify (fun _ => none) (afterKey {})
      (issuedText "0123456789ab" sampleSecret)).toOption = none := by
    decide +kernel
  cases accepted : upgradedAt sampleVerify (afterKey {})
    (issuedText "0123456789ab" sampleSecret) with
  | error error =>
      rw [accepted] at upgraded
      cases upgraded
  | ok result =>
      obtain ⟨key, valid, -⟩ := (agree result).mp accepted
      rw [valid] at rejected
      cases rejected

end AcbuBackend.Auth

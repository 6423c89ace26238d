import AcbuBackend.Auth.Calls
import AcbuBackend.Effects.Evaluation

/-! Requests that present an API key, decided at one moment: the rows, the clock and the
comparison of a secret with a hash do not change while the request is answered.
-/

namespace AcbuBackend.Auth

open Effects Effects.Prog AcbuBackend.Runtime

-- The format of a key

def apiKeyChars (lookupKey secret : List Char) : List Char :=
  (API_KEY_PREFIX ++ "_").toList ++ lookupKey ++ '_' :: secret

/-- A part of a key: so many hexadecimal digits. -/
structure IsHex (length : Nat) (cs : List Char) : Prop where
  length_eq : cs.length = length
  digits : cs.all isHexDigit = true

theorem eq_append_cons_of_getElem? {cs : List Char} {n : Nat} {c : Char} (h : cs[n]? = some c)
    : cs = cs.take n ++ c :: cs.drop (n + 1) := by
  obtain ⟨bound, same⟩ := List.getElem?_eq_some_iff.mp h
  rw [← same, ← List.drop_eq_getElem_cons bound, List.take_append_drop]

/-- A text is a key if and only if it has the characters of one, spaces around it and the case
of its letters apart.
-/
theorem parseApiKey_eq_some_iff {raw : String} {parsed : ParsedApiKey}
    : parseApiKey raw = some parsed
      ↔ (trimChars raw.toList).map Char.toLower = apiKeyChars parsed.lookupKey.toList
        parsed.secret.toList
        ∧ IsHex API_KEY_LOOKUP_LENGTH parsed.lookupKey.toList
        ∧ IsHex API_KEY_SECRET_LENGTH parsed.secret.toList := by
  unfold parseApiKey
  generalize (trimChars raw.toList).map Char.toLower = chars
  simp only [Option.ite_none_right_eq_some]
  constructor
  · rintro ⟨⟨start, lookupLength, lookupHex, separator, secretLength, secretHex⟩, same⟩
    obtain rfl := Option.some.inj same
    simp only [String.toList_ofList]
    refine ⟨?_, ⟨lookupLength, lookupHex⟩, secretLength, secretHex⟩
    have split := eq_append_cons_of_getElem? separator
    have first : chars.take (API_KEY_PREFIX.length + 1 + API_KEY_LOOKUP_LENGTH)
        = (API_KEY_PREFIX ++ "_").toList
          ++ (chars.drop (API_KEY_PREFIX.length + 1)).take API_KEY_LOOKUP_LENGTH := by
      rw [List.take_add, start]
    rw [first] at split
    exact split
  · rintro ⟨rfl, lookup, secret⟩
    have start : (API_KEY_PREFIX ++ "_").toList.length = API_KEY_PREFIX.length + 1 := by decide
    have before : ((API_KEY_PREFIX ++ "_").toList ++ parsed.lookupKey.toList).length
        = API_KEY_PREFIX.length + 1 + API_KEY_LOOKUP_LENGTH := by
      rw [List.length_append, start, lookup.length_eq]
    have secretPart : (apiKeyChars parsed.lookupKey.toList parsed.secret.toList).drop
        (API_KEY_PREFIX.length + 1 + API_KEY_LOOKUP_LENGTH + 1) = parsed.secret.toList := by
      rw [apiKeyChars, ← before, ← List.drop_drop, List.drop_left]
      rfl
    have lookupPart : ((apiKeyChars parsed.lookupKey.toList parsed.secret.toList).drop
        (API_KEY_PREFIX.length + 1)).take API_KEY_LOOKUP_LENGTH = parsed.lookupKey.toList := by
      rw [apiKeyChars, List.append_assoc, ← start, List.drop_left, ← lookup.length_eq,
        List.take_left]
    rw [secretPart, lookupPart]
    refine ⟨⟨?_, lookup.length_eq, lookup.digits, ?_, secret.length_eq, secret.digits⟩, ?_⟩
    · rw [apiKeyChars, List.append_assoc, ← start, List.take_left]
    · rw [apiKeyChars, ← before, List.getElem?_append_right (le_refl _)]
      simp
    · rw [String.ofList_toList, String.ofList_toList]

theorem not_dot_of_parseApiKey {raw : String} {parsed : ParsedApiKey}
    (h : parseApiKey raw = some parsed)
    : '.' ∉ raw.toList := by
  obtain ⟨same, lookup, secret⟩ := parseApiKey_eq_some_iff.mp h
  intro member
  have dot : '.' ∈ apiKeyChars parsed.lookupKey.toList parsed.secret.toList := by
    rw [← same]
    exact List.mem_map.mpr ⟨'.', mem_trimChars member (by decide), by decide⟩
  have noHex : ∀ {length : Nat} {cs : List Char}, IsHex length cs → '.' ∉ cs := by
    intro length cs hex member
    have digit := List.all_eq_true.mp hex.digits '.' member
    revert digit
    decide
  rw [apiKeyChars, List.mem_append, List.mem_append, List.mem_cons] at dot
  rcases dot with (start | dot) | (separator | dot)
  · revert start
    decide
  · exact noHex lookup dot
  · revert separator
    decide
  · exact noHex secret dot

/-- What `rejectIfJwtToken` decodes: a text of three parts between dots. -/
def decodeToken (jwtDecode : String → Option DecodedToken) (token : String) : Option DecodedToken :=
  if token.toList.count '.' = 2 then jwtDecode token else none

theorem decodeToken_of_parseApiKey {jwtDecode : String → Option DecodedToken} {raw : String}
    {parsed : ParsedApiKey} (h : parseApiKey raw = some parsed)
    : decodeToken jwtDecode raw = none := by
  unfold decodeToken
  rw [List.count_eq_zero.mpr (not_dot_of_parseApiKey h)]
  rfl

theorem ne_empty_of_parseApiKey {raw : String} {parsed : ParsedApiKey}
    (h : parseApiKey raw = some parsed)
    : raw ≠ "" := by
  rintro rfl
  have none : parseApiKey "" = Option.none := by decide
  rw [none] at h
  cases h

-- Validation at one moment

def AuthOp.verified (verify : String → String → Bool) : AuthOp → Bool
  | .compareSecret secret hash => verify secret hash
  | _ => false

/-- A call at the time of the clock, its comparison decided by `verify`. -/
def moment (verify : String → String → Bool) (w : World) (op : AuthOp) : Choice where
  time := w.clock
  agrees := op.verified verify

/-- What a call answers at the time of the clock. -/
def momentReply (verify : String → String → Bool) (w : World) (op : AuthOp)
    : authInterface.Reply op :=
  (effect (moment verify w op) w op).1

/-- What `validateApiKey` decides about the key of a request. -/
def validatedAt (verify : String → String → Bool) (jwtDecode : String → Option DecodedToken)
    (w : World)
    (apiKey : String)
    : Except JsError AuthenticatedKey :=
  (validateApiKey (decodeToken jwtDecode) (some apiKey)).answered (momentReply verify w)

def World.userOf (w : World) (row : ApiKey) : Option User :=
  row.userId.bind (fun id => w.users.lookup id)

/-- A text is the key of a current row, with its secret. -/
structure Presents (verify : String → String → Bool) (w : World) (apiKey : String)
    (parsed : ParsedApiKey)
    (row : ApiKey) : Prop where
  read : parseApiKey apiKey = some parsed
  stored : w.apiKeys.lookup parsed.lookupKey = some row
  current : row.current w.clock w.clock = true
  verified : verify parsed.secret row.keyHash = true

section

variable {verify : String → String → Bool} {jwtDecode : String → Option DecodedToken} {w : World}
  {apiKey : String} {parsed : ParsedApiKey} {row : ApiKey}

def refusal (jwtDecode : String → Option DecodedToken) (apiKey : String) : JsError :=
  if apiKey = "" then plainAppError "API key is required" 401
  else plainAppError (((decodeToken jwtDecode apiKey).map refusedToken).getD
    "Invalid API key format") 401

theorem validatedAt_of_unread (unread : parseApiKey apiKey = none)
    : validatedAt verify jwtDecode w apiKey = .error (refusal jwtDecode apiKey) := by
  unfold validatedAt validateApiKey refusal
  by_cases given : apiKey = ""
  · subst given
    rfl
  · simp only [Option.filter_some, given, answered_bind, answered_orThrow, ne_eq, not_false_eq_true,
      decide_true, if_true, if_false, Option.elim_some, Except.bind]
    cases decodeToken jwtDecode apiKey with
    | none => simp [unread, Except.bind]
    | some decoded => rfl

theorem answered_checks {lookupKey : String}
    : now.answered (momentReply verify w) = .ok w.clock
      ∧ (∀ secret hash, (query (.compareSecret secret hash)).answered (momentReply verify w)
        = .ok (verify secret hash))
      ∧ (query (.findApiKey lookupKey w.clock w.clock)).answered (momentReply verify w)
        = .ok (((w.apiKeys.lookup lookupKey).filter (fun row => row.current w.clock w.clock)).map
          (fun row => (row, w.userOf row))) :=
  ⟨rfl, fun _ _ => rfl, rfl⟩

theorem validatedAt_of_read (read : parseApiKey apiKey = some parsed)
    : validatedAt verify jwtDecode w apiKey
      = (((w.apiKeys.lookup parsed.lookupKey).filter (fun row => row.current w.clock w.clock)).elim
          (.error (plainAppError "Invalid API key" 401))
          (fun row =>
            (rejectInactive (w.userOf row)).bind fun _ =>
              if verify parsed.secret row.keyHash
              then (validatePermissions row.permissions).bind fun permissions =>
                .ok (authenticatedKey parsed.lookupKey row (w.userOf row) permissions)
              else .error (plainAppError "Invalid API key" 401))) := by
  have given : (some apiKey).filter (fun text => text ≠ "") = some apiKey := by
    simp [ne_empty_of_parseApiKey read]
  obtain ⟨time, decided, found⟩ := @answered_checks verify w parsed.lookupKey
  unfold validatedAt validateApiKey
  simp only [given, answered_bind, answered_orThrow, decodeToken_of_parseApiKey read, read,
    time, found, decided, answered_fromExcept,
    answered_ensure, answered_pure, Option.elim_some, Except.bind]
  cases (w.apiKeys.lookup parsed.lookupKey).filter (fun row => row.current w.clock w.clock) with
  | none => rfl
  | some row =>
      simp only [Option.map_some, Option.elim_some]
      cases rejectInactive (w.userOf row) with
      | error _ => rfl
      | ok _ => cases verify parsed.secret row.keyHash <;> rfl

theorem validatedAt_eq_ok_iff {key : AuthenticatedKey}
    : validatedAt verify jwtDecode w apiKey = .ok key
      ↔ ∃ parsed row permissions, Presents verify w apiKey parsed row
        ∧ rejectInactive (w.userOf row) = .ok ()
        ∧ validatePermissions row.permissions = .ok permissions
        ∧ key = authenticatedKey parsed.lookupKey row (w.userOf row) permissions := by
  constructor
  · intro accepted
    cases read : parseApiKey apiKey with
    | none =>
        rw [validatedAt_of_unread read] at accepted
        cases accepted
    | some parsed =>
        rw [validatedAt_of_read read] at accepted
        cases found : (w.apiKeys.lookup parsed.lookupKey).filter
          (fun row => row.current w.clock w.clock) with
        | none =>
            rw [found] at accepted
            cases accepted
        | some row =>
            obtain ⟨stored, current⟩ := Option.filter_eq_some_iff.mp found
            simp only [found, Option.elim_some, Except.bind] at accepted
            split at accepted
            · cases accepted
            · rename_i active
              split at accepted
              · rename_i verified
                split at accepted
                · cases accepted
                · rename_i permissions valid
                  exact ⟨parsed, row, permissions, ⟨read, stored, current, verified⟩, active, valid,
                    (Except.ok.inj accepted).symm⟩
              · cases accepted
  · rintro ⟨parsed, row, permissions, ⟨read, stored, current, verified⟩, active, valid, rfl⟩
    rw [validatedAt_of_read read, stored, Option.filter_some, if_pos current]
    simp only [Option.elim_some, active, valid, verified, Except.bind, if_true]

def AuthOp.checksKey : AuthOp → Bool
  | .denyList .now | .findApiKey .. | .compareSecret .. => true
  | _ => false

theorem issues_validateApiKey {p : AuthOp → Prop} {decodeJwt : String → Option DecodedToken}
    {apiKey : Option String} (calls : ∀ op, op.checksKey = true → p op)
    : Issues p (validateApiKey decodeJwt apiKey) := by
  unfold validateApiKey
  refine Issues.orThrow.bind fun apiKey => ?_
  split
  · exact .fail
  · refine Issues.orThrow.bind fun parsed => ?_
    refine (issues_query (calls _ rfl)).bind fun time => ?_
    refine (issues_query (calls _ rfl)).bind fun emergencyTime => ?_
    refine (issues_query (calls _ rfl)).bind fun found => ?_
    refine Issues.orThrow.bind fun found => ?_
    refine Issues.fromExcept.bind fun _ => ?_
    refine (issues_query (calls _ rfl)).bind fun isValid => ?_
    exact Issues.ensure.bind fun _ => Issues.fromExcept.bind fun _ => .done

theorem act_moment {op : AuthOp} {i : Nat} (checks : op.checksKey = true)
    : authSemantics.act i op (moment verify w op) w = some (momentReply verify w op, w) := by
  cases op with
  | findApiKey _ _ | compareSecret _ _ =>
      exact if_pos (by simp [authEnvironment, admissible, moment, AuthOp.isLocal, Outcome.isLost])
  | denyList op =>
      cases op with
      | now =>
          exact if_pos (by simp [authEnvironment, admissible, Challenge.denyListAdmissible, moment])
      | _ => cases checks
  | _ => cases checks

theorem evaluates_validatedAt {i : Nat}
    : (validateApiKey (decodeToken jwtDecode) (some apiKey)).Evaluates authSemantics i w
        (validatedAt verify jwtDecode w apiKey) w :=
  evaluates_answered (fun op checks => ⟨moment verify w op, act_moment checks⟩)
    (issues_validateApiKey fun _ checks => checks)

end

end AcbuBackend.Auth

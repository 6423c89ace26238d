import AcbuBackend.Auth.Frames
import AcbuBackend.Auth.KeyCheck

/-! The key that `generateApiKey` returns, presented to `validateApiKey` in a later state. -/

namespace AcbuBackend.Auth

open Effects Effects.Prog AcbuBackend.Runtime

-- Later states

/-- Any calls may have been made in between. -/
def World.Later : World → World → Prop :=
  Relation.ReflTransGen fun w w' => ∃ i op x reply, authSemantics.act i op x w = some (reply, w')

namespace World

variable {w w' : World}

theorem Later.clock_le (h : w.Later w') : w.clock ≤ w'.clock := by
  induction h with
  | refl => exact Nat.le_refl _
  | tail _ step ih =>
      obtain ⟨i, op, x, reply, answered⟩ := step
      exact ih.trans (auth_clock_le answered).1

theorem Later.key {lookupKey : String} {row : ApiKey} (h : w.Later w')
    (stored : w.apiKeys.lookup lookupKey = some row)
    : ∃ revokedAt, w'.apiKeys.lookup lookupKey = some { row with revokedAt } := by
  induction h with
  | refl => exact ⟨row.revokedAt, stored⟩
  | tail _ step ih =>
      obtain ⟨i, op, x, reply, answered⟩ := step
      obtain ⟨revokedAt, there⟩ := ih
      obtain ⟨revokedAt', there'⟩ := keyRevoked_of_act answered there
      exact ⟨revokedAt', there'⟩

end World

-- The issued key

/-- The digits `toString("hex")` writes. -/
def hexTextDigits : List Char :=
  "0123456789abcdef".toList

/-- What `randomBytes(bytes).toString("hex")` can answer. -/
structure DrawnHex (bytes : Nat) (text : String) : Prop where
  length_eq : text.toList.length = 2 * bytes
  digits : ∀ c ∈ text.toList, c ∈ hexTextDigits

theorem forall_mem_of_all {chars : List Char} {P : Char → Prop} [DecidablePred P]
    (every : chars.all (fun c => decide (P c)) = true) : ∀ c ∈ chars, P c := by
  intro c member
  exact of_decide_eq_true (List.all_eq_true.mp every c member)

theorem hexTextDigits_facts
    : ∀ c ∈ hexTextDigits, isHexDigit c = true ∧ isJsSpace c = false ∧ c.toLower = c :=
  forall_mem_of_all (by decide)

theorem DrawnHex.isHex {bytes : Nat} {text : String} (h : DrawnHex bytes text)
    : IsHex (2 * bytes) text.toList :=
  ⟨h.length_eq, List.all_eq_true.mpr fun c member => (hexTextDigits_facts c (h.digits c member)).1⟩

def issuedText (lookupKey secret : String) : String :=
  s!"{API_KEY_PREFIX}_{lookupKey}_{secret}"

def issuedRow (userId : UserId) (permissions : List String) (options : ApiKeyOptions)
    (keyHash id : String)
    : ApiKey where
  id
  userId := some userId
  organizationId := options.organizationId
  keyHash
  keyType := options.keyType
  createdByUserId := options.createdByUserId
  emergencyReason := options.emergencyReason
  permissions := .scopes permissions
  rateLimit := options.rateLimit.getD 100
  expiresAt := options.expiresAt
  emergencyExpiresAt := options.emergencyExpiresAt

section

variable {lookupKey secret : String}

theorem toList_issuedText
    : (issuedText lookupKey secret).toList = apiKeyChars lookupKey.toList secret.toList := by
  simp only [issuedText, apiKeyChars, String.toList_append, List.append_assoc]
  rfl

theorem parseApiKey_issuedText (lookup : DrawnHex 6 lookupKey) (drawn : DrawnHex 32 secret)
    : parseApiKey (issuedText lookupKey secret) = some { lookupKey, secret } := by
  have plain : ∀ c ∈ apiKeyChars lookupKey.toList secret.toList,
      isJsSpace c = false ∧ c.toLower = c := by
    intro c member
    rw [apiKeyChars, List.mem_append, List.mem_append, List.mem_cons] at member
    rcases member with (start | member) | (rfl | member)
    · exact forall_mem_of_all (P := fun c => isJsSpace c = false ∧ c.toLower = c)
        (by decide) c start
    · exact (hexTextDigits_facts c (lookup.digits c member)).2
    · decide
    · exact (hexTextDigits_facts c (drawn.digits c member)).2
  refine parseApiKey_eq_some_iff.mpr ⟨?_, lookup.isHex, drawn.isHex⟩
  rw [toList_issuedText, trimChars_eq_self fun c member => (plain c member).1]
  exact List.map_congr_left (fun c member => (plain c member).2) |>.trans (List.map_id _)

theorem stored_of_generateApiKey {userId : UserId} {permissions : List String}
    {options : ApiKeyOptions}
    {x₁ x₂ x₃ x₄ : Choice} {apiKey : String} {w w' : World}
    (issued : (generateApiKey userId permissions options).evaluate authSemantics 0
      [x₁, x₂, x₃, x₄] w
      = some (.ok apiKey, w'))
    : apiKey = issuedText x₁.text x₂.text
      ∧ w'.apiKeys.lookup x₁.text = some (issuedRow userId permissions options x₃.text x₄.text)
      ∧ w'.users = w.users
      ∧ w'.clock = x₄.time := by
  unfold generateApiKey at issued
  obtain ⟨lookupKey, w₁, first, issued⟩ := evaluate_await_bind issued
  obtain ⟨secret, w₂, second, issued⟩ := evaluate_await_bind issued
  obtain ⟨keyHash, w₃, third, issued⟩ := evaluate_await_bind issued
  obtain ⟨_, w₄, fourth, issued⟩ := evaluate_await_bind issued
  obtain ⟨same, rfl⟩ := Prod.mk.inj (Option.some.inj issued)
  obtain rfl := Except.ok.inj same
  have users : w₄.users = w.users :=
    (users_of_act rfl fourth).trans ((users_of_act rfl third).trans
      ((users_of_act rfl second).trans (users_of_act rfl first)))
  obtain rfl : x₁.text = lookupKey := Except.ok.inj (congrArg Prod.fst (auth_act_ok first).2)
  obtain rfl : x₂.text = secret := Except.ok.inj (congrArg Prod.fst (auth_act_ok second).2)
  obtain rfl : x₃.text = keyHash := Except.ok.inj (congrArg Prod.fst (auth_act_ok third).2)
  obtain ⟨-, written⟩ := auth_act_ok fourth
  simp only [effect, insertNew] at written
  split at written
  · cases congrArg Prod.fst written
  · obtain rfl := congrArg Prod.snd written
    exact ⟨rfl, AList.lookup_insert _, users, rfl⟩

end

-- The round trip

/-- The key of a row is neither revoked nor expired now. -/
def World.holdsKey (w : World) (lookupKey : String) : Bool :=
  (w.apiKeys.lookup lookupKey).any (fun row => row.current w.clock w.clock)

/-- In every later state a key is accepted for its user and permissions while it is neither
revoked nor expired and the row of the user is the same, and rejected otherwise.
-/
structure RoundTrip (verify : String → String → Bool) (jwtDecode : String → Option DecodedToken)
    (userId : UserId) (user : User) (permissions : List String) (apiKey lookupKey : String)
    (w : World) : Prop where
  accepted : ∀ w', w.Later w' → w'.holdsKey lookupKey = true → w'.users.lookup userId = some user →
    ∃ key, validatedAt verify jwtDecode w' apiKey = .ok key
      ∧ key.userId = some userId ∧ key.permissions = permissions
  rejected : ∀ w', w.Later w' → w'.holdsKey lookupKey = false →
    ∃ error, validatedAt verify jwtDecode w' apiKey = .error error

def ApiKeyOptions.expired (options : ApiKeyOptions) (time : Nat) : Bool :=
  options.expiresAt.any (fun expiresAt => expiresAt ≤ time)
  || (options.keyType = .BREAK_GLASS_KEY
      && !options.emergencyExpiresAt.any (fun expiresAt => time < expiresAt))

section

variable {verify : String → String → Bool} {jwtDecode : String → Option DecodedToken}
    {userId : UserId}
  {user : User} {permissions : List String} {options : ApiKeyOptions} {keyHash id : String}
    {w : World}

theorem current_issuedRow {time : Nat}
    : (issuedRow userId permissions options keyHash id).current time time
        = !options.expired time := by
  unfold ApiKeyOptions.expired issuedRow ApiKey.current
  rw [Bool.eq_iff_iff]
  cases options.expiresAt with
  | none => cases options.emergencyExpiresAt <;> simp
  | some expiresAt => cases options.emergencyExpiresAt <;> simp

theorem validatePermissions_of_valid (valid : ∀ scope ∈ permissions, scope ∈ PERMISSION_SCOPES)
    : validatePermissions (.scopes permissions) = .ok permissions := by
  have kept : permissions.filter (fun scope => scope ∈ PERMISSION_SCOPES) = permissions :=
    List.filter_eq_self.mpr fun scope member => decide_eq_true (valid scope member)
  exact congrArg Except.ok kept

theorem rejectInactive_eq_ok_iff
    : rejectInactive (some user) = .ok ()
        ↔ user.deletedAt = some none ∧ user.isDisabled = false := by
  unfold rejectInactive
  by_cases kept : user.deletedAt = some none
  · simp only [kept, ne_eq, not_true_eq_false, if_false, true_and]
    cases user.isDisabled <;> decide
  · simp [kept]

theorem validatedAt_of_not_holdsKey {apiKey : String} {parsed : ParsedApiKey}
    (read : parseApiKey apiKey = some parsed) (gone : w.holdsKey parsed.lookupKey = false)
    : validatedAt verify jwtDecode w apiKey = .error (plainAppError "Invalid API key" 401) := by
  rw [validatedAt_of_read read]
  unfold World.holdsKey at gone
  cases stored : w.apiKeys.lookup parsed.lookupKey with
  | none => rfl
  | some row =>
      rw [stored] at gone
      rw [Option.filter_some, if_neg (by simpa using gone)]
      rfl

theorem validatedAt_of_issuedRow {lookupKey secret : String} {revokedAt : Option Nat}
    (read : parseApiKey (issuedText lookupKey secret) = some { lookupKey, secret })
    (there : w.apiKeys.lookup lookupKey
      = some { issuedRow userId permissions options keyHash id with revokedAt })
    (holds : w.holdsKey lookupKey = true) (stored : w.users.lookup userId = some user)
    (hashed : verify secret keyHash = true) (valid
      : ∀ scope ∈ permissions, scope ∈ PERMISSION_SCOPES)
    : validatedAt verify jwtDecode w (issuedText lookupKey secret)
      = (rejectInactive (some user)).bind fun _ =>
          .ok (authenticatedKey lookupKey
            { issuedRow userId permissions options keyHash id with revokedAt }
            (some user) permissions) := by
  unfold World.holdsKey at holds
  rw [there, Option.any_some] at holds
  rw [validatedAt_of_read read, there, Option.filter_some, if_pos holds, Option.elim_some,
    World.userOf]
  have owner : (some userId).bind (fun id => w.users.lookup id) = some user := stored
  simp only [issuedRow] at owner ⊢
  rw [owner]
  refine congrArg _ (funext fun _ => ?_)
  refine (if_pos hashed).trans ?_
  rw [validatePermissions_of_valid valid]
  rfl

theorem not_holdsKey_of_expired {lookupKey : String} {revokedAt : Option Nat} {time : Nat}
    (there : w.apiKeys.lookup lookupKey
      = some { issuedRow userId permissions options keyHash id with revokedAt })
    (later : time ≤ w.clock) (expired : options.expired time = true)
    : w.holdsKey lookupKey = false := by
  rw [Bool.eq_false_iff]
  intro holds
  unfold World.holdsKey at holds
  rw [there, Option.any_some] at holds
  have unrevoked : revokedAt = none := by
    simp only [ApiKey.current, Bool.and_eq_true] at holds
    exact Option.isNone_iff_eq_none.mp holds.1.1
  subst unrevoked
  have current : (issuedRow userId permissions options keyHash id).current time time = true :=
    current_of_later later later holds
  rw [current_issuedRow, expired] at current
  cases current

end

/-- The key that is issued for a user makes the round trip if and only if the row of the user has
a `deletedAt` that is null and is not disabled, or the key is expired when it is stored.
-/
theorem issued_key_round_trip (verify : String → String → Bool)
    (jwtDecode : String → Option DecodedToken) (w : World) (userId : UserId) (user : User)
    (permissions : List String) (options : ApiKeyOptions) (x₁ x₂ x₃ x₄ : Choice) (apiKey : String)
    (w' : World) (stored : w.users.lookup userId = some user)
    (valid : ∀ scope ∈ permissions, scope ∈ PERMISSION_SCOPES)
    (lookup : DrawnHex 6 x₁.text) (secret : DrawnHex 32 x₂.text)
    (hashed : verify x₂.text x₃.text = true)
    (issued : (generateApiKey userId permissions options).evaluate authSemantics 0
      [x₁, x₂, x₃, x₄] w
      = some (.ok apiKey, w'))
    : RoundTrip verify jwtDecode userId user permissions apiKey x₁.text w'
      ↔ user.deletedAt = some none ∧ user.isDisabled = false ∨ options.expired x₄.time = true := by
  obtain ⟨rfl, there, users, clock⟩ := stored_of_generateApiKey issued
  have read := parseApiKey_issuedText lookup secret
  rw [← users] at stored
  rw [← rejectInactive_eq_ok_iff]
  constructor
  · intro round
    cases expired : options.expired x₄.time with
    | true => exact .inr rfl
    | false =>
        have holds : w'.holdsKey x₁.text = true := by
          simp [World.holdsKey, there, current_issuedRow, clock, expired]
        obtain ⟨key, accepted, -⟩ := round.accepted w' .refl holds stored
        rw [validatedAt_of_issuedRow read there holds stored hashed valid] at accepted
        left
        cases active : rejectInactive (some user) with
        | ok _ => rfl
        | error _ =>
            rw [active] at accepted
            cases accepted
  · intro passes
    refine ⟨fun w'' later holds same => ?_, fun w'' _ gone =>
      ⟨_, validatedAt_of_not_holdsKey read gone⟩⟩
    obtain ⟨revokedAt, there'⟩ := later.key there
    rw [validatedAt_of_issuedRow read there' holds same hashed valid]
    rcases passes with active | expired
    · rw [active]
      exact ⟨_, rfl, rfl, rfl⟩
    · rw [not_holdsKey_of_expired there' (clock ▸ later.clock_le) expired] at holds
      cases holds

/-- A hash that is the text itself. -/
def sampleVerify (secret hash : String) : Bool :=
  hash = secret

def sampleSecret : String :=
  String.ofList (List.replicate 64 '0')

/-- What is drawn, hashed and written when the key of a user is made. -/
def sampleDraws : List Choice :=
  [{ time := 1000, text := "0123456789ab" }, { time := 1000, text := sampleSecret },
    { time := 1000, text := sampleSecret }, { time := 1000, text := "key" }]

def withUser (user : User) : World :=
  { World.empty 1000 with users := (∅ : AList (fun _ : UserId => User)).insert "user" user }

def afterKey (user : User) : World :=
  (generateApiKey "user" ["p2p:read"]).after authSemantics 0 sampleDraws (withUser user)

theorem afterKey_evaluate (user : User)
    : (generateApiKey "user" ["p2p:read"]).evaluate authSemantics 0 sampleDraws (withUser user)
      = some (.ok (issuedText "0123456789ab" sampleSecret), afterKey user) :=
  evaluate_after rfl

/-- The key of a user whose row has a null `deletedAt` makes the round trip. -/
theorem issued_key_round_trip_sample
    : RoundTrip sampleVerify (fun _ => none) "user" { deletedAt := some none } ["p2p:read"]
        (issuedText "0123456789ab" sampleSecret) "0123456789ab"
        (afterKey { deletedAt := some none }) :=
  (issued_key_round_trip sampleVerify (fun _ => none) (withUser { deletedAt := some none }) "user" _
    ["p2p:read"] {} { time := 1000, text := "0123456789ab" } { time := 1000, text := sampleSecret }
    { time := 1000, text := sampleSecret } { time := 1000, text := "key" } _ _
    (AList.lookup_insert _) (by decide) ⟨by decide, forall_mem_of_all (by decide)⟩
    ⟨by decide, forall_mem_of_all (by decide)⟩ (by decide)
    (afterKey_evaluate _)).mpr (.inl ⟨rfl, rfl⟩)

/-- The key of a user whose row has exactly the columns of the schema is rejected at once. -/
theorem issued_key_rejected
    : ∃ w', (generateApiKey "user" ["p2p:read"]).evaluate authSemantics 0 sampleDraws (withUser {})
          = some (.ok (issuedText "0123456789ab" sampleSecret), w')
        ∧ ¬ RoundTrip sampleVerify (fun _ => none) "user" {} ["p2p:read"]
            (issuedText "0123456789ab" sampleSecret) "0123456789ab" w' := by
  refine ⟨afterKey {}, afterKey_evaluate {}, fun round => ?_⟩
  obtain ⟨key, accepted, -⟩ := round.accepted _ .refl (by decide +kernel) (by decide +kernel)
  have rejected : (validatedAt sampleVerify (fun _ => none) (afterKey {})
      (issuedText "0123456789ab" sampleSecret)).toOption = none := by
    decide +kernel
  rw [accepted] at rejected
  cases rejected

end AcbuBackend.Auth

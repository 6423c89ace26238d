import AcbuBackend.Recovery.RetiredCredentials

/-! The deletion of an account, and which credentials of the user are accepted after it.
One transaction deletes the credentials of the user and writes an anonymous row over the account;
all other calls are those of the sign-in, refresh and recovery functions.
The deletion erases the API keys, but writes no refresh token, and a refresh looks at nothing but
the row of its token. So, where no call with a credential of the user was under way, the access
ends if and only if no refresh token of the user was usable any more.
-/

namespace AcbuBackend.Users

open Effects AcbuBackend.Runtime Auth Challenge
open Recovery

-- The transaction

def tombstone (user : User) (tombstoneSuffix : String) : User :=
  { user with
    username := some ("deleted_" ++ tombstoneSuffix)
    email := none
    phoneE164 := none
    stellarAddress := none
    passcodeHash := none
    twoFaMethod := none
    totpSecretEncrypted := none }

/-- The transaction of `tombstoneDeleteUser`. It is rolled back where there is no such user. -/
def tombstoneTransaction (w : World) (userId : UserId) (tombstoneSuffix : String)
    : Except JsError Unit × World :=
  match w.users.lookup userId with
  | none => (.error (.error "Record to update not found."), w)
  | some user =>
      (.ok (),
        { w with
          apiKeys := deleteRows w.apiKeys (fun row => row.userId = some userId)
          otpChallenges := deleteRows w.otpChallenges (fun row => row.userId = userId)
          users := w.users.insert userId (tombstone user tombstoneSuffix) })

inductive AccountOp
  | auth (op : AuthOp)
  | tombstoneTransaction (userId : UserId) (tombstoneSuffix : String)

abbrev AccountOp.Ret : AccountOp → Type
  | .auth op => op.Ret
  | .tombstoneTransaction .. => Unit

abbrev accountInterface : Interface where
  Op := AccountOp
  Ret := AccountOp.Ret
  Err := JsError

/-- The calls of the sign-in, refresh and recovery functions. -/
def authCalls : Inclusion authInterface accountInterface where
  op := .auth
  value := fun _ value => value
  error := id
  throws := id

def accountEnvironment : Environment accountInterface World Choice where
  outcome := Choice.outcome
  effect := fun x w op =>
    match op with
    | .auth op => effect x (w.atTime x.time) op
    | .tombstoneTransaction userId tombstoneSuffix =>
        tombstoneTransaction (w.atTime x.time) userId tombstoneSuffix
  admissible := fun op x w =>
    match op with
    | .auth op => admissible op x w
    | .tombstoneTransaction .. => w.clock ≤ x.time

def accountSemantics : Semantics accountInterface World Choice :=
  accountEnvironment.semantics

def tombstoneDeleteUser (userId : UserId) : Prog accountInterface Unit := do
  let randomUUID ← Prog.await (I := accountInterface) (.auth .randomText)
  Prog.await (I := accountInterface)
    (.tombstoneTransaction userId (String.ofList (randomUUID.toList.take 8)))

-- What the calls do

section

variable {i : Nat} {x : Choice} {w w' : World} {userId : UserId} {tombstoneSuffix : String}

theorem auth_of_act {op : AuthOp} {reply : authInterface.Reply op}
    (h : accountSemantics.act i (.auth op) x w = some (reply, w'))
    : authSemantics.act i op x w = some (reply, w') :=
  h

theorem tombstone_act_cases {reply : Except JsError Unit}
    (h : accountSemantics.act i (.tombstoneTransaction userId tombstoneSuffix) x w
      = some (reply, w'))
    : w.clock ≤ w'.clock
      ∧ w'.refreshTokens = w.refreshTokens
      ∧ (w'.apiKeys = w.apiKeys
        ∨ w'.apiKeys = deleteRows w.apiKeys (fun row => row.userId = some userId)) := by
  obtain ⟨onTime, answered⟩ := Environment.act_eq_some h
  have onTime : w.clock ≤ x.time := of_decide_eq_true onTime
  rcases Outcome.answer_world answered with rfl | rfl
  · exact ⟨Nat.le_refl _, rfl, .inl rfl⟩
  · simp only [accountEnvironment, tombstoneTransaction]
    split
    · exact ⟨onTime, rfl, .inl rfl⟩
    · exact ⟨onTime, rfl, .inr rfl⟩

theorem tombstone_act_ok
    (h : accountSemantics.act i (.tombstoneTransaction userId tombstoneSuffix) x w
      = some (.ok (), w'))
    : w'.apiKeys = deleteRows w.apiKeys (fun row => row.userId = some userId) := by
  obtain ⟨-, answered⟩ := Environment.act_eq_some h
  obtain ⟨-, performed⟩ := Outcome.answer_ok answered
  simp only [accountEnvironment, tombstoneTransaction] at performed
  split at performed
  · cases congrArg Prod.fst performed
  · obtain rfl := congrArg Prod.snd performed
    rfl

end

-- Credentials of a user

/-- An API key of the user has this lookup key. -/
def OwnsKey (userId : UserId) (w : World) (lookupKey : String) : Prop :=
  ∃ row, w.apiKeys.lookup lookupKey = some row ∧ row.userId = some userId

/-- A refresh token of the user has this hash. -/
def OwnsToken (userId : UserId) (w : World) (tokenHash : String) : Prop :=
  ∃ row, w.refreshTokens.lookup tokenHash = some row ∧ row.userId = userId

/-- The keys that a user had in `w` are erased, and of the tokens none is usable from `start` on.
-/
structure Ended (userId : UserId) (w : World) (start : Nat) (w' : World) : Prop where
  clock : start ≤ w'.clock
  keys : ∀ lookupKey, OwnsKey userId w lookupKey → w'.apiKeys.lookup lookupKey = none
  tokens : ∀ tokenHash, OwnsToken userId w tokenHash →
    ∃ row, w'.refreshTokens.lookup tokenHash = some row ∧ row.usable start = false

theorem unusable_of_later {row row' : RefreshToken} {time : Nat} (later : row.Later row')
    (unusable : row.usable time = false)
    : row'.usable time = false := by
  simp only [RefreshToken.usable, Bool.and_eq_false_iff, decide_eq_false_iff_not] at unusable ⊢
  rw [later.expiresAt]
  refine unusable.imp_left fun revoked => ?_
  have revoked : row'.revokedAt.isSome = true := later.revokedAt (by
    cases there : row.revokedAt with
    | none =>
        rw [there] at revoked
        cases revoked
    | some _ => rfl)
  rw [Option.isNone_eq_false_iff]
  exact revoked

theorem usable_of_le {row : RefreshToken} {start time : Nat} (order : start ≤ time)
    (usable : row.usable time = true)
    : row.usable start = true := by
  simp only [RefreshToken.usable, Bool.and_eq_true, decide_eq_true_eq] at usable ⊢
  exact ⟨usable.1, by omega⟩

section

variable {i : Nat} {x : Choice} {w w' : World} {userId : UserId}

theorem keyAbsent_of_act {op : AuthOp} {reply : authInterface.Reply op} {lookupKey : String}
    (h : authSemantics.act i op x w = some (reply, w'))
    (fresh : ∀ other row, op = .createApiKey other row → lookupKey ≠ other)
    (absent : w.apiKeys.lookup lookupKey = none)
    : w'.apiKeys.lookup lookupKey = none := by
  cases writes : op.writesKeys with
  | false => rw [apiKeys_of_act writes h, absent]
  | true =>
      obtain ⟨-, ⟨-, rfl⟩ | ⟨-, rfl⟩⟩ := auth_act_cases h
      · exact absent
      · cases op with
        | createApiKey other row =>
            simp only [effect, insertNew]
            split
            · exact absent
            · exact (AList.lookup_insert_ne (fresh other row rfl)).trans absent
        | revokeApiKeys other now => simp [effect, World.atTime, absent]
        | _ => cases writes

variable {w₀ : World} {start : Nat}

theorem Ended.act {op : AccountOp} {reply : accountInterface.Reply op} (h : Ended userId w₀ start w)
    (fresh : ∀ lookupKey row, op = .auth (.createApiKey lookupKey row) → lookupKey ∉ w₀.apiKeys)
    (answered : accountSemantics.act i op x w = some (reply, w'))
    : Ended userId w₀ start w' := by
  cases op with
  | auth op =>
      have answered := auth_of_act answered
      refine ⟨h.clock.trans (auth_clock_le answered).1, fun lookupKey owned => ?_,
        fun tokenHash owned => ?_⟩
      · refine keyAbsent_of_act answered ?_ (h.keys lookupKey owned)
        rintro _ row rfl rfl
        obtain ⟨old, there, -⟩ := owned
        exact fresh lookupKey row rfl (AList.lookup_isSome.mp (there ▸ rfl))
      · obtain ⟨row, there, unusable⟩ := h.tokens tokenHash owned
        obtain ⟨row', there', later⟩ := tokensKept_of_act answered tokenHash row there
        exact ⟨row', there', unusable_of_later later unusable⟩
  | tombstoneTransaction other tombstoneSuffix =>
      obtain ⟨later, tokens, keys⟩ := tombstone_act_cases answered
      refine ⟨h.clock.trans later, fun lookupKey owned => ?_, fun tokenHash owned => ?_⟩
      · have absent := h.keys lookupKey owned
        rcases keys with same | deleted
        · rw [same, absent]
        · rw [deleted, lookup_deleteRows, absent]
          rfl
      · rw [tokens]
        exact h.tokens tokenHash owned

theorem ended_of_transaction {tombstoneSuffix : String}
    (deleted : accountSemantics.act i (.tombstoneTransaction userId tombstoneSuffix) x w
      = some (.ok (), w'))
    (expired : NoTokenUsable userId w w'.clock)
    : Ended userId w w'.clock w' := by
  obtain ⟨-, kept, -⟩ := tombstone_act_cases deleted
  refine ⟨Nat.le_refl _, ?_, ?_⟩
  · rintro lookupKey ⟨row, there, owner⟩
    rw [tombstone_act_ok deleted, lookup_deleteRows, there]
    simp [Option.filter, owner]
  · rintro tokenHash ⟨row, there, owner⟩
    rw [kept]
    exact ⟨row, there, expired tokenHash row there owner⟩

end

-- What a call has seen

/-- A time that was read, an API key or a refresh token that was found. -/
inductive Seen
  | time (time : Nat)
  | key (lookupKey : String)
  | token (tokenHash : String) (now : Nat)

def seenRow {ρ : Type} (entry : Seen) : Except JsError (Option ρ) → List Seen
  | .ok (some _) => [entry]
  | _ => []

def seenTime : Except JsError Nat → List Seen
  | .ok time => [.time time]
  | .error _ => []

/-- What the reply to a call shows. -/
def seenIn : (op : AuthOp) → authInterface.Reply op → List Seen
  | .denyList .now, reply => seenTime reply
  | .findApiKey lookupKey _ _, reply => seenRow (.key lookupKey) reply
  | .findRefreshToken tokenHash now, reply => seenRow (.token tokenHash now) reply
  | _, _ => []

def authReader : Protocol authInterface (List Seen) where
  next past op reply := some (seenIn op reply ++ past)

def accountReader : Protocol accountInterface (List Seen) where
  next
    | past, .auth op, reply => some (seenIn op reply ++ past)
    | past, .tombstoneTransaction .., _ => some past

section

variable {α : Type} {past : List Seen}

theorem authReader_grows {prog : Prog authInterface α}
    : authReader.wp prog past (fun _ past' => past ⊆ past') (fun _ past' => past ⊆ past') := by
  induction prog generalizing past with
  | done value => exact List.Subset.refl _
  | fail error => exact List.Subset.refl _
  | call op next ih =>
      intro reply
      refine ⟨_, rfl, Protocol.wp_mono (ih reply) ?_ ?_⟩
      · exact fun _ _ known => List.Subset.trans (List.subset_append_right _ _) known
      · exact fun _ _ known => List.Subset.trans (List.subset_append_right _ _) known

theorem accountReader_any {prog : Prog accountInterface α}
    : accountReader.wp prog past (fun _ past' => past ⊆ past') (fun _ _ => True) := by
  induction prog generalizing past with
  | done value => exact List.Subset.refl _
  | fail error => trivial
  | call op next ih =>
      intro reply
      cases op with
      | auth op =>
          refine ⟨_, rfl, Protocol.wp_mono (ih reply) ?_ fun _ _ _ => trivial⟩
          exact fun _ _ known => List.Subset.trans (List.subset_append_right _ _) known
      | tombstoneTransaction _ _ => exact ⟨_, rfl, ih reply⟩

theorem accountReader_within {prog : Prog authInterface α} {Q : List Seen → Prop}
    {next : α → Prog accountInterface α'} (keeps : ∀ past past', past ⊆ past' → Q past → Q past')
    (h : authReader.wp prog past (fun _ past' => Q past') (fun _ _ => True))
    : accountReader.wp (prog.within authCalls >>= next) past (fun _ past' => Q past')
        (fun _ _ => True) := by
  rw [Protocol.wp_bind]
  refine Protocol.wp_mono (Protocol.wp_within (R := accountReader) Eq ?_ h rfl) ?_
    fun _ _ _ => trivial
  · rintro _ past' past op reply rfl moved
    refine ⟨past', ?_, rfl⟩
    rw [← moved]
    cases reply <;> rfl
  · rintro value _ ⟨past', rfl, known⟩
    exact Protocol.wp_mono accountReader_any (fun _ _ more => keeps _ _ more known)
      fun _ _ _ => trivial

theorem wp_findUsableToken {tokenHash : String}
    : authReader.wp (findUsableToken tokenHash) []
        (fun _ past => ∃ now, .token tokenHash now ∈ past ∧ .time now ∈ past)
        (fun _ _ => True) := by
  unfold findUsableToken
  simp only [Protocol.wp_bind]
  refine Protocol.wp_await.mpr ⟨fun time => ⟨_, rfl, ?_⟩, fun _ => ⟨_, rfl, trivial⟩⟩
  refine Protocol.wp_await.mpr ⟨fun found => ⟨_, rfl, ?_⟩, fun _ => ⟨_, rfl, trivial⟩⟩
  cases found with
  | none => trivial
  | some row => exact ⟨time, List.mem_cons_self, List.mem_cons_of_mem _ List.mem_cons_self⟩

theorem wp_refreshAccessToken_reader {config : AuthConfig} {token : String}
    : authReader.wp (refreshAccessToken config token) []
        (fun _ past => ∃ now, .token (config.sha256 token) now ∈ past ∧ .time now ∈ past)
        (fun _ _ => True) := by
  unfold refreshAccessToken
  rw [Protocol.wp_bind]
  refine Protocol.wp_mono wp_findUsableToken ?_ fun _ _ _ => trivial
  rintro _ past ⟨now, token, time⟩
  refine Protocol.wp_mono authReader_grows (fun _ past' more => ?_) fun _ _ _ => trivial
  exact ⟨now, more token, more time⟩

theorem wp_validateApiKey {decodeJwt : String → Option DecodedToken} {apiKey : Option String}
    : authReader.wp (validateApiKey decodeJwt apiKey) []
        (fun _ past => ∃ parsed, apiKey.bind parseApiKey = some parsed
          ∧ .key parsed.lookupKey ∈ past)
        (fun _ _ => True) := by
  unfold validateApiKey
  rw [Protocol.wp_bind, Protocol.wp_orThrow]
  refine ⟨fun text given => ?_, fun _ => trivial⟩
  obtain rfl := (Option.filter_eq_some_iff.mp given).1
  split
  · trivial
  · rw [Protocol.wp_bind, Protocol.wp_orThrow]
    refine ⟨fun parsed read => ?_, fun _ => trivial⟩
    rw [Protocol.wp_bind]
    refine Protocol.wp_await.mpr ⟨fun time => ⟨_, rfl, ?_⟩, fun _ => ⟨_, rfl, trivial⟩⟩
    rw [Protocol.wp_bind]
    refine Protocol.wp_await.mpr ⟨fun emergencyTime => ⟨_, rfl, ?_⟩, fun _ => ⟨_, rfl, trivial⟩⟩
    rw [Protocol.wp_bind]
    refine Protocol.wp_await.mpr ⟨fun found => ⟨_, rfl, ?_⟩, fun _ => ⟨_, rfl, trivial⟩⟩
    cases found with
    | none => trivial
    | some found =>
        refine Protocol.wp_mono authReader_grows (fun _ past more => ?_) fun _ _ _ => trivial
        exact ⟨parsed, read, more List.mem_cons_self⟩

end

-- Calls around the deletion

/-- A refresh, a request that is authenticated by an API key, the deletion of an account, or
anything else.
-/
inductive AccountCall (α : Type)
  | refresh (token : String) (respond : RefreshAccessTokenResult → Prog accountInterface α)
  | request (apiKey : Option String) (handler : AuthenticatedKey → Prog accountInterface α)
  | deletion (userId : UserId) (respond : Unit → Prog accountInterface α)
  | other (prog : Prog accountInterface α)

def AccountCall.prog {α : Type} (config : AuthConfig) (decodeJwt : String → Option DecodedToken)
    : AccountCall α → Prog accountInterface α
  | .refresh token respond => (refreshAccessToken config token).within authCalls >>= respond
  | .request apiKey handler => (validateApiKey decodeJwt apiKey).within authCalls >>= handler
  | .deletion userId respond => tombstoneDeleteUser userId >>= respond
  | .other prog => prog

/-- A call presents a credential that the user had in `w`. -/
def AccountCall.Presents {α : Type} (config : AuthConfig) (userId : UserId) (w : World)
    : AccountCall α → Prop
  | .refresh token _ => OwnsToken userId w (config.sha256 token)
  | .request apiKey _ =>
      ∃ parsed, apiKey.bind parseApiKey = some parsed ∧ OwnsKey userId w parsed.lookupKey
  | .deletion .. | .other _ => False

/-- What a call has seen when it returns. -/
def AccountCall.Saw {α : Type} (config : AuthConfig) (past : List Seen) : AccountCall α → Prop
  | .refresh token _ => ∃ now, .token (config.sha256 token) now ∈ past ∧ .time now ∈ past
  | .request apiKey _ =>
      ∃ parsed, apiKey.bind parseApiKey = some parsed ∧ .key parsed.lookupKey ∈ past
  | .deletion .. | .other _ => True

theorem wp_prog {α : Type} {config : AuthConfig} {decodeJwt : String → Option DecodedToken}
    {call : AccountCall α}
    : accountReader.wp (call.prog config decodeJwt) [] (fun _ past => call.Saw config past)
        (fun _ _ => True) := by
  cases call with
  | refresh token respond =>
      refine accountReader_within ?_ wp_refreshAccessToken_reader
      rintro _ _ more ⟨now, token, time⟩
      exact ⟨now, more token, more time⟩
  | request apiKey handler =>
      refine accountReader_within ?_ wp_validateApiKey
      rintro _ _ more ⟨parsed, read, key⟩
      exact ⟨parsed, read, more key⟩
  | deletion userId respond | other prog =>
      exact Protocol.wp_mono accountReader_any (fun _ _ _ => trivial) fun _ _ _ => trivial

abbrev AccountConfig (α : Type) := Config accountInterface α World

/-- The calls, before their first step. -/
def accountCalls {α : Type} (config : AuthConfig) (decodeJwt : String → Option DecodedToken)
    (calls : List (AccountCall α)) (w : World)
    : AccountConfig α :=
  .initial w (calls.map (AccountCall.prog config decodeJwt))

/-- No lookup key of `w` is drawn again. -/
def FreshKeys {α : Type} (w : World) (c : AccountConfig α) (i : Nat) (_ : Choice) : Prop :=
  match c.pending? i with
  | some (.auth (.createApiKey lookupKey _)) => lookupKey ∉ w.apiKeys
  | _ => True

instance {α : Type} (w : World) (c : AccountConfig α) (i : Nat) (x : Choice)
    : Decidable (FreshKeys w c i x) := by
  unfold FreshKeys
  split
  · exact inferInstance
  · exact .isTrue trivial

theorem FreshKeys.notMem {α : Type} {w : World} {c : AccountConfig α} {i : Nat} {x : Choice}
    {lookupKey : String} {row : Auth.ApiKey} (fresh : FreshKeys w c i x)
    (asks : c.pending? i = some (.auth (.createApiKey lookupKey row)))
    : lookupKey ∉ w.apiKeys := by
  unfold FreshKeys at fresh
  rw [asks] at fresh
  exact fresh

def deletes (userId : UserId) : Event accountInterface → Bool
  | ⟨.tombstoneTransaction other _, .ok _⟩ => other = userId
  | _ => false

/-- The step from `b` to `a` is a successful deletion of the user by call `d`. -/
structure DeletedAt {α : Type} (userId : UserId) (d : Nat) (b a : AccountConfig α) : Prop where
  stepped : ∃ x, b.step accountSemantics d x = some a
  deletes : (a.past d).head?.any (deletes userId) = true

/-- No call with a credential that the user had in `w` has begun and not ended. -/
def NoneUnderWay {α : Type} (config : AuthConfig) (userId : UserId) (w : World)
    (calls : List (AccountCall α)) (a : AccountConfig α)
    : Prop :=
  ∀ i call, calls[i]? = some call → call.Presents config userId w → a.live i = true → a.past i = []

/-- No API key and no refresh token that the user had in `w` is accepted, and no call with one
returns that had not returned in `a`.
-/
structure AccessEnded {α : Type} (config : AuthConfig) (decodeJwt : String → Option DecodedToken)
    (userId : UserId) (w : World) (calls : List (AccountCall α)) (a c : AccountConfig α)
    : Prop where
  keys : ∀ lookupKey, OwnsKey userId w lookupKey → ¬ AcceptsKey decodeJwt c.world lookupKey
  tokens : ∀ tokenHash, OwnsToken userId w tokenHash → ¬ AcceptsToken c.world tokenHash
  calls : ∀ i call, calls[i]? = some call → call.Presents config userId w →
    a.value? i = none → c.value? i = none

/-- What a call may have seen once the access has ended. -/
def Seen.Stale (userId : UserId) (w : World) (start : Nat) : Seen → Prop
  | .time read => start ≤ read
  | .key lookupKey => ¬ OwnsKey userId w lookupKey
  | .token tokenHash now => OwnsToken userId w tokenHash → now < start

section

variable {α : Type} {config : AuthConfig} {decodeJwt : String → Option DecodedToken}
  {userId : UserId} {w w' w₁ : World} {start d : Nat} {calls : List (AccountCall α)}
  {a b c : AccountConfig α}

theorem Ended.seenIn {i : Nat} {op : AuthOp} {x : Choice} {reply : authInterface.Reply op}
    (h : Ended userId w start w') (answered : authSemantics.act i op x w' = some (reply, w₁))
    : ∀ seen ∈ seenIn op reply, seen.Stale userId w start := by
  intro seen member
  cases op with
  | denyList op =>
      cases op with
      | now =>
          have time := now_of_act answered
          subst time
          obtain rfl := List.mem_singleton.mp member
          exact h.clock.trans (auth_clock_le answered).1
      | _ => cases member
  | findApiKey lookupKey now emergencyNow =>
      rcases reply with error | found
      · cases member
      · cases found with
        | none => cases member
        | some found =>
            obtain rfl := List.mem_singleton.mp member
            intro owned
            obtain ⟨-, performed⟩ := auth_act_ok answered
            have found := Except.ok.inj (congrArg Prod.fst performed)
            have absent : (w'.atTime x.time).apiKeys.lookup lookupKey = none :=
              h.keys lookupKey owned
            rw [absent] at found
            cases found
  | findRefreshToken tokenHash now =>
      rcases reply with error | found
      · cases member
      · cases found with
        | none => cases member
        | some row =>
            obtain rfl := List.mem_singleton.mp member
            intro owned
            obtain ⟨there, usable⟩ := usable_of_act answered
            obtain ⟨row', there', unusable⟩ := h.tokens tokenHash owned
            obtain rfl := Option.some.inj (there.symm.trans there')
            by_contra late
            rw [usable_of_le (Nat.le_of_not_lt late) usable] at unusable
            cases unusable
  | _ => cases member

/-- The calls read as they are to. -/
abbrev Reads (config : AuthConfig) (calls : List (AccountCall α)) (c : AccountConfig α) : Prop :=
  accountReader.Governs (fun _ => [])
    (fun i _ past => ∀ call, calls[i]? = some call → call.Saw config past) (fun _ _ _ => True) c

theorem reads_of_reaches {ok : AccountConfig α → Nat → Choice → Prop}
    (reached : Config.Reaches accountSemantics ok (accountCalls config decodeJwt calls w) c)
    : Reads config calls c := by
  have start : Reads config calls (accountCalls config decodeJwt calls w) := by
    refine Protocol.governs_initial fun i prog found => ?_
    obtain ⟨call, there, rfl⟩ := Option.map_eq_some_iff.mp (List.getElem?_map ▸ found)
    refine Protocol.wp_mono wp_prog (fun _ past saw call' there' => ?_) fun _ _ _ => trivial
    obtain rfl := Option.some.inj (there.symm.trans there')
    exact saw
  exact start.of_reaches reached

/-- What was seen since `a`, by the calls that had not begun there, is stale. -/
theorem stale_of_reaches (reads : Reads config calls a) (ended : Ended userId w start a.world)
    (reached : Config.Reaches accountSemantics (FreshKeys w) a c)
    : Reads config calls c
      ∧ Ended userId w start c.world
      ∧ ∀ i, a.past i = [] →
          ∀ seen ∈ accountReader.phase (fun _ => []) c i, seen.Stale userId w start := by
  refine Protocol.Governs.invariant (P := accountReader)
    (J := fun c => Ended userId w start c.world
      ∧ ∀ i, a.past i = [] →
          ∀ seen ∈ accountReader.phase (fun _ => []) c i, seen.Stale userId w start)
    reads ⟨ended, ?_⟩ ?_ reached
  · intro i fresh seen member
    have nothing : accountReader.phase (fun _ => []) a i = [] := by
      simp [Protocol.phase, fresh, Protocol.replay]
    rw [nothing] at member
    cases member
  · rintro c c' i x governed ⟨ended, stale⟩ fresh stepped
    obtain ⟨op, reply, -, asks, answered, moved, -, others, -⟩ := governed.step_cases stepped
    refine ⟨ended.act ?_ answered, fun j begun seen member => ?_⟩
    · rintro lookupKey row rfl
      exact fresh.notMem asks
    · by_cases mine : j = i
      · subst mine
        cases op with
        | auth op =>
            rw [← Option.some.inj moved] at member
            rcases List.mem_append.mp member with new | old
            · exact ended.seenIn (auth_of_act answered) seen new
            · exact stale j begun seen old
        | tombstoneTransaction _ _ =>
            rw [← Option.some.inj moved] at member
            exact stale j begun seen member
      · rw [(others j mine).1] at member
        exact stale j begun seen member

theorem accessEnded_of_ended (reads : Reads config calls a)
    (ended : Ended userId w start a.world) (quiet : NoneUnderWay config userId w calls a)
    (reached : Config.Reaches accountSemantics (FreshKeys w) a c)
    : AccessEnded config decodeJwt userId w calls a c := by
  obtain ⟨governed, ended, stale⟩ := stale_of_reaches reads ended reached
  refine ⟨?_, ?_, ?_⟩
  · intro lookupKey owned accepted
    obtain ⟨row, there, -⟩ := acceptsKey_iff.mp accepted
    rw [ended.keys lookupKey owned] at there
    cases there
  · intro tokenHash owned accepted
    obtain ⟨row, there, usable⟩ := acceptsToken_iff.mp accepted
    obtain ⟨row', there', unusable⟩ := ended.tokens tokenHash owned
    obtain rfl := Option.some.inj (there.symm.trans there')
    rw [usable_of_le ended.clock usable] at unusable
    cases unusable
  · intro i call there presents unreturned
    cases live : a.live i with
    | false => rw [Config.value?_of_reaches live reached, unreturned]
    | true =>
        cases returned : c.value? i with
        | none => rfl
        | some value =>
            exfalso
            have stale := stale i (quiet i call there presents live)
            have saw := governed.value returned call there
            cases call with
            | refresh token respond =>
                obtain ⟨now, found, read⟩ := saw
                have early : now < start := stale _ found presents
                have late : start ≤ now := stale _ read
                omega
            | request apiKey handler =>
                obtain ⟨parsed, read, found⟩ := saw
                obtain ⟨parsed', read', owned⟩ := presents
                obtain rfl := Option.some.inj (read.symm.trans read')
                exact stale _ found owned
            | deletion _ _ | other _ => exact presents

theorem DeletedAt.transaction (reads : Reads config calls b) (deleted : DeletedAt userId d b a)
    : ∃ x tombstoneSuffix,
        accountSemantics.act d (.tombstoneTransaction userId tombstoneSuffix) x b.world
          = some (.ok (), a.world) := by
  obtain ⟨⟨x, stepped⟩, deletes⟩ := deleted
  obtain ⟨op, reply, -, -, answered, -, past, -, -⟩ := reads.step_cases stepped
  rw [past, List.head?_cons, Option.any_some] at deletes
  cases op with
  | auth op => cases deletes
  | tombstoneTransaction other tombstoneSuffix =>
      rcases reply with error | _
      · cases deletes
      · obtain rfl : other = userId := of_decide_eq_true deletes
        exact ⟨x, tombstoneSuffix, answered⟩

end

/-- In every run in which a deletion succeeds while no call with a credential of the user is under
way: no earlier API key or refresh token of the user is accepted in any later state, and no call
with one returns, if and only if no refresh token of the user was usable at the deletion.
-/
theorem deletion_ends_access {α : Type} (config : AuthConfig)
    (decodeJwt : String → Option DecodedToken) (calls : List (AccountCall α)) (w : World)
    (userId : UserId) (d : Nat) (b a : AccountConfig α)
    (reached : Config.Reaches accountSemantics Config.anyStep
      (accountCalls config decodeJwt calls w) b)
    (deleted : DeletedAt userId d b a) (quiet : NoneUnderWay config userId b.world calls a)
    : (∀ c, Config.Reaches accountSemantics (FreshKeys b.world) a c →
        AccessEnded config decodeJwt userId b.world calls a c)
      ↔ NoTokenUsable userId b.world a.world.clock := by
  have reads := reads_of_reaches reached
  obtain ⟨x, tombstoneSuffix, answered⟩ := deleted.transaction reads
  constructor
  · intro ends tokenHash row there owner
    have refused := (ends a .refl).tokens tokenHash ⟨row, there, owner⟩
    obtain ⟨-, kept, -⟩ := tombstone_act_cases answered
    rw [Bool.eq_false_iff]
    refine fun usable => refused (acceptsToken_iff.mpr ⟨row, ?_, usable⟩)
    rw [kept]
    exact there
  · intro expired c later
    obtain ⟨x', stepped⟩ := deleted.stepped
    have reads' : Reads config calls a :=
      reads.of_reaches (.single ⟨d, x', trivial, stepped⟩ : Config.Reaches accountSemantics
        Config.anyStep b a)
    exact accessEnded_of_ended reads' (ended_of_transaction answered expired) quiet later

-- A user with a refresh token

/-- A user with an API key and a refresh token. -/
def oneAccount (expiresAt : Nat) : World :=
  { oneUser with
    apiKeys := (∅ : AList (fun _ : String => Auth.ApiKey)).insert "0123456789ab"
      { userId := some "user", keyHash := "hash" }
    refreshTokens := (∅ : AList (fun _ : String => RefreshToken)).insert
      (sampleAuthConfig.sha256 "token")
      { userId := "user", tokenFamilyId := "family", expiresAt } }

def sampleCalls : List (AccountCall (Option RefreshAccessTokenResult)) :=
  [.deletion "user" (fun _ => pure none), .refresh "token" (fun result => pure (some result))]

def sampleStart (expiresAt : Nat) : AccountConfig (Option RefreshAccessTokenResult) :=
  accountCalls sampleAuthConfig (fun _ => none) sampleCalls (oneAccount expiresAt)

def refreshSteps (xs : List Choice) : List (Nat × Choice) :=
  xs.map (fun x => (1, x))

def refreshed : RefreshAccessTokenResult where
  api_key := "acbu_fedcba987654_secret"
  refresh_token := "next"
  user_id := "user"
  expires_at := refreshExpiry 3000

/-- A schedule up to the transaction of the deletion, the transaction, and a schedule after it. -/
theorem reaches_around {β : Type} {expiresAt : Nat} {before later : List (Nat × Choice)}
    {f : (b a c : AccountConfig (Option RefreshAccessTokenResult)) → β} {value : β}
    (executed : ((sampleStart expiresAt).run accountSemantics Config.anyStep before).bind (fun b =>
      (b.step accountSemantics 0 { time := 2000 }).bind (fun a =>
        (a.run accountSemantics (FreshKeys b.world) later).map (f b a))) = some value)
    : ∃ b a c, Config.Reaches accountSemantics Config.anyStep (sampleStart expiresAt) b
        ∧ b.step accountSemantics 0 { time := 2000 } = some a
        ∧ Config.Reaches accountSemantics (FreshKeys b.world) a c ∧ f b a c = value := by
  obtain ⟨b, first, rest⟩ := Option.bind_eq_some_iff.mp executed
  obtain ⟨a, stepped, rest⟩ := Option.bind_eq_some_iff.mp rest
  obtain ⟨b', reached, rfl⟩ := Config.reaches_of_run (f := id) (by rw [first, Option.map_some])
  obtain ⟨c, reached', same⟩ := Config.reaches_of_run rest
  exact ⟨_, a, c, reached, stepped, reached', same⟩

theorem noneUnderWay_sample {w : World} {a : AccountConfig (Option RefreshAccessTokenResult)}
    (fresh : (a.past 1).isEmpty = true)
    : NoneUnderWay sampleAuthConfig "user" w sampleCalls a := by
  intro i call there presents _
  match i with
  | 0 =>
      obtain rfl := Option.some.inj there
      cases presents
  | 1 => exact List.isEmpty_iff.mp fresh
  | _ + 2 => cases there

theorem noTokenUsable_of_entries {w : World} {time : Nat}
    (unusable : w.refreshTokens.entries.all (fun e => !e.2.usable time) = true)
    : NoTokenUsable "user" w time := by
  intro tokenHash row there _
  have known := List.all_eq_true.mp unusable _ (AList.mem_lookup_iff.mp there)
  simpa using known

/-- A refresh after the deletion is refused where the token had expired. -/
theorem deletion_ends_access_expired
    : ∃ b a c, Config.Reaches accountSemantics Config.anyStep (sampleStart 1500) b
      ∧ DeletedAt "user" 0 b a
      ∧ Config.Reaches accountSemantics (FreshKeys b.world) a c
      ∧ c.error? 1 = some invalidOrExpiredRefreshToken
      ∧ AccessEnded sampleAuthConfig (fun _ => none) "user" b.world sampleCalls a c := by
  have executed : ((sampleStart 1500).run accountSemantics Config.anyStep
      [(0, { time := 2000, text := "d1c5a0f2-7b6e" })]).bind (fun b =>
        (b.step accountSemantics 0 { time := 2000 }).bind (fun a =>
          (a.run accountSemantics (FreshKeys b.world) (refreshSteps (drawn 3000 ["", ""]))).map
            (fun c => (((a.past 0).head?.any (deletes "user"), (a.past 1).isEmpty,
              b.world.refreshTokens.entries.all (fun e => !e.2.usable a.world.clock)),
              c.error? 1))))
      = some ((true, true, true), some invalidOrExpiredRefreshToken) := by
    decide +kernel
  obtain ⟨b, a, c, reached, stepped, later, observed⟩ := reaches_around executed
  obtain ⟨⟨deletes, fresh, unusable⟩, refused⟩ : (_ ∧ _ ∧ _) ∧ _ := by
    simpa only [Prod.mk.injEq] using observed
  have deleted : DeletedAt "user" 0 b a := ⟨⟨_, stepped⟩, deletes⟩
  exact ⟨b, a, c, reached, deleted, later, refused,
    (deletion_ends_access sampleAuthConfig (fun _ => none) sampleCalls (oneAccount 1500) "user" 0
      b a reached deleted (noneUnderWay_sample fresh)).mpr (noTokenUsable_of_entries unusable) c
      later⟩

/-- With a token that has not expired the deleted user gets a new API key, though no refresh was
under way.
-/
theorem deletion_leaves_refresh
    : ∃ b a c, Config.Reaches accountSemantics Config.anyStep (sampleStart 9000) b
      ∧ DeletedAt "user" 0 b a
      ∧ NoneUnderWay sampleAuthConfig "user" b.world sampleCalls a
      ∧ Config.Reaches accountSemantics (FreshKeys b.world) a c
      ∧ c.value? 1 = some (some refreshed)
      ∧ ¬ AccessEnded sampleAuthConfig (fun _ => none) "user" b.world sampleCalls a c := by
  have executed : ((sampleStart 9000).run accountSemantics Config.anyStep
      [(0, { time := 2000, text := "d1c5a0f2-7b6e" })]).bind (fun b =>
        (b.step accountSemantics 0 { time := 2000 }).bind (fun a =>
          (a.run accountSemantics (FreshKeys b.world)
            (refreshSteps (drawn 3000 (refreshTexts "fedcba987654" "next" "other")))).map
            (fun c => (((a.past 0).head?.any (deletes "user"), (a.past 1).isEmpty,
              (b.world.refreshTokens.lookup (sampleAuthConfig.sha256 "token")).map (·.userId)),
              (a.value? 1, c.value? 1)))))
      = some ((true, true, some "user"), (none, some (some refreshed))) := by
    decide +kernel
  obtain ⟨b, a, c, reached, stepped, later, observed⟩ := reaches_around executed
  obtain ⟨⟨deletes, fresh, owner⟩, unreturned, returned⟩ : (_ ∧ _ ∧ _) ∧ _ ∧ _ := by
    simpa only [Prod.mk.injEq] using observed
  refine ⟨b, a, c, reached, ⟨⟨_, stepped⟩, deletes⟩, noneUnderWay_sample fresh, later, returned,
    fun ended => ?_⟩
  have none := ended.calls 1 _ rfl (Option.map_eq_some_iff.mp owner) unreturned
  rw [none] at returned
  cases returned

/-- A refresh that has revoked its token when the user is deleted returns a new API key, though no
token of the user is usable at the deletion.
-/
theorem deletion_overtaken
    : ∃ b a c, Config.Reaches accountSemantics Config.anyStep (sampleStart 9000) b
      ∧ DeletedAt "user" 0 b a
      ∧ NoTokenUsable "user" b.world a.world.clock
      ∧ Config.Reaches accountSemantics (FreshKeys b.world) a c
      ∧ a.value? 1 = none ∧ c.value? 1 = some (some refreshed) := by
  have executed : ((sampleStart 9000).run accountSemantics Config.anyStep
      ((0, { time := 1200, text := "d1c5a0f2-7b6e" })
        :: refreshSteps (drawn 1500 ["", "", ""]))).bind (fun b =>
        (b.step accountSemantics 0 { time := 2000 }).bind (fun a =>
          (a.run accountSemantics (FreshKeys b.world)
            (refreshSteps (drawn 3000
              ((refreshTexts "fedcba987654" "next" "other").drop 3)))).map
            (fun c => (((a.past 0).head?.any (deletes "user"),
              b.world.refreshTokens.entries.all (fun e => !e.2.usable a.world.clock)),
              (a.value? 1, c.value? 1)))))
      = some ((true, true), (none, some (some refreshed))) := by
    decide +kernel
  obtain ⟨b, a, c, reached, stepped, later, observed⟩ := reaches_around executed
  obtain ⟨⟨deletes, unusable⟩, unreturned, returned⟩ : (_ ∧ _) ∧ _ ∧ _ := by
    simpa only [Prod.mk.injEq] using observed
  exact ⟨b, a, c, reached, ⟨⟨_, stepped⟩, deletes⟩, noTokenUsable_of_entries unusable, later,
    unreturned, returned⟩

end AcbuBackend.Users

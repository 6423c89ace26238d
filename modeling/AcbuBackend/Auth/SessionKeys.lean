import AcbuBackend.Auth.Frames
import AcbuBackend.Auth.Calls

/-! The API keys of a session over its refreshes.
Neither a sign-in nor a refresh revokes a key, so every key that one of them issues stays
unrevoked and the keys of a session accumulate.
-/

namespace AcbuBackend.Auth

open Effects AcbuBackend.Runtime

-- Keys that only become more

/-- The rows of `api_keys` stay as they are, and new rows are unrevoked. -/
structure KeysGrow (w w' : World) : Prop where
  kept : ∀ key row, w.apiKeys.lookup key = some row → w'.apiKeys.lookup key = some row
  added : ∀ key row, w.apiKeys.lookup key = none → w'.apiKeys.lookup key = some row →
    row.revokedAt = none

theorem KeysGrow.of_eq {w w' : World} (same : w'.apiKeys = w.apiKeys) : KeysGrow w w' where
  kept _ _ there := same ▸ there
  added key row absent there := by
    rw [same, absent] at there
    cases there

theorem KeysGrow.trans {w₁ w₂ w₃ : World} (first : KeysGrow w₁ w₂) (second : KeysGrow w₂ w₃)
    : KeysGrow w₁ w₃ where
  kept key row there := second.kept key row (first.kept key row there)
  added key row absent there := by
    cases between : w₂.apiKeys.lookup key with
    | none => exact second.added key row between there
    | some row' =>
        obtain rfl := Option.some.inj ((second.kept key row' between).symm.trans there)
        exact first.added key row' absent between

/-- The calls that leave the keys there are as they are. -/
def AuthOp.growsKeys : AuthOp → Bool
  | .createApiKey _ row => row.revokedAt.isNone
  | .revokeApiKeys .. => false
  | _ => true

theorem keysGrow_of_act {i : Nat} {op : AuthOp} {x : Choice} {w w' : World}
    {reply : authInterface.Reply op} (grows : op.growsKeys = true)
    (h : authSemantics.act i op x w = some (reply, w'))
    : KeysGrow w w' := by
  cases reads : op.writesKeys with
  | false => exact .of_eq (apiKeys_of_act reads h)
  | true =>
      obtain ⟨-, ⟨-, rfl⟩ | ⟨-, rfl⟩⟩ := auth_act_cases h
      · exact .of_eq rfl
      · cases op with
        | createApiKey lookupKey row =>
            refine ⟨fun key row' there => lookup_insertNew there, fun key row' absent there => ?_⟩
            simp only [effect, insertNew] at there
            split at there
            · rw [show w.apiKeys.lookup key = some row' from there] at absent
              cases absent
            · by_cases same : key = lookupKey
              · subst same
                rw [AList.lookup_insert] at there
                obtain rfl := Option.some.inj there
                exact Option.isNone_iff_eq_none.mp grows
              · rw [AList.lookup_insert_ne same] at there
                rw [show w.apiKeys.lookup key = some row' from there] at absent
                cases absent
        | revokeApiKeys _ _ => cases grows
        | _ => cases reads

-- Programs that issue a key

def KeyIssued (w w' : World) : Prop :=
  ∃ key, w.apiKeys.lookup key = none ∧ (w'.apiKeys.lookup key).isSome = true

theorem KeyIssued.between {w₁ w₂ w₃ w₄ : World} (before : KeysGrow w₁ w₂) (h : KeyIssued w₂ w₃)
    (after : KeysGrow w₃ w₄)
    : KeyIssued w₁ w₄ := by
  obtain ⟨key, absent, there⟩ := h
  obtain ⟨row, there⟩ := Option.isSome_iff_exists.mp there
  refine ⟨key, ?_, by rw [after.kept key row there]; rfl⟩
  cases known : w₁.apiKeys.lookup key with
  | none => rfl
  | some old =>
      rw [before.kept key old known] at absent
      cases absent

/-- A program of calls that leave the keys there are. -/
abbrev GrowsKeys {α : Type} (prog : Prog authInterface α) : Prop :=
  Issues (fun op => op.growsKeys = true) prog

/-- A program that issues a key wherever it ends with a value in `P`. -/
def IssuesKey {α : Type} (P : α → Prop) (prog : Prog authInterface α) : Prop :=
  ∀ i w, authSemantics.wlp i prog w (fun value w' => P value → KeyIssued w w') (fun _ _ => True)

section

variable {α β : Type} {P : β → Prop} {prog : Prog authInterface α} {next : α → Prog authInterface β}

theorem wlp_growsKeys {i : Nat} {w : World} (h : GrowsKeys prog)
    : authSemantics.wlp i prog w (fun _ w' => KeysGrow w w') (fun _ w' => KeysGrow w w') := by
  apply Semantics.wlp_mono (Semantics.wlp_of_only (R := KeysGrow) (fun _ => .of_eq rfl)
    KeysGrow.trans (fun _ _ _ _ _ => keysGrow_of_act) h)
  · exact fun _ _ known => known.2
  · exact fun _ _ known => known.2

theorem IssuesKey.after (h : GrowsKeys prog) (rest : ∀ value, IssuesKey P (next value))
    : IssuesKey P (prog >>= next) := by
  intro i w
  rw [Semantics.wlp_bind]
  apply Semantics.wlp_mono (wlp_growsKeys h)
  · intro value w₁ before
    apply Semantics.wlp_mono (rest value i w₁)
    · exact fun _ _ issued wanted => (issued wanted).between before (.of_eq rfl)
    · exact fun _ _ _ => trivial
  · exact fun _ _ _ => trivial

theorem IssuesKey.before (h : IssuesKey (fun _ => True) prog)
    (rest : ∀ value, GrowsKeys (next value))
    : IssuesKey P (prog >>= next) := by
  intro i w
  rw [Semantics.wlp_bind]
  apply Semantics.wlp_mono (h i w)
  · intro value w₁ issued
    apply Semantics.wlp_mono (wlp_growsKeys (rest value))
    · exact fun _ _ later _ => (issued trivial).between (.of_eq rfl) later
    · exact fun _ _ _ => trivial
  · exact fun _ _ _ => trivial

theorem IssuesKey.done {value : β} (unwanted : ¬ P value) : IssuesKey P (.done value) :=
  fun _ _ wanted => absurd wanted unwanted

theorem IssuesKey.fail {error : JsError} : IssuesKey P (.fail error) :=
  fun _ _ => trivial

end

theorem issuesKey_generateApiKey {userId : UserId} {permissions : List String}
    : IssuesKey (fun _ => True) (generateApiKey userId permissions) := by
  unfold generateApiKey
  refine .after (issues_query rfl) fun lookupKey => ?_
  refine .after (issues_query rfl) fun secret => ?_
  refine .after (issues_query rfl) fun keyHash => ?_
  refine .before (fun i w => ?_) fun _ => .done
  refine Semantics.wlp_await.mpr ⟨fun x _ w' answered _ => ?_, fun _ _ _ _ => trivial⟩
  obtain ⟨-, answered⟩ := auth_act_ok answered
  simp only [effect, insertNew] at answered
  split at answered
  · cases congrArg Prod.fst answered
  · rename_i absent
    obtain rfl := congrArg Prod.snd answered
    refine ⟨lookupKey, AList.lookup_eq_none.mpr absent, ?_⟩
    rw [AList.lookup_insert]
    rfl

-- Sign-in and refresh

namespace AuthOp

variable {op : AuthOp}

theorem growsKeys_of_guards (h : op.guards = true) : op.growsKeys = true := by
  cases op with
  | createApiKey _ _ | revokeApiKeys _ _ => cases h
  | _ => rfl

theorem growsKeys_of_asksCode (h : op.asksCode = true) : op.growsKeys = true := by
  cases op with
  | createApiKey _ _ | revokeApiKeys _ _ => cases h
  | _ => rfl

theorem growsKeys_of_opensSession (h : op.opensSession = true) : op.growsKeys = true := by
  cases op with
  | createApiKey _ row =>
      simpa [opensSession, makesKey, makesToken, growsKeys] using h
  | revokeApiKeys _ _ => cases h
  | _ => rfl

theorem growsKeys_of_makesToken (h : op.makesToken = true) : op.growsKeys = true :=
  growsKeys_of_opensSession (opensSession_of_makesToken h)

end AuthOp

section

variable {config : AuthConfig}

theorem issuesKey_openSession {userId : UserId} {action : String} {wanted : Bool}
    {P : Session → Prop}
    : IssuesKey P (openSession config userId action wanted) := by
  unfold openSession walletAddress
  refine .before issuesKey_generateApiKey fun key => ?_
  refine Issues.bind (Issues.bind (issues_query rfl) fun user => .done) fun address => ?_
  refine Issues.bind (issues_query rfl) fun _ => ?_
  exact (issues_refreshTokenFor fun _ => AuthOp.growsKeys_of_opensSession).bind fun _ => .done

theorem issuesKey_requireSecondFactor {userId : UserId} {method : String}
    : IssuesKey (fun result => ∃ session, result = .session session)
        (requireSecondFactor userId method) := by
  have signs : IssuesKey (fun result => ∃ session, result = SigninResult.session session) (do
      let challenge_token ← query (.signChallengeToken userId)
      query (.logAudit "signin_2fa_required" userId)
      return SigninResult.requires_2fa challenge_token) := by
    refine .after (issues_query rfl) fun token => .after (issues_query rfl) fun _ => .done ?_
    rintro ⟨_, ⟨⟩⟩
  unfold requireSecondFactor
  dsimp only
  split
  · exact .after (issues_sendOtp fun _ => AuthOp.growsKeys_of_asksCode) fun _ => signs
  · exact signs

theorem issuesKey_signin {params : SigninParams}
    : IssuesKey (fun result => ∃ session, result = .session session) (signin config params) := by
  unfold signin
  refine .after (issues_getStatus fun _ => AuthOp.growsKeys_of_guards) fun status => ?_
  refine .after .ensure fun _ => ?_
  refine .after (issues_checkCaptcha fun _ => AuthOp.growsKeys_of_guards) fun _ => ?_
  refine .after (issues_resolveUserByIdentifier fun _ _ => rfl) fun found => ?_
  refine .after (issues_rejectLocked rfl) fun _ => .after .orThrow fun hash => ?_
  refine .after (issues_query rfl) fun isMatch => ?_
  unfold afterPasscode
  split
  · exact .after (issues_handleFailure rfl fun _ _ => rfl) fun _ => .fail
  · refine .after (issues_query rfl) fun _ => ?_
    split
    · exact issuesKey_requireSecondFactor
    · exact .before issuesKey_openSession fun session => .done

theorem issuesKey_refreshAccessToken {token : String}
    : IssuesKey (fun _ => True) (refreshAccessToken config token) := by
  unfold refreshAccessToken
  refine .after (issues_findUsableToken rfl fun _ => rfl) fun found => .after (issues_query rfl)
    fun _ => ?_
  refine .before issuesKey_generateApiKey fun key => ?_
  refine Issues.bind (issues_createRefreshToken fun _ => AuthOp.growsKeys_of_makesToken)
    fun made => ?_
  exact Issues.bind (issues_query rfl) fun _ => .done

theorem growsKeys_refreshAccessToken {token : String}
    : GrowsKeys (refreshAccessToken config token) := by
  unfold refreshAccessToken
  refine Issues.bind (issues_findUsableToken rfl fun _ => rfl) fun found => ?_
  refine Issues.bind (issues_query rfl) fun _ => ?_
  refine Issues.bind (issues_generateApiKey fun _ makes => ?_) fun key => ?_
  · exact AuthOp.growsKeys_of_opensSession (AuthOp.opensSession_of_makesKey makes)
  · refine Issues.bind (issues_createRefreshToken fun _ => AuthOp.growsKeys_of_makesToken)
      fun made => ?_
    exact Issues.bind (issues_query rfl) fun _ => .done

theorem growsKeys_signin {params : SigninParams} : GrowsKeys (signin config params) := by
  unfold signin
  refine Issues.bind (issues_getStatus fun _ => AuthOp.growsKeys_of_guards) fun status => ?_
  refine Issues.ensure.bind fun _ => ?_
  refine Issues.bind (issues_checkCaptcha fun _ => AuthOp.growsKeys_of_guards) fun _ => ?_
  refine Issues.bind (issues_resolveUserByIdentifier fun _ _ => rfl) fun found => ?_
  refine Issues.bind (issues_rejectLocked rfl) fun _ => Issues.orThrow.bind fun hash => ?_
  refine Issues.bind (issues_query rfl) fun isMatch => ?_
  unfold afterPasscode
  split
  · exact Issues.bind (issues_handleFailure rfl fun _ _ => rfl) fun _ => .fail
  · refine Issues.bind (issues_query rfl) fun _ => ?_
    split
    · exact issues_requireSecondFactor fun _ => AuthOp.growsKeys_of_asksCode
    · exact (issues_openSession fun _ => AuthOp.growsKeys_of_opensSession).bind fun _ => .done

end

-- Sessions

/-- The keys that were issued between two worlds. -/
structure IssuedKeys (w w' : World) (keys : List String) : Prop where
  nodup : keys.Nodup
  complete : ∀ key, key ∈ keys
    ↔ w.apiKeys.lookup key = none ∧ (w'.apiKeys.lookup key).isSome = true

/-- The token to present after a refresh: the returned one, or the old one where the refresh
failed.
-/
def nextToken (token : String) : Except JsError RefreshAccessTokenResult → String
  | .ok result => result.refresh_token
  | .error _ => token

/-- The results of the refreshes of a session, newest first, the keys issued by its sign-in and
its refreshes, the token it holds, and a world it can leave. Between its calls time passes and
others leave its keys alone.
-/
inductive SessionChain (config : AuthConfig) (params : SigninParams)
    : List (Except JsError RefreshAccessTokenResult) → List String → String → World → Prop
  | signedIn {w w' : World} {session : Session} {token : IssueRefreshTokenResult}
      {keys : List String}
      (evaluates : (signin config params).Evaluates authSemantics 0 w (.ok (.session session)) w')
      (held : session.refresh_token = some token) (issued : IssuedKeys w w' keys)
      : SessionChain config params [] keys token.refresh_token w'
  | refreshed {results : List (Except JsError RefreshAccessTokenResult)} {keys added : List String}
      {token : String} {w w' : World} {result : Except JsError RefreshAccessTokenResult}
      (chain : SessionChain config params results keys token w)
      (evaluates : (refreshAccessToken config token).Evaluates authSemantics 0 w result w')
      (issued : IssuedKeys w w' added)
      : SessionChain config params (result :: results) (added ++ keys) (nextToken token result) w'
  | meanwhile {results : List (Except JsError RefreshAccessTokenResult)} {keys : List String}
      {token : String} {w w' : World} (chain : SessionChain config params results keys token w)
      (later : w.clock ≤ w'.clock)
      (alone : ∀ key ∈ keys, w'.apiKeys.lookup key = w.apiKeys.lookup key)
      : SessionChain config params results keys token w'

/-- The key is there and not revoked. -/
def Unrevoked (w : World) (key : String) : Prop :=
  ∃ row, w.apiKeys.lookup key = some row ∧ row.revokedAt = none

/-- At most one of the keys is unrevoked. -/
def AtMostOneUnrevoked (w : World) (keys : List String) : Prop :=
  ∀ key ∈ keys, ∀ other ∈ keys, Unrevoked w key → Unrevoked w other → key = other

/-- The refreshes that returned credentials. -/
def redeemedCount (results : List (Except JsError RefreshAccessTokenResult)) : Nat :=
  results.countP (fun result => result.isOk)

/-- The keys of a session are distinct and unrevoked; the sign-in and every refresh that
returned credentials issued one.
-/
structure KeysHeld (results : List (Except JsError RefreshAccessTokenResult)) (keys : List String)
    (w : World)
    : Prop where
  nodup : keys.Nodup
  unrevoked : ∀ key ∈ keys, Unrevoked w key
  many : redeemedCount results + 1 ≤ keys.length

theorem IssuedKeys.unrevoked {w w' : World} {keys : List String} (h : IssuedKeys w w' keys)
    (grows : KeysGrow w w')
    : ∀ key ∈ keys, Unrevoked w' key := by
  intro key member
  obtain ⟨absent, there⟩ := (h.complete key).mp member
  obtain ⟨row, there⟩ := Option.isSome_iff_exists.mp there
  exact ⟨row, there, grows.added key row absent there⟩

theorem IssuedKeys.length_pos {w w' : World} {keys : List String} (h : IssuedKeys w w' keys)
    (some : KeyIssued w w')
    : 1 ≤ keys.length := by
  obtain ⟨key, issued⟩ := some
  exact List.length_pos_of_mem ((h.complete key).mpr issued)

theorem KeysHeld.of_chain {config : AuthConfig} {params : SigninParams}
    {results : List (Except JsError RefreshAccessTokenResult)} {keys : List String} {token : String}
    {w : World} (chain : SessionChain config params results keys token w)
    : KeysHeld results keys w := by
  induction chain with
  | @signedIn w w' session token keys evaluates held issued =>
      have grows := Semantics.wlp_value (wlp_growsKeys growsKeys_signin) evaluates
      have first := Semantics.wlp_value (issuesKey_signin 0 w) evaluates
      refine ⟨issued.nodup, issued.unrevoked grows, ?_⟩
      exact issued.length_pos (first ⟨session, rfl⟩)
  | @refreshed results keys added token w w' result chain evaluates issued ih =>
      have grows := Semantics.wlp_world (wlp_growsKeys growsKeys_refreshAccessToken) evaluates
      refine ⟨List.nodup_append'.mpr ⟨issued.nodup, ih.nodup, ?_⟩, ?_, ?_⟩
      · -- an issued key was not there before, and the keys of the session were
        intro key new old
        obtain ⟨absent, -⟩ := (issued.complete key).mp new
        obtain ⟨row, there, -⟩ := ih.unrevoked key old
        rw [absent] at there
        cases there
      · intro key member
        rcases List.mem_append.mp member with new | old
        · exact issued.unrevoked grows key new
        · obtain ⟨row, there, unrevoked⟩ := ih.unrevoked key old
          exact ⟨row, grows.kept key row there, unrevoked⟩
      · have before := ih.many
        rw [List.length_append]
        cases result with
        | ok value =>
            have first := Semantics.wlp_value (issuesKey_refreshAccessToken 0 w) evaluates
            have one := issued.length_pos (first trivial)
            have count : redeemedCount (.ok value :: results) = redeemedCount results + 1 := by
              simp [redeemedCount, Except.isOk, Except.toBool]
            omega
        | error error =>
            have count : redeemedCount (.error error :: results) = redeemedCount results := by
              simp [redeemedCount, Except.isOk, Except.toBool]
            omega
  | @meanwhile results keys token w w' chain later alone ih =>
      refine ⟨ih.nodup, fun key member => ?_, ih.many⟩
      obtain ⟨row, there, unrevoked⟩ := ih.unrevoked key member
      exact ⟨row, (alone key member).trans there, unrevoked⟩

/-- At most one key of a session is unrevoked where, and only where, at most one was issued; and
one more is issued than there were refreshes that returned credentials, at least.
-/
theorem keys_accumulate (config : AuthConfig) (params : SigninParams)
    (results : List (Except JsError RefreshAccessTokenResult)) (keys : List String) (token : String)
    (w : World) (chain : SessionChain config params results keys token w)
    : (AtMostOneUnrevoked w keys ↔ keys.length ≤ 1)
      ∧ redeemedCount results + 1 ≤ keys.length := by
  have held := KeysHeld.of_chain chain
  refine ⟨⟨fun single => ?_, fun few key member other member' _ _ => ?_⟩, held.many⟩
  · by_contra several
    rw [Nat.not_le] at several
    have distinct : keys[0] ≠ keys[1] :=
      (held.nodup.getElem_inj_iff).not.mpr (by decide)
    exact distinct (single _ (List.getElem_mem _) _ (List.getElem_mem _)
      (held.unrevoked _ (List.getElem_mem _)) (held.unrevoked _ (List.getElem_mem _)))
  · obtain ⟨n, inRange, rfl⟩ := List.getElem_of_mem member
    obtain ⟨n', inRange', rfl⟩ := List.getElem_of_mem member'
    have same : n = n' := by omega
    subst same
    rfl

-- A session that is refreshed

def aliceSignin : SigninParams :=
  { identifier := "alice", passcode := "1234", ip := "10.0.0.1", issueRefreshToken := true }

/-- A sign-in with the right passcode, and a refresh with the token it returned. -/
def signedInWorld : World :=
  (signin sampleAuthConfig aliceSignin).after authSemantics 0
    ((drawn 1000 ["", "", "", "", "key", "secret", "hash", "", "", "", "token", "family", "", "",
      ""]).map
      (fun x => { x with agrees := true })) oneUser

def refreshedWorld : World :=
  (refreshAccessToken sampleAuthConfig "token").after authSemantics 0
    (drawn 2000 (refreshTexts "key'" "next" "other")) signedInWorld

theorem IssuedKeys.single {w w' : World} {key : String} (absent : w.apiKeys.lookup key = none)
    (there : (w'.apiKeys.lookup key).isSome = true)
    (rest : ∀ other ∈ w'.apiKeys.keys, other = key ∨ other ∈ w.apiKeys.keys)
    : IssuedKeys w w' [key] := by
  refine ⟨List.nodup_singleton key, fun other => ⟨fun member => ?_, fun new => ?_⟩⟩
  · obtain rfl := List.mem_singleton.mp member
    exact ⟨absent, there⟩
  · obtain ⟨absent', there'⟩ := new
    rcases rest other (AList.mem_keys.mpr (AList.lookup_isSome.mp there')) with rfl | old
    · exact List.mem_singleton_self _
    · exact absurd (AList.mem_keys.mp old) (AList.lookup_eq_none.mp absent')

theorem signedInWorld_chain
    : SessionChain sampleAuthConfig aliceSignin [] ["key"] "token" signedInWorld := by
  have signedIn : (signin sampleAuthConfig aliceSignin).Evaluates authSemantics 0 oneUser
      (.ok (.session {
        api_key := "acbu_key_secret"
        user_id := "user"
        wallet_enrollment_required := true
        stellar_address := none
        refresh_token := some { refresh_token := "token", expires_at := refreshExpiry 1000 } }))
      signedInWorld :=
    Prog.evaluates_after (by decide +kernel)
  have issued : IssuedKeys oneUser signedInWorld ["key"] := by
    apply IssuedKeys.single <;> decide +kernel
  exact .signedIn signedIn rfl issued

/-- A refresh with the token once it has expired. -/
def expiredWorld : World :=
  (refreshAccessToken sampleAuthConfig "token").after authSemantics 0
    (drawn (refreshExpiry 1000) ["", ""]) signedInWorld

theorem expiredWorld_chain
    : SessionChain sampleAuthConfig aliceSignin [.error invalidOrExpiredRefreshToken] ["key"]
        "token" expiredWorld := by
  have refused : (refreshAccessToken sampleAuthConfig "token").Evaluates authSemantics 0
      signedInWorld (.error invalidOrExpiredRefreshToken) expiredWorld :=
    Prog.evaluates_after (by decide +kernel)
  have same : expiredWorld.apiKeys = signedInWorld.apiKeys := AList.ext (by decide +kernel)
  have issued : IssuedKeys signedInWorld expiredWorld [] := by
    refine ⟨List.nodup_nil, fun key => iff_of_false List.not_mem_nil ?_⟩
    rintro ⟨absent, there⟩
    rw [same, absent] at there
    cases there
  exact .refreshed signedInWorld_chain refused issued

/-- A signed-in user whose refresh is refused has one unrevoked key. -/
theorem keys_accumulate_signin : AtMostOneUnrevoked expiredWorld ["key"] :=
  (keys_accumulate sampleAuthConfig aliceSignin [.error invalidOrExpiredRefreshToken] ["key"]
    "token" expiredWorld expiredWorld_chain).1.mpr (by decide)

/-- After one refresh the key of the sign-in and the key of the refresh are both unrevoked. -/
theorem keys_accumulate_refresh
    : ∃ result, SessionChain sampleAuthConfig aliceSignin [.ok result]
        ["key'", "key"] "next" refreshedWorld
        ∧ Unrevoked refreshedWorld "key"
        ∧ Unrevoked refreshedWorld "key'" := by
  have refreshed : (refreshAccessToken sampleAuthConfig "token").Evaluates authSemantics 0
    signedInWorld
      (.ok {
        api_key := "acbu_key'_secret"
        refresh_token := "next"
        user_id := "user"
        expires_at := refreshExpiry 2000 }) refreshedWorld :=
    Prog.evaluates_after (by decide +kernel)
  have issued : IssuedKeys signedInWorld refreshedWorld ["key'"] := by
    apply IssuedKeys.single <;> decide +kernel
  have chain := SessionChain.refreshed signedInWorld_chain refreshed issued
  have unrevoked : ∀ key ∈ ["key'", "key"],
      ((refreshedWorld.apiKeys.lookup key).map ApiKey.revokedAt) = some none := by
    decide +kernel
  refine ⟨_, chain, ?_, ?_⟩
  · exact Option.map_eq_some_iff.mp (unrevoked "key" (by decide))
  · exact Option.map_eq_some_iff.mp (unrevoked "key'" (by decide))

end AcbuBackend.Auth

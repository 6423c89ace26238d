import AcbuBackend.Auth.Frames
import AcbuBackend.Auth.Calls

/-! What is left of a chain of rotations when one of its old tokens is presented again.
Every rotation puts the new token in a family of its own, so the families of a chain are not
linked: an old token is refused, and the newest one stays usable until it expires.
-/

namespace AcbuBackend.Auth

open Effects AcbuBackend.Runtime

-- Tokens that are made and tokens that are revoked

/-- A token is stored that was not there, unrevoked. -/
structure TokenStored (tokenHash : String) (w w' : World) : Prop where
  fresh : w.refreshTokens.lookup tokenHash = none
  stored : ∃ row, w'.refreshTokens.lookup tokenHash = some row ∧ row.revokedAt = none

section

variable {config : AuthConfig} {i : Nat}

theorem wlp_createRefreshToken {userId : UserId} {w : World}
    : authSemantics.wlp i (createRefreshToken config userId) w
        (fun result w' => TokenStored (config.sha256 result.refresh_token) w w')
        (fun _ _ => True) := by
  unfold createRefreshToken
  simp only [Semantics.wlp_bind]
  refine wlp_query_quiet rfl (fun token w₁ first => ?_) (fun _ _ _ => trivial)
  refine wlp_query_quiet rfl (fun family w₂ second => ?_) (fun _ _ _ => trivial)
  refine wlp_query_quiet rfl (fun time w₃ third => ?_) (fun _ _ _ => trivial)
  refine Semantics.wlp_await.mpr ⟨fun x _ w₄ answered => ?_, fun _ _ _ _ => trivial⟩
  have before := ((first.trans second).trans third).refreshTokens
  obtain ⟨fresh, stored⟩ := created_of_act answered
  exact ⟨before ▸ fresh, _, stored, rfl⟩

theorem wlp_issueRefreshToken {userId : UserId} {w : World}
    : authSemantics.wlp i (issueRefreshToken config userId) w
        (fun result w' => TokenStored (config.sha256 result.refresh_token) w w')
        (fun _ _ => True) := by
  unfold issueRefreshToken
  rw [Semantics.wlp_bind]
  apply Semantics.wlp_mono wlp_createRefreshToken
  · intro token w₁ stored
    rw [Semantics.wlp_bind]
    refine wlp_query_quiet rfl (fun _ w₂ quiet => ?_) (fun _ _ _ => trivial)
    exact ⟨stored.fresh, quiet.refreshTokens ▸ stored.stored⟩
  · exact fun _ _ _ => trivial

theorem wlp_generateApiKey_tokens {userId : UserId} {permissions : List String} {w : World}
    : authSemantics.wlp i (generateApiKey userId permissions) w
        (fun _ w' => w'.refreshTokens = w.refreshTokens) (fun _ _ => True) := by
  apply Semantics.wlp_mono (Semantics.wlp_of_only (p := fun op : AuthOp => op.writesTokens = false)
    (R := fun w w' : World => w'.refreshTokens = w.refreshTokens) (fun _ => rfl)
    (fun first second => second.trans first) (fun _ _ _ _ _ => refreshTokens_of_act)
    (issues_generateApiKey ?_))
  · exact fun _ _ known => known.2
  · exact fun _ _ _ => trivial
  · intro op makes
    cases op with
    | randomText | bcryptHash _ | createApiKey _ _ => rfl
    | _ => cases makes

/-- What a rotation leaves: the presented token is revoked, and the returned one is stored. -/
structure Rotated (config : AuthConfig) (token : String) (result : RefreshAccessTokenResult)
    (w w' : World)
    : Prop where
  retired : ∃ row, w'.refreshTokens.lookup (config.sha256 token) = some row
    ∧ row.revokedAt.isSome = true
  stored : TokenStored (config.sha256 result.refresh_token) w w'

theorem wlp_refreshAccessToken {token : String} {w : World}
    : authSemantics.wlp i (refreshAccessToken config token) w
        (fun result w' => Rotated config token result w w') (fun _ _ => True) := by
  unfold refreshAccessToken findUsableToken
  simp only [Semantics.wlp_bind]
  refine wlp_query_quiet rfl (fun time w₁ first => ?_) (fun _ _ _ => trivial)
  refine Semantics.wlp_await.mpr ⟨fun x found w₂ answered => ?_, fun _ _ _ _ => trivial⟩
  have second : Quiet w₁ w₂ := Quiet.of_act rfl answered
  cases found with
  | none => trivial
  | some existing =>
      obtain ⟨there, -⟩ := usable_of_act answered
      rw [← second.refreshTokens] at there
      refine Semantics.wlp_await.mpr ⟨fun _ _ w₃ revokes => ?_, fun _ _ _ _ => trivial⟩
      obtain ⟨row, retired, revoked⟩ := revoked_of_act revokes there rfl
      apply Semantics.wlp_mono wlp_generateApiKey_tokens
      · intro key w₄ same
        apply Semantics.wlp_mono (Semantics.wlp_and wlp_createRefreshToken wlp_tokensKept)
        · rintro result w₅ ⟨stored, kept⟩
          refine wlp_query_quiet rfl (fun _ w₆ last => ?_) (fun _ _ _ => trivial)
          rw [← same] at retired
          obtain ⟨row', retired', later⟩ := kept _ row retired
          refine ⟨⟨row', last.refreshTokens ▸ retired', later.revokedAt revoked⟩, ?_, ?_⟩
          · -- a token that was there before the rotation is there when the new one is made
            have before : TokensKept w w₄ :=
              (TokensKept.of_eq (first.trans second).refreshTokens).trans
                ((tokensKept_of_act revokes).trans (.of_eq same))
            rw [← Option.not_isSome_iff_eq_none]
            intro there
            obtain ⟨old, known⟩ := Option.isSome_iff_exists.mp there
            obtain ⟨old', known', -⟩ := before _ old known
            rw [stored.fresh] at known'
            cases known'
          · exact last.refreshTokens ▸ stored.stored
        · exact fun _ _ _ => trivial
      · exact fun _ _ _ => trivial

theorem wlp_refreshAccessToken_revoked {token : String} {w : World} {row : RefreshToken}
    (there : w.refreshTokens.lookup (config.sha256 token) = some row)
    (revoked : row.revokedAt.isSome = true)
    : authSemantics.wlp i (refreshAccessToken config token) w
        (fun _ _ => False) (fun _ w' => Quiet w w') := by
  unfold refreshAccessToken findUsableToken
  simp only [Semantics.wlp_bind]
  refine wlp_query_quiet rfl (fun time w₁ first => ?_) (fun _ _ quiet => quiet)
  refine Semantics.wlp_await.mpr ⟨fun x found w₂ answered => ?_, fun x _ w₂ answered =>
    first.trans (Quiet.of_act rfl answered)⟩
  cases found with
  | none => exact first.trans (Quiet.of_act rfl answered)
  | some existing =>
      obtain ⟨there', usable⟩ := usable_of_act answered
      rw [first.refreshTokens] at there'
      obtain rfl := Option.some.inj (there.symm.trans there')
      simp only [RefreshToken.usable, Bool.and_eq_true, Option.isNone_iff_eq_none] at usable
      rw [usable.1] at revoked
      cases revoked

end

-- Chains of rotations

/-- The tokens of a chain, newest first, and a world it can leave: it starts with an issued
token, its newest token is rotated, and time passes while others leave its rows alone.
-/
inductive TokenChain (config : AuthConfig) (userId : UserId) : List String → World → Prop
  | issued {w w' : World} {result : IssueRefreshTokenResult}
      (evaluates : (issueRefreshToken config userId).Evaluates authSemantics 0 w (.ok result) w')
      : TokenChain config userId [result.refresh_token] w'
  | rotated {newest : String} {older : List String} {w w' : World}
    {result : RefreshAccessTokenResult}
      (chain : TokenChain config userId (newest :: older) w)
      (evaluates : (refreshAccessToken config newest).Evaluates authSemantics 0 w (.ok result) w')
      : TokenChain config userId (result.refresh_token :: newest :: older) w'
  | meanwhile {tokens : List String} {w w' : World} (chain : TokenChain config userId tokens w)
      (later : w.clock ≤ w'.clock)
      (alone : ∀ token ∈ tokens, w'.refreshTokens.lookup (config.sha256 token)
        = w.refreshTokens.lookup (config.sha256 token))
      : TokenChain config userId tokens w'

/-- A token that `refreshAccessToken` accepts at a time. -/
def UsableToken (config : AuthConfig) (w : World) (token : String) (time : Nat) : Prop :=
  (w.refreshTokens.lookup (config.sha256 token)).any (fun row => row.usable time) = true

instance {config : AuthConfig} {w : World} {token : String} {time : Nat}
    : Decidable (UsableToken config w token time) :=
  inferInstanceAs (Decidable (_ = true))

/-- The newest token of a chain has expired. -/
def NewestExpired (config : AuthConfig) (w : World) (tokens : List String) (time : Nat) : Prop :=
  ∃ newest ∈ tokens.head?, ∃ row, w.refreshTokens.lookup (config.sha256 newest) = some row
    ∧ row.expiresAt ≤ time

/-- The newest token of a chain is unrevoked, the older ones are revoked. -/
structure ChainRows (config : AuthConfig) (newest : String) (older : List String) (w : World)
    : Prop where
  newest : ∃ row, w.refreshTokens.lookup (config.sha256 newest) = some row ∧ row.revokedAt = none
  older : ∀ token ∈ older, ∃ row, w.refreshTokens.lookup (config.sha256 token) = some row
    ∧ row.revokedAt.isSome = true

theorem ChainRows.of_chain {config : AuthConfig} {userId : UserId} {tokens : List String}
    {w : World}
    (chain : TokenChain config userId tokens w)
    : ∃ newest older, tokens = newest :: older ∧ ChainRows config newest older w := by
  induction chain with
  | @issued w w' result evaluates =>
      obtain ⟨-, row, there, unrevoked⟩ := Semantics.wlp_value wlp_issueRefreshToken evaluates
      exact ⟨_, _, rfl, ⟨row, there, unrevoked⟩, by simp⟩
  | @rotated newest older w w' result chain evaluates ih =>
      obtain ⟨_, _, same, rows⟩ := ih
      obtain ⟨rfl, rfl⟩ := List.cons.inj same
      obtain ⟨retired, -, row, there, unrevoked⟩ :=
        Semantics.wlp_value wlp_refreshAccessToken evaluates
      have kept := Semantics.wlp_value wlp_tokensKept evaluates
      refine ⟨_, _, rfl, ⟨row, there, unrevoked⟩, List.forall_mem_cons.mpr ⟨retired, ?_⟩⟩
      intro token member
      obtain ⟨row, there, revoked⟩ := rows.older token member
      obtain ⟨row', there', later⟩ := kept _ row there
      exact ⟨row', there', later.revokedAt revoked⟩
  | @meanwhile tokens w w' chain later alone ih =>
      obtain ⟨newest, older, rfl, rows⟩ := ih
      refine ⟨newest, older, rfl, ?_, ?_⟩
      · rw [alone newest List.mem_cons_self]
        exact rows.newest
      · intro token member
        rw [alone token (List.mem_cons_of_mem _ member)]
        exact rows.older token member

/-- An old token of a chain is presented again: no token of the chain is usable at a later time
where, and only where, its newest token has expired by then.
-/
theorem replay_leaves_newest (config : AuthConfig) (userId : UserId) (newest : String)
    (older : List String) (w : World) (chain : TokenChain config userId (newest :: older) w)
    (old : String) (rotated : old ∈ older) (result : Except JsError RefreshAccessTokenResult)
    (w' : World)
    (presented : (refreshAccessToken config old).Evaluates authSemantics 0 w result w') (time : Nat)
    : (∀ token ∈ newest :: older, ¬ UsableToken config w' token time)
      ↔ NewestExpired config w (newest :: older) time := by
  obtain ⟨_, _, same, rows⟩ := ChainRows.of_chain chain
  obtain ⟨rfl, rfl⟩ := List.cons.inj same
  obtain ⟨oldRow, there, revoked⟩ := rows.older old rotated
  have quiet : Quiet w w' := by
    have judged := wlp_refreshAccessToken_revoked (i := 0) there revoked
    cases result with
    | ok value => exact absurd (Semantics.wlp_value judged presented) id
    | error error => exact Semantics.wlp_error judged presented
  obtain ⟨row, newestThere, unrevoked⟩ := rows.newest
  have atNewest : UsableToken config w' newest time ↔ time < row.expiresAt := by
    simp [UsableToken, quiet.refreshTokens, newestThere, RefreshToken.usable, unrevoked]
  have atOlder : ∀ token ∈ older, ¬ UsableToken config w' token time := by
    intro token member
    obtain ⟨oldRow, there, revoked⟩ := rows.older token member
    have set : oldRow.revokedAt ≠ none := Option.isSome_iff_ne_none.mp revoked
    simp [UsableToken, quiet.refreshTokens, there, RefreshToken.usable, set]
  have expired : NewestExpired config w (newest :: older) time ↔ row.expiresAt ≤ time := by
    simp [NewestExpired, newestThere]
  rw [List.forall_mem_cons, atNewest, expired, Nat.not_lt]
  exact ⟨fun h => h.1, fun h => ⟨h, atOlder⟩⟩

-- A token that is rotated once

/-- A token is issued, rotated, and presented again. -/
def issuedWorld : World :=
  (issueRefreshToken sampleAuthConfig "user").after authSemantics 0
    (drawn 1000 ["token", "family", "", "", ""]) (.empty 1000)

def rotatedWorld : World :=
  (refreshAccessToken sampleAuthConfig "token").after authSemantics 0
    (drawn 2000 (refreshTexts "key" "next" "other")) issuedWorld

def replayedWorld : World :=
  (refreshAccessToken sampleAuthConfig "token").after authSemantics 0 (drawn 3000 ["", ""])
    rotatedWorld

theorem rotatedWorld_chain : TokenChain sampleAuthConfig "user" ["next", "token"] rotatedWorld := by
  have issued : (issueRefreshToken sampleAuthConfig "user").Evaluates authSemantics 0 (.empty 1000)
      (.ok { refresh_token := "token", expires_at := refreshExpiry 1000 }) issuedWorld :=
    Prog.evaluates_after (by decide +kernel)
  have rotated : (refreshAccessToken sampleAuthConfig "token").Evaluates authSemantics 0 issuedWorld
      (.ok {
        api_key := "acbu_key_secret"
        refresh_token := "next"
        user_id := "user"
        expires_at := refreshExpiry 2000 }) rotatedWorld :=
    Prog.evaluates_after (by decide +kernel)
  exact .rotated (.issued issued) rotated

theorem replayedWorld_evaluates
    : (refreshAccessToken sampleAuthConfig "token").Evaluates authSemantics 0 rotatedWorld
        (.error invalidOrExpiredRefreshToken) replayedWorld :=
  Prog.evaluates_after (by decide +kernel)

/-- Thirty days after the rotation no token of the chain is usable. -/
theorem replay_leaves_newest_expired
    : ¬ UsableToken sampleAuthConfig replayedWorld "next" (refreshExpiry 2000)
      ∧ ¬ UsableToken sampleAuthConfig replayedWorld "token" (refreshExpiry 2000) := by
  have expired : NewestExpired sampleAuthConfig rotatedWorld ["next", "token"]
      (refreshExpiry 2000) := by
    have row : ((rotatedWorld.refreshTokens.lookup (sampleAuthConfig.sha256 "next")).map
        RefreshToken.expiresAt) = some (refreshExpiry 2000) := by
      decide +kernel
    obtain ⟨row, there, expires⟩ := Option.map_eq_some_iff.mp row
    exact ⟨"next", rfl, row, there, expires.le⟩
  have refused := (replay_leaves_newest sampleAuthConfig "user" "next" ["token"] rotatedWorld
    rotatedWorld_chain "token" (by decide) _ replayedWorld replayedWorld_evaluates
    (refreshExpiry 2000)).mpr expired
  exact ⟨refused "next" (by decide), refused "token" (by decide)⟩

/-- The old token is refused, and its successor is usable when that is answered. -/
theorem replay_leaves_usable
    : TokenChain sampleAuthConfig "user" ["next", "token"] rotatedWorld
      ∧ (refreshAccessToken sampleAuthConfig "token").Evaluates authSemantics 0 rotatedWorld
          (.error invalidOrExpiredRefreshToken) replayedWorld
      ∧ UsableToken sampleAuthConfig replayedWorld "next" replayedWorld.clock := by
  refine ⟨rotatedWorld_chain, replayedWorld_evaluates, ?_⟩
  decide +kernel

end AcbuBackend.Auth

import AcbuBackend.Auth.Frames
import AcbuBackend.Auth.Calls

/-! How often a refresh token is redeemed.
A call looks a token up and then revokes its family, without asking how many rows that
changed. A token is redeemed once where no call finds it usable between another call's look
and its revocation.
-/

namespace AcbuBackend.Auth

open Effects AcbuBackend.Runtime

-- The stages of a refresh

/-- How far a refresh has come: it has not found its token, it has found it with its family,
it has revoked it, or it has been refused.
-/
inductive RefreshStage
  | start
  | found (tokenHash tokenFamilyId : String)
  | redeemed (tokenHash : String)
  | refused
deriving DecidableEq

namespace RefreshStage

def afterLookup (tokenHash : String) : Except JsError (Option RefreshToken) → RefreshStage
  | .ok (some row) => .found tokenHash row.tokenFamilyId
  | _ => .refused

def afterRevocation (tokenHash : String) : Except JsError Unit → RefreshStage
  | .ok _ => .redeemed tokenHash
  | .error _ => .refused

def isFound (tokenHash : String) : RefreshStage → Bool
  | .found other _ => other = tokenHash
  | _ => false

def holds (tokenHash : String) : RefreshStage → Bool
  | .found other _ | .redeemed other => other = tokenHash
  | _ => false

/-- The stage a call leads to. -/
def next (stage : RefreshStage) : (op : AuthOp) → authInterface.Reply op → Option RefreshStage
  | .findRefreshToken tokenHash _, reply =>
      if stage = .start then some (afterLookup tokenHash reply) else none
  | .revokeFamily tokenFamilyId _ _, reply =>
      match stage with
      | .found tokenHash family =>
          if tokenFamilyId = family then some (afterRevocation tokenHash reply) else none
      | _ => none
  | _, _ => some stage

end RefreshStage

/-- What a call does to the stage of a refresh. -/
inductive RefreshMove (stage : RefreshStage) : Event authInterface → RefreshStage → Prop
  | other (event : Event authInterface) (stage' : RefreshStage)
      (keeps : ∀ family now replaced, event.op ≠ .revokeFamily family now replaced)
      (left : stage' = stage ∨ stage' = .refused)
      : RefreshMove stage event stage'
  | found (tokenHash : String) (now : Nat) (row : RefreshToken) (start : stage = .start)
      : RefreshMove stage ⟨.findRefreshToken tokenHash now, .ok (some row)⟩
          (.found tokenHash row.tokenFamilyId)
  | revoked (tokenHash family : String) (now : Nat) (replaced : Option String)
      (found : stage = .found tokenHash family) (reply : Except JsError Unit)
      : RefreshMove stage ⟨.revokeFamily family now replaced, reply⟩
          (.afterRevocation tokenHash reply)

theorem RefreshMove.of_next {stage stage' : RefreshStage} {op : AuthOp}
    {reply : authInterface.Reply op} (h : stage.next op reply = some stage')
    : RefreshMove stage ⟨op, reply⟩ stage' := by
  cases op with
  | findRefreshToken tokenHash now =>
      simp only [RefreshStage.next] at h
      split at h
      · rename_i start
        obtain rfl := Option.some.inj h
        rcases reply with error | found
        · exact .other _ _ (by simp) (.inr rfl)
        · cases found with
          | none => exact .other _ _ (by simp) (.inr rfl)
          | some row => exact .found tokenHash now row start
      · cases h
  | revokeFamily family now replaced =>
      simp only [RefreshStage.next] at h
      split at h
      · rename_i tokenHash found
        split at h
        · rename_i same
          subst same
          obtain rfl := Option.some.inj h
          exact .revoked tokenHash _ now replaced rfl reply
        · cases h
      · cases h
  | _ =>
      obtain rfl := Option.some.inj h
      exact .other _ _ (by simp) (.inl rfl)

def refreshProtocol : Protocol authInterface RefreshStage where
  next := RefreshStage.next

section

variable {config : AuthConfig} {stage : RefreshStage}

theorem refresh_ignores {op : AuthOp} (issues : op.opensSession = true)
    : refreshProtocol.Ignores stage op := by
  intro reply
  cases op with
  | findRefreshToken _ _ | revokeFamily _ _ _ => cases issues
  | _ => rfl

theorem wp_refreshAccessToken {token : String}
    : refreshProtocol.wp (refreshAccessToken config token) .start
        (fun _ stage => stage = .redeemed (config.sha256 token)) (fun _ _ => True) := by
  unfold refreshAccessToken findUsableToken
  simp only [Protocol.wp_bind]
  refine Protocol.wp_await.mpr ⟨fun time => ⟨.start, rfl, ?_⟩, fun _ => ⟨.start, rfl, trivial⟩⟩
  refine Protocol.wp_await.mpr ⟨fun found => ⟨_, rfl, ?_⟩, fun _ => ⟨_, rfl, trivial⟩⟩
  cases found with
  | none => trivial
  | some row =>
      refine Protocol.wp_await.mpr ⟨fun _ => ⟨_, if_pos rfl, ?_⟩, fun _ => ⟨_, if_pos rfl, trivial⟩⟩
      apply Protocol.wp_mono (Protocol.wp_of_only (issues_generateApiKey fun _ makes =>
        refresh_ignores (AuthOp.opensSession_of_makesKey makes)))
      · rintro _ _ ⟨-, rfl⟩
        apply Protocol.wp_mono (Protocol.wp_of_only (issues_createRefreshToken fun _ makes =>
          refresh_ignores (AuthOp.opensSession_of_makesToken makes)))
        · rintro _ _ ⟨-, rfl⟩
          exact Protocol.wp_await.mpr ⟨fun _ => ⟨_, rfl, rfl⟩, fun _ => ⟨_, rfl, trivial⟩⟩
        · exact fun _ _ _ => trivial
      · exact fun _ _ _ => trivial

end

-- Runs

abbrev RefreshConfig := Config authInterface RefreshAccessTokenResult World

def refreshCalls (config : AuthConfig) (tokens : List String) (w : World) : RefreshConfig :=
  .initial w (tokens.map (refreshAccessToken config))

/-- How far call `i` has come. -/
def refreshStage (c : RefreshConfig) (i : Nat) : RefreshStage :=
  refreshProtocol.phase (fun _ => .start) c i

/-- A token is found usable by one call at a time: no call finds it so while another one that
has found it is still before its revocation.
-/
def FoundAlone (c : RefreshConfig) (i : Nat) : Prop :=
  match c.pending? i with
  | some (.findRefreshToken tokenHash now) =>
      (c.world.refreshTokens.lookup tokenHash).any (fun row => row.usable now) = true →
      ∀ j < c.threads.length, j ≠ i → (refreshStage c j).isFound tokenHash = false
  | _ => True

instance (c : RefreshConfig) (i : Nat) : Decidable (FoundAlone c i) := by
  unfold FoundAlone
  split
  · exact inferInstance
  · exact .isTrue trivial

theorem FoundAlone.apart {c : RefreshConfig} {i j : Nat} {tokenHash : String} {now : Nat}
    (alone : FoundAlone c i) (asks : c.pending? i = some (.findRefreshToken tokenHash now))
    (usable : (c.world.refreshTokens.lookup tokenHash).any (fun row => row.usable now) = true)
    (bound : j < c.threads.length) (other : j ≠ i)
    : (refreshStage c j).isFound tokenHash = false := by
  unfold FoundAlone at alone
  rw [asks] at alone
  exact alone usable j bound other

/-- What the calls have found and redeemed: the rows they found are there, the tokens they
redeemed are revoked, and no two calls are at work on one token.
-/
structure RedeemedOnce (c : RefreshConfig) : Prop where
  found : ∀ i tokenHash family, refreshStage c i = .found tokenHash family →
    ∃ row, c.world.refreshTokens.lookup tokenHash = some row ∧ row.tokenFamilyId = family
  redeemed : ∀ i tokenHash, refreshStage c i = .redeemed tokenHash →
    ∃ row, c.world.refreshTokens.lookup tokenHash = some row ∧ row.revokedAt.isSome = true
  single : ∀ i j tokenHash, (refreshStage c i).holds tokenHash = true →
    (refreshStage c j).holds tokenHash = true → i = j

theorem lt_of_holds {c : RefreshConfig} {i : Nat} {tokenHash : String}
    (h : (refreshStage c i).holds tokenHash = true)
    : i < c.threads.length := by
  by_contra outside
  have absent : c.threads[i]? = none := by simpa using outside
  rw [refreshStage, Protocol.phase_of_none _ absent] at h
  cases h

section

variable {c c' : RefreshConfig} {i : Nat} {tokenHash : String} {now : Nat} {row : RefreshToken}

theorem RedeemedOnce.unclaimed (h : RedeemedOnce c) (alone : FoundAlone c i)
    (asks : c.pending? i = some (.findRefreshToken tokenHash now))
    (there : c.world.refreshTokens.lookup tokenHash = some row) (usable : row.usable now = true)
    : ∀ j, j ≠ i → (refreshStage c j).holds tokenHash = false := by
  intro j other
  by_contra working
  rw [Bool.not_eq_false] at working
  have apart := alone.apart asks (by rw [there]; exact usable) (lt_of_holds working) other
  cases stage : refreshStage c j with
  | start | refused =>
      rw [stage] at working
      cases working
  | found _ _ =>
      rw [stage] at working apart
      exact Bool.noConfusion (apart.symm.trans working)
  | redeemed revoked =>
      rw [stage] at working
      obtain rfl : revoked = tokenHash := of_decide_eq_true working
      obtain ⟨row', there', revoked⟩ := h.redeemed j _ stage
      obtain rfl := Option.some.inj (there.symm.trans there')
      simp only [RefreshToken.usable, Bool.and_eq_true, Option.isNone_iff_eq_none] at usable
      rw [usable.1] at revoked
      cases revoked

end

theorem RedeemedOnce.step {Q : Nat → RefreshAccessTokenResult → RefreshStage → Prop}
    {E : Nat → JsError → RefreshStage → Prop} {c c' : RefreshConfig} {i : Nat} {x : Choice}
    (governed : refreshProtocol.Governs (fun _ => .start) Q E c) (h : RedeemedOnce c)
    (alone : FoundAlone c i) (stepped : c.step authSemantics i x = some c')
    : RedeemedOnce c' := by
  obtain ⟨op, reply, -, asks, answered, moved, -, others, -⟩ := governed.step_cases stepped
  have kept := tokensKept_of_act answered
  have moves : RefreshMove (refreshStage c i) ⟨op, reply⟩ (refreshStage c' i) := .of_next moved
  have same : ∀ j, j ≠ i → refreshStage c' j = refreshStage c j := fun j other => (others j other).1
  -- what is known of the other calls, and of the stepping one while it goes no further
  have foundBefore : ∀ j tokenHash family, refreshStage c j = .found tokenHash family →
      ∃ row, c'.world.refreshTokens.lookup tokenHash = some row ∧ row.tokenFamilyId = family := by
    intro j tokenHash family stage
    obtain ⟨row, there, member⟩ := h.found j tokenHash family stage
    obtain ⟨row', there', later⟩ := kept tokenHash row there
    exact ⟨row', there', later.tokenFamilyId.trans member⟩
  have redeemedBefore : ∀ j tokenHash, refreshStage c j = .redeemed tokenHash →
      ∃ row, c'.world.refreshTokens.lookup tokenHash = some row ∧ row.revokedAt.isSome = true := by
    intro j tokenHash stage
    obtain ⟨row, there, revoked⟩ := h.redeemed j tokenHash stage
    obtain ⟨row', there', later⟩ := kept tokenHash row there
    exact ⟨row', there', later.revokedAt revoked⟩
  have advance : (∀ tokenHash family, refreshStage c' i = .found tokenHash family →
        ∃ row, c'.world.refreshTokens.lookup tokenHash = some row ∧ row.tokenFamilyId = family) →
      (∀ tokenHash, refreshStage c' i = .redeemed tokenHash →
        ∃ row, c'.world.refreshTokens.lookup tokenHash = some row ∧ row.revokedAt.isSome = true) →
      (∀ tokenHash, (refreshStage c' i).holds tokenHash = true →
        ∀ j, j ≠ i → (refreshStage c j).holds tokenHash = false) →
      RedeemedOnce c' := by
    intro mineFound mineRedeemed mineAlone
    constructor
    · intro j tokenHash family stage
      by_cases mine : j = i
      · exact mineFound tokenHash family (mine ▸ stage)
      · exact foundBefore j tokenHash family ((same j mine).symm.trans stage)
    · intro j tokenHash stage
      by_cases mine : j = i
      · exact mineRedeemed tokenHash (mine ▸ stage)
      · exact redeemedBefore j tokenHash ((same j mine).symm.trans stage)
    · intro j l tokenHash first second
      by_cases mineJ : j = i
      · subst mineJ
        by_contra different
        rw [same l (Ne.symm different), mineAlone tokenHash first l (Ne.symm different)] at second
        cases second
      · by_cases mineL : l = i
        · subst mineL
          rw [same j mineJ, mineAlone tokenHash second j mineJ] at first
          cases first
        · rw [same j mineJ] at first
          rw [same l mineL] at second
          exact h.single j l tokenHash first second
  have alreadyAlone : ∀ tokenHash, (refreshStage c i).holds tokenHash = true →
      ∀ j, j ≠ i → (refreshStage c j).holds tokenHash = false := by
    intro tokenHash mine j other
    by_contra theirs
    rw [Bool.not_eq_false] at theirs
    exact other (h.single j i tokenHash theirs mine)
  generalize reaches : refreshStage c' i = stage' at moves advance
  cases moves with
  | other _ _ _ left =>
      rcases left with rfl | rfl
      · exact advance (foundBefore i) (redeemedBefore i) alreadyAlone
      · exact advance (fun _ _ absurd => by cases absurd) (fun _ absurd => by cases absurd)
          (fun _ absurd => by cases absurd)
  | found tokenHash now row _ =>
      obtain ⟨there, usable⟩ := usable_of_act answered
      obtain ⟨row', there', later⟩ := kept tokenHash row there
      refine advance ?_ (fun _ absurd => by cases absurd) ?_
      · rintro _ _ ⟨⟩
        exact ⟨row', there', later.tokenFamilyId⟩
      · intro tokenHash' mine
        obtain rfl : tokenHash = tokenHash' := of_decide_eq_true mine
        exact h.unclaimed alone asks there usable
  | revoked tokenHash family now replaced found reply =>
      cases reply with
      | error _ =>
          exact advance (fun _ _ absurd => by cases absurd) (fun _ absurd => by cases absurd)
            (fun _ absurd => by cases absurd)
      | ok _ =>
          obtain ⟨row, there, member⟩ := h.found i tokenHash family found
          refine advance (fun _ _ absurd => by cases absurd) ?_ ?_
          · rintro _ ⟨⟩
            exact revoked_of_act answered there member
          · intro tokenHash' mine
            rw [found] at alreadyAlone
            exact alreadyAlone tokenHash' mine

theorem redeemedOnce_of_reaches {config : AuthConfig} {tokens : List String} {w : World}
    {c : RefreshConfig}
    (reached : Config.Reaches authSemantics (fun c i _ => FoundAlone c i)
      (refreshCalls config tokens w) c)
    : refreshProtocol.Governs (fun _ => .start)
        (fun i _ stage => ∀ token, tokens[i]? = some token
          → stage = .redeemed (config.sha256 token))
        (fun _ _ _ => True) c
      ∧ RedeemedOnce c := by
  have governed : refreshProtocol.Governs (fun _ => .start)
      (fun i _ stage => ∀ token, tokens[i]? = some token → stage = .redeemed (config.sha256 token))
      (fun _ _ _ => True) (refreshCalls config tokens w) := by
    refine Protocol.governs_initial fun i prog member => ?_
    rw [List.getElem?_map, Option.map_eq_some_iff] at member
    obtain ⟨token, presented, rfl⟩ := member
    apply Protocol.wp_mono wp_refreshAccessToken
    · intro _ stage redeemed other same
      obtain rfl := Option.some.inj (presented.symm.trans same)
      exact redeemed
    · exact fun _ _ _ => trivial
  have base : RedeemedOnce (refreshCalls config tokens w) := by
    constructor <;> simp [refreshStage, refreshCalls, RefreshStage.holds]
  exact governed.invariant base (fun _ _ _ _ governed h alone stepped => h.step governed alone
    stepped)
    reached

/-- Where no call finds a token usable between another call's look and its revocation, at most
one of the calls that present a token returns new credentials.
-/
theorem redeemed_once (config : AuthConfig) (tokens : List String) (w : World) (c : RefreshConfig)
    (reached : Config.Reaches authSemantics (fun c i _ => FoundAlone c i)
      (refreshCalls config tokens w) c)
    (i j : Nat) (token : String) (first : tokens[i]? = some token)
    (second : tokens[j]? = some token)
    (valueI : (c.value? i).isSome = true) (valueJ : (c.value? j).isSome = true)
    : i = j := by
  obtain ⟨governed, once⟩ := redeemedOnce_of_reaches reached
  have redeemed : ∀ k, tokens[k]? = some token → (c.value? k).isSome = true →
      (refreshStage c k).holds (config.sha256 token) = true := by
    intro k presented returned
    obtain ⟨value, finished⟩ := Option.isSome_iff_exists.mp returned
    have stage : refreshStage c k = .redeemed (config.sha256 token) :=
      governed.value finished token presented
    rw [stage]
    exact decide_eq_true rfl
  exact once.single i j _ (redeemed i first valueI) (redeemed j second valueJ)

/-- A whole refresh with the texts drawn in it. -/
def refreshSteps (i time : Nat) (lookupKey token tokenFamilyId : String) : List (Nat × Choice) :=
  (drawn time (refreshTexts lookupKey token tokenFamilyId)).map (fun x => (i, x))

/-- A user with one refresh token. -/
def oneToken : World :=
  { World.empty 1000 with
    refreshTokens := (∅ : AList (fun _ : String => RefreshToken)).insert
      (sampleAuthConfig.sha256 "token")
      { userId := "user", tokenFamilyId := "family", expiresAt := 2000 } }

/-- The first of two calls returns new credentials, and no other one does. -/
theorem redeemed_once_sequence
    : ∃ c, Config.Reaches authSemantics (fun c i _ => FoundAlone c i)
          (refreshCalls sampleAuthConfig ["token", "token"] oneToken) c
        ∧ c.error? 1 = some invalidOrExpiredRefreshToken
        ∧ (c.value? 0).isSome = true
        ∧ ∀ j, ["token", "token"][j]? = some "token" → (c.value? j).isSome = true → 0 = j := by
  have executed :
      ((refreshCalls sampleAuthConfig ["token", "token"] oneToken).run authSemantics
        (fun c i _ => FoundAlone c i)
        (refreshSteps 0 1500 "key" "next" "other"
          ++ [(1, { time := 1600 }), (1, { time := 1600 })])).map
        (fun c => (c.error? 1, (c.value? 0).isSome))
        = some (some invalidOrExpiredRefreshToken, true) := by
    decide +kernel
  obtain ⟨c, reached, values⟩ := Config.reaches_of_run executed
  obtain ⟨error, value⟩ := Prod.mk.inj values
  exact ⟨c, reached, error, value, fun j presented returned =>
    redeemed_once sampleAuthConfig ["token", "token"] oneToken c reached 0 j "token" rfl presented
      value returned⟩

/-- Two calls that look the token up before either revokes it both return new credentials. -/
theorem redeemed_twice
    : ∃ c, Config.Reaches authSemantics Config.anyStep
          (refreshCalls sampleAuthConfig ["token", "token"] oneToken) c
        ∧ (c.value? 0).map RefreshAccessTokenResult.refresh_token = some "next"
        ∧ (c.value? 1).map RefreshAccessTokenResult.refresh_token = some "another" := by
  have executed :
      ((refreshCalls sampleAuthConfig ["token", "token"] oneToken).run authSemantics Config.anyStep
        ((refreshSteps 0 1500 "key" "next" "other").take 2
          ++ refreshSteps 1 1500 "key'" "another" "third"
          ++ (refreshSteps 0 1500 "key" "next" "other").drop 2)).map
        (fun c => ((c.value? 0).map RefreshAccessTokenResult.refresh_token,
          (c.value? 1).map RefreshAccessTokenResult.refresh_token))
        = some (some "next", some "another") := by
    decide +kernel
  obtain ⟨c, reached, values⟩ := Config.reaches_of_run executed
  exact ⟨c, reached, Prod.mk.inj values⟩

end AcbuBackend.Auth

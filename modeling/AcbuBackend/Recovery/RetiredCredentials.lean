import AcbuBackend.Auth.Frames
import AcbuBackend.Recovery.RecoveryProtocol

/-! Which credentials of a user survive a recovery.
The rotation of the sessions revokes API keys and drops its own failures, and no step of a
recovery writes a refresh token. So a refresh token that was usable stays so, and an API key stays
valid where the revocation has failed.
-/

namespace AcbuBackend.Recovery

open Effects AcbuBackend.Runtime Challenge Auth

-- Rows of API keys during a recovery

abbrev AuthTrace := Trace authInterface Choice

/-- The revocation of the keys of a user is among the calls, and took effect. -/
def RevokesKeys (userId : UserId) (trace : AuthTrace) : Prop :=
  ∃ now x, (.revokeApiKeys userId now, x) ∈ trace ∧ x.outcome.isFailed = false

/-- A revocation that was answered without an error took effect. -/
theorem revokesKeys_of_mem {userId : UserId} {now : Nat} {trace : AuthTrace}
    (member : (.revokeApiKeys userId now, Outcome.done) ∈ trace.map (fun e => (e.1, e.2.outcome)))
    : RevokesKeys userId trace := by
  obtain ⟨⟨op, x⟩, member, same⟩ := List.mem_map.mp member
  obtain ⟨rfl, done⟩ := Prod.mk.inj same
  have done : x.outcome = .done := done
  exact ⟨now, x, member, by rw [done]; rfl⟩

theorem revokesKeys_append {userId : UserId} {later earlier : AuthTrace}
    : RevokesKeys userId (later ++ earlier)
        ↔ RevokesKeys userId later ∨ RevokesKeys userId earlier := by
  constructor
  · rintro ⟨now, x, member, done⟩
    rcases List.mem_append.mp member with member | member
    · exact .inl ⟨now, x, member, done⟩
    · exact .inr ⟨now, x, member, done⟩
  · rintro (⟨now, x, member, done⟩ | ⟨now, x, member, done⟩)
    · exact ⟨now, x, List.mem_append_left _ member, done⟩
    · exact ⟨now, x, List.mem_append_right _ member, done⟩

/-- What calls that revoke keys of one user only have made of a row. -/
structure KeyAfter (userId : UserId) (calls : AuthTrace) (row row' : ApiKey) : Prop where
  owner : row'.userId = row.userId
  revokedAt : row.revokedAt.isSome = true → row'.revokedAt.isSome = true
  retired : RevokesKeys userId calls → row.userId = some userId → row'.revokedAt.isSome = true
  kept : ¬ RevokesKeys userId calls → row' = row

theorem KeyAfter.unchanged {userId : UserId} {calls : AuthTrace} (row : ApiKey)
    (keeps : RevokesKeys userId calls → row.userId ≠ some userId)
    : KeyAfter userId calls row row :=
  ⟨rfl, id, fun revokes owner => absurd owner (keeps revokes), fun _ => rfl⟩

theorem KeyAfter.trans {userId : UserId} {later earlier : AuthTrace} {row₁ row₂ row₃ : ApiKey}
    (first : KeyAfter userId earlier row₁ row₂) (second : KeyAfter userId later row₂ row₃)
    : KeyAfter userId (later ++ earlier) row₁ row₃ where
  owner := second.owner.trans first.owner
  revokedAt := fun revoked => second.revokedAt (first.revokedAt revoked)
  retired := by
    intro revokes owner
    rcases revokesKeys_append.mp revokes with revokes | revokes
    · exact second.retired revokes (first.owner.trans owner)
    · exact second.revokedAt (first.retired revokes owner)
  kept := by
    intro keeps
    rw [revokesKeys_append, not_or] at keeps
    exact (second.kept keeps.1).trans (first.kept keeps.2)

/-- What calls of a recovery of a user leave: the accounts, the refresh tokens, and the rows of
API keys but for the revocation.
-/
structure Rotates (userId : UserId) (s s' : World × AuthTrace) : Prop where
  clock : s.1.clock ≤ s'.1.clock
  users : s'.1.users = s.1.users
  refreshTokens : s'.1.refreshTokens = s.1.refreshTokens
  calls : ∃ calls, s'.2 = calls ++ s.2
    ∧ ∀ lookupKey row, s.1.apiKeys.lookup lookupKey = some row →
        ∃ row', s'.1.apiKeys.lookup lookupKey = some row' ∧ KeyAfter userId calls row row'

theorem Rotates.refl {userId : UserId} (s : World × AuthTrace) : Rotates userId s s := by
  refine ⟨Nat.le_refl _, rfl, rfl, [], rfl, fun _ row there => ⟨row, there, .unchanged row ?_⟩⟩
  rintro ⟨_, _, member, _⟩
  cases member

theorem Rotates.trans {userId : UserId} {s₁ s₂ s₃ : World × AuthTrace}
    (first : Rotates userId s₁ s₂)
    (second : Rotates userId s₂ s₃)
    : Rotates userId s₁ s₃ := by
  obtain ⟨earlier, trace, rows⟩ := first.calls
  obtain ⟨later, trace', rows'⟩ := second.calls
  refine ⟨first.clock.trans second.clock, second.users.trans first.users,
    second.refreshTokens.trans first.refreshTokens, later ++ earlier, ?_, ?_⟩
  · rw [trace', trace, List.append_assoc]
  · intro lookupKey row there
    obtain ⟨row', there', known⟩ := rows lookupKey row there
    obtain ⟨row'', there'', known'⟩ := rows' lookupKey row' there'
    exact ⟨row'', there'', known.trans known'⟩

/-- The calls of a recovery of a user. -/
def RotationCall (userId : UserId) (op : AuthOp) : Prop :=
  op.writesTokens = false ∧ op.writesUser = none ∧ ∀ other now,
    op = .revokeApiKeys other now → other = userId

section

variable {i : Nat} {op : AuthOp} {x : Choice} {userId : UserId}

theorem after_revokeOf {now : Nat} {row : ApiKey} {calls : AuthTrace}
    (revokes : RevokesKeys userId calls)
    : KeyAfter userId calls row (row.revokeOf userId now) := by
  unfold ApiKey.revokeOf
  split
  · exact ⟨rfl, fun _ => rfl, fun _ _ => rfl, fun keeps => absurd revokes keeps⟩
  · rename_i written
    refine ⟨rfl, id, fun _ owner => ?_, fun keeps => absurd revokes keeps⟩
    exact Option.isSome_iff_ne_none.mpr fun unrevoked => written ⟨owner, unrevoked⟩

theorem Rotates.of_act {s s' : World × AuthTrace} {reply : authInterface.Reply op}
    (allowed : RotationCall userId op) (h : authSemantics.traced.act i op x s = some (reply, s'))
    : Rotates userId s s' := by
  obtain ⟨answered, trace⟩ := Semantics.traced_eq_some.mp h
  obtain ⟨tokens, users, own⟩ := allowed
  refine ⟨(auth_clock_le answered).1, users_of_act users answered,
    refreshTokens_of_act tokens answered, [(op, x)], trace, fun lookupKey row there => ?_⟩
  by_cases revocation : ∃ other now, op = .revokeApiKeys other now
  · obtain ⟨other, now, rfl⟩ := revocation
    obtain rfl := own other now rfl
    have only : ∀ {other : UserId}, RevokesKeys other [(.revokeApiKeys other now, x)] →
        x.outcome.isFailed = false := by
      rintro other ⟨_, _, member, done⟩
      obtain ⟨-, rfl⟩ := Prod.mk.inj (List.mem_singleton.mp member)
      exact done
    obtain ⟨-, ⟨failed, left⟩ | ⟨done, left⟩⟩ := auth_act_cases answered
    · refine ⟨row, left ▸ there, .unchanged row fun revokes => ?_⟩
      rw [only revokes] at failed
      cases failed
    · refine ⟨row.revokeOf other now, ?_,
        after_revokeOf ⟨now, x, List.mem_singleton_self _, done⟩⟩
      rw [left]
      simp [effect, World.atTime, there]
  · have keeps : ∀ other now, op ≠ .revokeApiKeys other now :=
      fun other now same => revocation ⟨other, now, same⟩
    refine ⟨row, keyKept_of_act answered keeps there, .unchanged row ?_⟩
    rintro ⟨now, _, member, _⟩
    exact absurd (Prod.mk.inj (List.mem_singleton.mp member)).1.symm (keeps userId now)

end

-- The calls of a recovery

def verifiesCode : AuthOp → Bool
  | .denyList _ | .findChallenge _ | .countAttempts _ | .compareCode .. | .createAttempt _
  | .useChallenge .. | .logAudit .. => true
  | _ => false

theorem verifiesCode_of_isDenyList {op : AuthOp} (listed : op.isDenyList = true)
    : verifiesCode op = true := by
  cases op with
  | denyList _ => rfl
  | _ => cases listed

section

variable {α : Type} {p : AuthOp → Prop} {attempt : OtpAttempt} {process : ProcessId}
  {payload : ChallengePayload}

theorem issues_orUnavailable {body : Prog authInterface α}
    (calls : ∀ op, verifiesCode op = true → p op)
    (h : Issues p body)
    : Issues p (orUnavailable process payload body) := by
  refine h.catchWith fun _ => ?_
  exact Issues.bind (issues_revokeChallenge fun op listed => calls op
    (verifiesCode_of_isDenyList listed))
    fun _ => .fail

theorem issues_retireChallenge (calls : ∀ op, verifiesCode op = true → p op)
    : Issues p (retireChallenge attempt) := by
  refine Issues.bind (issues_orUnavailable calls (issues_query (calls _ rfl))) fun _ => ?_
  exact issues_revokeChallenge fun op listed => calls op (verifiesCode_of_isDenyList listed)

theorem issues_recordRecoveryOtpAttempt {success : Bool} {reason : String}
    (calls : ∀ op, verifiesCode op = true → p op)
    : Issues p (recordRecoveryOtpAttempt attempt success reason) :=
  issues_orUnavailable calls (issues_query (calls _ rfl))

theorem issues_lockChallenge (calls : ∀ op, verifiesCode op = true → p op)
    : Issues p (lockChallenge attempt) := by
  unfold lockChallenge
  split
  · exact issues_retireChallenge calls
  · exact .done

theorem issues_reached {limit : RateLimit} {source : Option String}
    {filterOf : String → AttemptFilter}
    (calls : ∀ op, verifiesCode op = true → p op)
    : Issues p (limit.reached source filterOf) := by
  unfold RateLimit.reached
  split
  · exact .done
  · exact Issues.bind (issues_query (calls _ rfl)) fun _ => .done

theorem issues_checkRecoveryRateLimit {identifier : String}
    {userId ip attemptReasonPrefix : Option String}
    (calls : ∀ op, verifiesCode op = true → p op)
    : Issues p (checkRecoveryRateLimit identifier userId ip attemptReasonPrefix) := by
  unfold checkRecoveryRateLimit
  refine Issues.bind (issues_query (calls _ rfl)) fun time => ?_
  refine Issues.bind (issues_query (calls _ rfl)) fun attempts => ?_
  split
  · exact .done
  · refine (issues_reached calls).bind fun ipReached => ?_
    split
    · exact .done
    · refine (issues_reached calls).bind fun userReached => ?_
      split
      · exact .done
      · exact .done

theorem issues_compareOtp {code codeHash : String} (calls : ∀ op, verifiesCode op = true → p op)
    : Issues p (compareOtp attempt code codeHash) := by
  refine (issues_query (calls _ rfl)).catchWith fun _ => ?_
  refine (issues_recordRecoveryOtpAttempt calls).bind fun _ => ?_
  exact (issues_lockChallenge calls).bind fun _ => .fail

end

/-- A program of calls in `p` that returns keys of one user only. -/
def ReturnsFor (userId : UserId) (p : AuthOp → Prop)
    (prog : Prog authInterface VerifyRecoveryOtpResult)
    : Prop :=
  (Protocol.only p).wp prog () (fun result _ => result.user_id = userId) (fun _ _ => True)

section

variable {userId : UserId} {p : AuthOp → Prop} {attempt : OtpAttempt}
    {params : VerifyRecoveryOtpParams}

theorem ReturnsFor.after {α : Type} {prog : Prog authInterface α}
    {next : α → Prog authInterface VerifyRecoveryOtpResult} (h : Issues p prog)
    (rest : ∀ value, ReturnsFor userId p (next value))
    : ReturnsFor userId p (prog >>= next) := by
  unfold ReturnsFor
  rw [Protocol.wp_bind]
  exact Protocol.wp_mono h (fun value _ _ => rest value) (fun _ _ _ => trivial)

theorem returnsFor_rejectOtp (calls : ∀ op, verifiesCode op = true → p op)
    : ReturnsFor userId p (rejectOtp attempt) := by
  refine .after (issues_recordRecoveryOtpAttempt calls) fun _ => ?_
  refine .after (issues_lockChallenge calls) fun _ => ?_
  exact .after (issues_auditRecoveryEvent (calls _ rfl)) fun _ => trivial

theorem rotationCall_of_reads {op : AuthOp} (keys : op.writesKeys = false)
    (tokens : op.writesTokens = false) (user : op.writesUser = none)
    : RotationCall userId op := by
  refine ⟨tokens, user, ?_⟩
  rintro other now rfl
  cases keys

theorem rotationCall_of_verifiesCode {op : AuthOp} (verifies : verifiesCode op = true)
    : RotationCall userId op := by
  cases op with
  | denyList _ | findChallenge _ | countAttempts _ | compareCode _ _ _ _ | createAttempt _
  | useChallenge _ _ | logAudit _ _ => exact rotationCall_of_reads rfl rfl rfl
  | _ => cases verifies

theorem rotationCall_of_makesKey {op : AuthOp} (makes : op.makesKey = true)
    : RotationCall userId op := by
  cases op with
  | randomText | bcryptHash _ => exact rotationCall_of_reads rfl rfl rfl
  | createApiKey _ _ => exact ⟨rfl, rfl, fun _ _ same => by cases same⟩
  | _ => cases makes

theorem rotationCall_of_isDeviceCall {op : AuthOp} (device : isDeviceCall op = true)
    : RotationCall userId op := by
  cases op with
  | findDevice _ | writeDevice _ | trustDevice _ => exact rotationCall_of_reads rfl rfl rfl
  | _ => cases device

/-- The calls of a recovery of the user. -/
abbrev ReturnsAfterRotation (userId : UserId) (prog : Prog authInterface VerifyRecoveryOtpResult)
    : Prop :=
  ReturnsFor userId (RotationCall userId) prog

theorem returnsFor_completeRecovery
    : ReturnsAfterRotation attempt.payload.userId (completeRecovery attempt params) := by
  have verifies : ∀ op, verifiesCode op = true → RotationCall attempt.payload.userId op :=
    fun _ => rotationCall_of_verifiesCode
  refine .after (issues_recordRecoveryOtpAttempt verifies) fun _ => ?_
  refine .after (issues_retireChallenge verifies) fun _ => ?_
  refine .after (issues_rotateUserSessions (verifies _ rfl) (fun now => ⟨rfl, rfl, ?_⟩)
    (verifies _ rfl)) fun _ => ?_
  · rintro other now' ⟨⟩
    rfl
  · refine .after (issues_generateApiKey fun _ => rotationCall_of_makesKey) fun _ => ?_
    refine .after (issues_trustRecoveryDevice (fun _ => rotationCall_of_isDeviceCall)
      (verifies _ rfl)) fun _ => ?_
    exact .after (issues_auditRecoveryEvent (verifies _ rfl)) fun _ => rfl

theorem returnsFor_attemptChallenge {codeHash : String} (same : attempt.payload.userId = userId)
    : ReturnsAfterRotation userId (attemptChallenge attempt codeHash params) := by
  subst same
  have verifies : ∀ op, verifiesCode op = true → RotationCall attempt.payload.userId op :=
    fun _ => rotationCall_of_verifiesCode
  unfold attemptChallenge
  refine .after (issues_orUnavailable verifies (issues_checkRecoveryRateLimit verifies))
    fun result => ?_
  dsimp only
  split
  · refine .after (issues_retireChallenge verifies) fun _ => ?_
    exact .after (issues_auditRecoveryEvent (verifies _ rfl)) fun _ => trivial
  · split
    · exact returnsFor_rejectOtp verifies
    · refine .after (issues_compareOtp verifies) fun isMatch => ?_
      split
      · exact returnsFor_rejectOtp verifies
      · exact returnsFor_completeRecovery

theorem returnsFor_verifyRecoveryPayload {config : AuthConfig} {process : ProcessId}
    {payload : ChallengePayload}
    : ReturnsAfterRotation payload.userId (verifyRecoveryPayload config process params
        payload) := by
  have verifies : ∀ op, verifiesCode op = true → RotationCall payload.userId op :=
    fun _ => rotationCall_of_verifiesCode
  unfold verifyRecoveryPayload
  refine .after (issues_query (verifies _ rfl)) fun time => ?_
  refine .after (issues_orUnavailable verifies (issues_query (verifies _ rfl))) fun found => ?_
  cases found with
  | none =>
      refine .after (issues_revokeChallenge fun op listed => verifies op
        (verifiesCode_of_isDenyList listed))
        fun _ => ?_
      exact .after (issues_auditRecoveryEvent (verifies _ rfl)) fun _ => trivial
  | some found => exact returnsFor_attemptChallenge rfl

theorem wlp_verifyRecoveryOtp {config : AuthConfig} {process : ProcessId} {i : Nat}
    {s : World × AuthTrace}
    : authSemantics.traced.wlp i (verifyRecoveryOtp config process params) s
        (fun result s' => Rotates result.user_id s s') (fun _ _ => True) := by
  have token : Issues (fun op => verifiesCode op = true)
      (verifyRecoveryToken config process params.challenge_token) := by
    refine Issues.catchWith ?_ fun _ => .fail
    exact Issues.bind (issues_within fun _ => verifiesCode_of_isDenyList)
      fun _ => Issues.ensure.bind fun _ => .done
  unfold verifyRecoveryOtp
  rw [Semantics.wlp_bind]
  -- the token does not yet name the user, so its calls count for every user
  apply Semantics.wlp_mono (Semantics.wlp_of_only
    (R := fun s s' => ∀ userId, Rotates userId s s') (fun s _ => .refl s)
    (fun first second userId => (first userId).trans (second userId))
    (fun _ _ _ _ _ verifies answered _ => .of_act (rotationCall_of_verifiesCode verifies) answered)
      token)
  · rintro payload s₁ ⟨-, first⟩
    apply Semantics.wlp_mono (Semantics.wlp_of_only (@Rotates.refl payload.userId) Rotates.trans
      (fun _ _ _ _ _ => Rotates.of_act) returnsFor_verifyRecoveryPayload)
    · rintro result s₂ ⟨user, second⟩
      rw [user]
      exact (first payload.userId).trans second
    · exact fun _ _ _ => trivial
  · exact fun _ _ _ => trivial

end

-- Accepted credentials

/-- A request with an API key of this lookup key passes `validateApiKey`, at once or later. -/
def AcceptsKey (decodeJwt : String → Option DecodedToken) (w : World) (lookupKey : String) : Prop :=
  ∃ apiKey key w', (validateApiKey decodeJwt (some apiKey)).Evaluates authSemantics 0 w (.ok key) w'
    ∧ key.lookupKey = lookupKey

/-- A token with this hash passes the check of `refreshAccessToken`, at once or later. -/
def AcceptsToken (w : World) (tokenHash : String) : Prop :=
  ∃ found w', (findUsableToken tokenHash).Evaluates authSemantics 0 w (.ok found) w'

/-- A row of an API key that a request can be authenticated by. -/
structure Acceptable (decodeJwt : String → Option DecodedToken) (w : World) (lookupKey : String)
    (row : ApiKey)
    : Prop where
  current : row.current w.clock w.clock = true
  active : rejectInactive (row.userId.bind (fun id => w.users.lookup id)) = .ok ()
  permissions : ∃ scopes, validatePermissions row.permissions = .ok scopes
  presentable : ∃ apiKey, apiKey ≠ "" ∧ decodeJwt apiKey = none
    ∧ (parseApiKey apiKey).map ParsedApiKey.lookupKey = some lookupKey

section

variable {decodeJwt : String → Option DecodedToken} {w : World} {lookupKey tokenHash : String}

theorem wlp_validateApiKey {apiKey : Option String} {i : Nat}
    : authSemantics.wlp i (validateApiKey decodeJwt apiKey) w
        (fun key _ => ∃ row, w.apiKeys.lookup key.lookupKey = some row
          ∧ Acceptable decodeJwt w key.lookupKey row)
        (fun _ _ => True) := by
  unfold validateApiKey
  rw [Semantics.wlp_bind, Semantics.wlp_orThrow]
  refine ⟨fun text given => ?_, fun _ => trivial⟩
  have nonempty : text ≠ "" := by
    simpa using (Option.filter_eq_some_iff.mp given).2
  split
  · trivial
  · rename_i plain
    rw [Semantics.wlp_bind, Semantics.wlp_orThrow]
    refine ⟨fun parsed read => ?_, fun _ => trivial⟩
    simp only [Semantics.wlp_bind]
    refine Semantics.wlp_await.mpr ⟨fun x₁ time w₁ first => ?_, fun _ _ _ _ => trivial⟩
    refine Semantics.wlp_await.mpr ⟨fun x₂ emergencyTime w₂ second => ?_, fun _ _ _ _ => trivial⟩
    refine Semantics.wlp_await.mpr ⟨fun x₃ found w₃ third => ?_, fun _ _ _ _ => trivial⟩
    have time : time = w₁.clock := Except.ok.inj (now_of_act first)
    have emergencyTime : emergencyTime = w₂.clock := Except.ok.inj (now_of_act second)
    have later := (auth_clock_le first).1
    have later' := (auth_clock_le second).1
    have keys : w₂.apiKeys = w.apiKeys := (apiKeys_of_act rfl second).trans
      (apiKeys_of_act rfl first)
    have users : w₂.users = w.users := (users_of_act rfl second).trans (users_of_act rfl first)
    rw [Semantics.wlp_orThrow]
    refine ⟨?_, fun _ => trivial⟩
    rintro ⟨row, user⟩ rfl
    obtain ⟨-, answered⟩ := auth_act_ok third
    have answer := Except.ok.inj (congrArg Prod.fst answered)
    obtain ⟨row', stored, same⟩ := Option.map_eq_some_iff.mp answer
    obtain ⟨rfl, rfl⟩ := Prod.mk.inj same
    obtain ⟨stored, current⟩ := Option.filter_eq_some_iff.mp stored
    have stored : w.apiKeys.lookup parsed.lookupKey = some row' := keys ▸ stored
    have active : ∀ value, rejectInactive (row'.userId.bind (fun id => w₂.users.lookup id))
      = .ok value →
        rejectInactive (row'.userId.bind (fun id => w.users.lookup id)) = .ok () := by
      rw [users]
      exact fun _ active => active
    simp only [Semantics.wlp_fromExcept]
    refine ⟨fun value passed => ?_, fun _ _ => trivial⟩
    refine Semantics.wlp_await.mpr ⟨fun x₄ isValid w₄ _ => ?_, fun _ _ _ _ => trivial⟩
    rw [Semantics.wlp_ensure]
    refine ⟨fun _ => ⟨fun scopes valid => ?_, fun _ _ => trivial⟩, fun _ => trivial⟩
    refine ⟨row', stored, ?_, active value passed, ⟨scopes, valid⟩, text, nonempty,
      plain, by rw [read]; rfl⟩
    exact current_of_later (time ▸ later) (emergencyTime ▸ later.trans later') current

/-- The choice of a call that takes effect at once. -/
def atOnce (w : World) (agrees : Bool) : Choice where
  time := w.clock
  agrees := agrees

theorem evaluates_query {op : AuthOp} {value : op.Ret} {agrees : Bool}
    (h : effect (atOnce w agrees) w op = (.ok value, w))
    : (query op).Evaluates authSemantics 0 w (.ok value) w := by
  have possible : admissible op (atOnce w agrees) w = true := by
    cases op with
    | denyList op => cases op <;> simp [admissible, denyListAdmissible, atOnce]
    | _ => simp [admissible, atOnce, Outcome.isLost]
  refine Prog.evaluates_await (x := atOnce w agrees) ?_
  exact (if_pos possible).trans (congrArg some h)

theorem evaluates_now : now.Evaluates authSemantics 0 w (.ok w.clock) w :=
  evaluates_query (show effect (atOnce w false) w (.denyList .now) = (.ok w.clock, w) from rfl)

theorem acceptsKey_iff
    : AcceptsKey decodeJwt w lookupKey
      ↔ ∃ row, w.apiKeys.lookup lookupKey = some row ∧ Acceptable decodeJwt w lookupKey row := by
  constructor
  · rintro ⟨apiKey, key, w', evaluates, rfl⟩
    have judged : authSemantics.wlp 0 (validateApiKey decodeJwt (some apiKey)) w _ _ :=
      wlp_validateApiKey
    exact Semantics.wlp_value judged evaluates
  · rintro ⟨row, stored, current, active, ⟨scopes, valid⟩, apiKey, nonempty, plain, parses⟩
    obtain ⟨parsed, read, rfl⟩ := Option.map_eq_some_iff.mp parses
    refine ⟨apiKey, authenticatedKey parsed.lookupKey row
      (row.userId.bind (fun id => w.users.lookup id)) scopes, w, ?_, rfl⟩
    unfold validateApiKey
    have given : (some apiKey).filter (fun text => text ≠ "") = some apiKey := by simp [nonempty]
    refine .bind (Prog.evaluates_orThrow given) ?_
    simp only [plain]
    refine .bind (Prog.evaluates_orThrow read) ?_
    refine .bind evaluates_now ?_
    refine .bind evaluates_now ?_
    have found : effect (atOnce w true) w (.findApiKey parsed.lookupKey w.clock w.clock)
        = (.ok (some (row, row.userId.bind (fun id => w.users.lookup id))), w) := by
      simp [effect, stored, current]
    refine .bind (evaluates_query found) ?_
    refine .bind (Prog.evaluates_orThrow rfl) ?_
    refine .bind (Prog.evaluates_fromExcept active) ?_
    have agrees : effect (atOnce w true) w (.compareSecret parsed.secret row.keyHash)
      = (.ok true, w) := rfl
    refine .bind (evaluates_query agrees) ?_
    refine .bind (Prog.evaluates_ensure rfl) ?_
    exact .bind (Prog.evaluates_fromExcept valid) ⟨rfl, rfl⟩

theorem acceptsToken_iff
    : AcceptsToken w tokenHash
      ↔ ∃ row, w.refreshTokens.lookup tokenHash = some row ∧ row.usable w.clock = true := by
  constructor
  · rintro ⟨found, w', evaluates⟩
    have judged : authSemantics.wlp 0 (findUsableToken tokenHash) w
        (fun _ _ => ∃ row, w.refreshTokens.lookup tokenHash = some row ∧ row.usable w.clock = true)
        (fun _ _ => True) := by
      unfold findUsableToken
      simp only [Semantics.wlp_bind]
      refine Semantics.wlp_await.mpr ⟨fun x time w₁ first => ?_, fun _ _ _ _ => trivial⟩
      refine Semantics.wlp_await.mpr ⟨fun x' found w₂ second => ?_, fun _ _ _ _ => trivial⟩
      rw [Semantics.wlp_orThrow]
      refine ⟨?_, fun _ => trivial⟩
      rintro row rfl
      obtain rfl : time = w₁.clock := Except.ok.inj (now_of_act first)
      obtain ⟨stored, usable⟩ := usable_of_act second
      rw [refreshTokens_of_act rfl first] at stored
      refine ⟨row, stored, ?_⟩
      simp only [RefreshToken.usable, Bool.and_eq_true, decide_eq_true_eq] at usable ⊢
      have later := (auth_clock_le first).1
      exact ⟨usable.1, by omega⟩
    exact Semantics.wlp_value judged evaluates
  · rintro ⟨row, stored, usable⟩
    refine ⟨(row, w.clock), w, ?_⟩
    unfold findUsableToken
    refine .bind evaluates_now ?_
    have found : effect (atOnce w true) w (.findRefreshToken tokenHash w.clock)
        = (.ok (some row), w) := by
      simp [effect, stored, usable]
    refine .bind (evaluates_query found) ?_
    exact .bind (Prog.evaluates_orThrow rfl) ⟨rfl, rfl⟩

end

-- Credentials after a recovery

/-- No API key and no refresh token that a user had is accepted afterwards. -/
structure Retired (decodeJwt : String → Option DecodedToken) (userId : UserId) (w w' : World)
    : Prop where
  keys : ∀ lookupKey row, w.apiKeys.lookup lookupKey = some row → row.userId = some userId →
    ¬ AcceptsKey decodeJwt w' lookupKey
  tokens : ∀ tokenHash row, w.refreshTokens.lookup tokenHash = some row → row.userId = userId →
    ¬ AcceptsToken w' tokenHash

/-- No API key that a user has is accepted at a time. -/
def NoKeyAccepted (decodeJwt : String → Option DecodedToken) (userId : UserId) (w : World)
    (time : Nat)
    : Prop :=
  ∀ lookupKey row, w.apiKeys.lookup lookupKey = some row → row.userId = some userId →
    ¬ AcceptsKey decodeJwt (w.atTime time) lookupKey

/-- No refresh token that a user has is usable at a time. -/
def NoTokenUsable (userId : UserId) (w : World) (time : Nat) : Prop :=
  ∀ tokenHash row, w.refreshTokens.lookup tokenHash = some row → row.userId = userId →
    row.usable time = false

section

variable {decodeJwt : String → Option DecodedToken} {userId : UserId} {w w' : World}
    {trace : AuthTrace}

theorem acceptsKey_of_same {lookupKey : String} (clock : w'.clock = w.clock)
    (users : w'.users = w.users)
    (row : w'.apiKeys.lookup lookupKey = w.apiKeys.lookup lookupKey)
    (h : AcceptsKey decodeJwt w lookupKey)
    : AcceptsKey decodeJwt w' lookupKey := by
  obtain ⟨row', stored, current, active, permissions, presentable⟩ := acceptsKey_iff.mp h
  exact acceptsKey_iff.mpr ⟨row', row.trans stored, by rw [clock]; exact current,
    by rw [users]; exact active, permissions, presentable⟩

theorem not_acceptsKey_of_revoked {lookupKey : String} {row : ApiKey}
    (stored : w.apiKeys.lookup lookupKey = some row) (revoked : row.revokedAt.isSome = true)
    : ¬ AcceptsKey decodeJwt w lookupKey := by
  intro accepted
  obtain ⟨row', stored', acceptable⟩ := acceptsKey_iff.mp accepted
  obtain rfl := Option.some.inj (stored.symm.trans stored')
  have unrevoked := acceptable.current
  simp only [ApiKey.current, Bool.and_eq_true] at unrevoked
  rw [Option.isNone_iff_eq_none.mp unrevoked.1.1] at revoked
  cases revoked

theorem Rotates.keys_retired (h : Rotates userId (w, []) (w', trace))
    : (∀ lookupKey row, w.apiKeys.lookup lookupKey = some row → row.userId = some userId →
        ¬ AcceptsKey decodeJwt w' lookupKey)
      ↔ RevokesKeys userId trace ∨ NoKeyAccepted decodeJwt userId w w'.clock := by
  have users : w'.users = w.users := h.users
  obtain ⟨calls, rfl, rows⟩ := h.calls
  rw [List.append_nil]
  by_cases revokes : RevokesKeys userId calls
  · refine iff_of_true (fun lookupKey row stored owner => ?_) (.inl revokes)
    obtain ⟨row', stored', after⟩ := rows lookupKey row stored
    exact not_acceptsKey_of_revoked stored' (after.retired revokes owner)
  · have same : ∀ lookupKey row, w.apiKeys.lookup lookupKey = some row →
        w'.apiKeys.lookup lookupKey = w.apiKeys.lookup lookupKey := by
      intro lookupKey row stored
      obtain ⟨row', stored', after⟩ := rows lookupKey row stored
      obtain rfl := after.kept revokes
      exact stored'.trans stored.symm
    constructor
    · intro refused
      refine .inr fun lookupKey row stored owner accepted => refused lookupKey row stored owner ?_
      exact acceptsKey_of_same (w := w.atTime w'.clock) rfl users
        (same lookupKey row stored) accepted
    · rintro (absurd | refused) lookupKey row stored owner accepted
      · exact revokes absurd
      · refine refused lookupKey row stored owner ?_
        exact acceptsKey_of_same (w := w') rfl users.symm (same lookupKey row stored).symm accepted

theorem Rotates.tokens_retired (h : Rotates userId (w, []) (w', trace))
    : (∀ tokenHash row, w.refreshTokens.lookup tokenHash = some row → row.userId = userId →
        ¬ AcceptsToken w' tokenHash)
      ↔ NoTokenUsable userId w w'.clock := by
  have same : w'.refreshTokens = w.refreshTokens := h.refreshTokens
  refine forall_congr' fun tokenHash => forall_congr' fun row => forall_congr' fun stored =>
    forall_congr' fun _ => ?_
  rw [acceptsToken_iff, same]
  constructor
  · intro refused
    rw [Bool.eq_false_iff]
    exact fun usable => refused ⟨row, stored, usable⟩
  · rintro unusable ⟨row', stored', usable⟩
    obtain rfl := Option.some.inj (stored.symm.trans stored')
    rw [unusable] at usable
    cases usable

end

/-- A recovery that returns a key has retired the earlier credentials of its user if and only if
the revocation of the API keys took effect, or none was accepted any more, and no refresh token was
usable any more.
-/
theorem recovery_retires (config : AuthConfig) (decodeJwt : String → Option DecodedToken)
    (process : ProcessId) (params : VerifyRecoveryOtpParams) (w : World)
    (result : VerifyRecoveryOtpResult) (s' : World × AuthTrace)
    (returned : (verifyRecoveryOtp config process params).Evaluates authSemantics.traced 0 (w, [])
      (.ok result) s')
    : Retired decodeJwt result.user_id w s'.1
      ↔ (RevokesKeys result.user_id s'.2 ∨ NoKeyAccepted decodeJwt result.user_id w s'.1.clock)
        ∧ NoTokenUsable result.user_id w s'.1.clock := by
  have judged : authSemantics.traced.wlp 0 (verifyRecoveryOtp config process params) (w, [])
      (fun result s' => Rotates result.user_id (w, []) s') (fun _ _ => True) :=
    wlp_verifyRecoveryOtp
  have rotates := Semantics.wlp_value judged returned
  rw [← rotates.keys_retired, ← rotates.tokens_retired]
  exact ⟨fun retired => ⟨retired.keys, retired.tokens⟩, fun h => ⟨h.1, h.2⟩⟩

-- A user with a key and a token

/-- The user with the recovery code also has an API key, and a refresh token until a time. -/
def signedIn (expiresAt : Nat) : World :=
  { oneCode with
    apiKeys := (∅ : AList (fun _ : String => ApiKey)).insert "0123456789ab"
      { userId := some "user", keyHash := "hash" }
    refreshTokens := (∅ : AList (fun _ : String => RefreshToken)).insert "token hash"
      { userId := "user", tokenFamilyId := "family", expiresAt } }

def rightCode (rotation : List Choice) : List Choice :=
  List.replicate 11 { time := 2000 } ++ [{ time := 2000, agrees := true }]
    ++ List.replicate 6 { time := 2000 } ++ rotation
    ++ [{ time := 2000, text := "key" }] ++ List.replicate 4 { time := 2000 }

/-- The state after the recovery of a user whose refresh token expires at a time. -/
def recovered (expiresAt : Nat) (rotation : List Choice) : World × AuthTrace :=
  (verifyRecoveryOtp recoveryConfig 0 codeParams).after authSemantics.traced 0 (rightCode rotation)
    (signedIn expiresAt, [])

/-- The revocation of the keys and its record take effect. -/
def rotated : List Choice :=
  [{ time := 2000 }, { time := 2000 }]

def newKey : VerifyRecoveryOtpResult where
  api_key := "acbu_key_"
  user_id := "user"

theorem recovered_evaluates
    : (verifyRecoveryOtp recoveryConfig 0 codeParams).Evaluates authSemantics.traced 0
        (signedIn 1500, []) (.ok newKey) (recovered 1500 rotated) := by
  unfold recovered
  exact Prog.evaluates_after (by decide +kernel)

/-- After a whole rotation and with the refresh token expired nothing is accepted. -/
theorem recovery_retires_expired
    : Retired (fun _ => none) "user" (signedIn 1500) (recovered 1500 rotated).1 := by
  have returned := recovered_evaluates
  have member : (AuthOp.revokeApiKeys "user" 2000, Outcome.done) ∈
      (recovered 1500 rotated).2.map (fun e => (e.1, e.2.outcome)) := by
    decide +kernel
  have clock : (recovered 1500 rotated).1.clock = 2000 := by decide +kernel
  generalize recovered 1500 rotated = s' at returned member clock ⊢
  have expired : NoTokenUsable "user" (signedIn 1500) s'.1.clock := by
    intro tokenHash row stored _
    rw [clock]
    by_cases same : tokenHash = "token hash"
    · subst same
      obtain rfl := Option.some.inj ((AList.lookup_insert _).symm.trans stored)
      decide
    · rw [signedIn, AList.lookup_insert_ne same] at stored
      cases stored
  exact (recovery_retires recoveryConfig (fun _ => none) 0 codeParams (signedIn 1500) newKey s'
    returned).mpr ⟨.inl (revokesKeys_of_mem member), expired⟩

/-- After a recovery without any failure the refresh token is still usable. -/
theorem recovery_leaves_credentials
    : ∃ s', (verifyRecoveryOtp recoveryConfig 0 codeParams).Evaluates authSemantics.traced 0
        (signedIn 9000, []) (.ok newKey) s'
      ∧ RevokesKeys "user" s'.2
      ∧ AcceptsToken s'.1 "token hash" := by
  have returned : (verifyRecoveryOtp recoveryConfig 0 codeParams).Evaluates authSemantics.traced 0
      (signedIn 9000, []) (.ok newKey) (recovered 9000 rotated) := by
    unfold recovered
    exact Prog.evaluates_after (by decide +kernel)
  have member : (AuthOp.revokeApiKeys "user" 2000, Outcome.done) ∈
      (recovered 9000 rotated).2.map (fun e => (e.1, e.2.outcome)) := by
    decide +kernel
  have usable : ((recovered 9000 rotated).1.refreshTokens.lookup "token hash").map
      (fun row => row.usable (recovered 9000 rotated).1.clock) = some true := by
    decide +kernel
  generalize recovered 9000 rotated = s' at returned member usable
  obtain ⟨token, stored, usable⟩ := Option.map_eq_some_iff.mp usable
  exact ⟨s', returned, revokesKeys_of_mem member, acceptsToken_iff.mpr ⟨token, stored, usable⟩⟩

end AcbuBackend.Recovery

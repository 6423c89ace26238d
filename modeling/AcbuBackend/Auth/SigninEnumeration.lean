import AcbuBackend.Auth.Frames

/-! What a refused sign-in tells about its identifier.
Where no user is found, `signin` goes on with a dummy user, whose passcode is compared and whose
counter is written. Its row is not in the table, so that write is refused.
-/

namespace AcbuBackend.Auth

open Effects Effects.Prog AcbuBackend.Runtime Challenge

-- The same environment for two states

/-- What a sign-in with a wrong passcode meets beside the tables: the attempts the guard has
counted, and whether a CAPTCHA is accepted.
-/
structure SigninEnvironment where
  attempts : Option Nat := none
  captchaAccepted : Bool := false

/-- Every call takes effect, and no passcode matches. -/
def SigninEnvironment.allows (env : SigninEnvironment) (op : AuthOp) (x : Choice) : Bool :=
  x.outcome = .done
  && match op with
    | .getBruteAttempts .. => x.attempts = env.attempts
    | .siteverify .. => x.agrees = env.captchaAccepted
    | .comparePasscode .. => !x.agrees
    | _ => true

def SigninEnvironment.semantics (env : SigninEnvironment)
    : Semantics authInterface World Choice where
  act i op x w := if env.allows op x then authSemantics.act i op x w else none

variable {env : SigninEnvironment} {i : Nat} {w w' : World}

theorem SigninEnvironment.act_eq_some {op : AuthOp} {x : Choice} {reply : authInterface.Reply op}
    (h : env.semantics.act i op x w = some (reply, w'))
    : env.allows op x = true ∧ w.clock ≤ x.time
      ∧ effect x (w.atTime x.time) op = (reply, w') := by
  unfold semantics at h
  simp only at h
  split at h
  · rename_i allowed
    refine ⟨allowed, (auth_act_cases h).1, ?_⟩
    obtain ⟨-, answered⟩ := Environment.act_eq_some h
    have done : x.outcome = .done := of_decide_eq_true ((Bool.and_eq_true _ _).mp allowed).1
    have answered : x.outcome.answer (effect x (w.atTime x.time) op) w = (reply, w') := answered
    rwa [done] at answered
  · cases h

theorem SigninEnvironment.live (op : AuthOp) (w : World)
    : ∃ x reply w', env.semantics.act i op x w = some (reply, w') := by
  obtain ⟨x, allowed, possible⟩ : ∃ x, env.allows op x = true ∧ admissible op x w = true := by
    cases op with
    | getBruteAttempts identifier ip =>
        exact ⟨{ time := w.clock, attempts := env.attempts }, by simp [allows],
          by simp [admissible, Outcome.isLost]⟩
    | siteverify token ip =>
        exact ⟨{ time := w.clock, agrees := env.captchaAccepted }, by simp [allows],
          by simp [admissible, Outcome.isLost]⟩
    | denyList op =>
        refine ⟨{ time := w.clock }, by simp [allows], ?_⟩
        simp only [admissible, denyListAdmissible, World.clock, le_refl, decide_true, Bool.true_and]
        cases op <;> rfl
    | _ => exact ⟨{ time := w.clock }, by simp [allows], by simp [admissible, Outcome.isLost]⟩
  have answered : env.semantics.act i op x w
      = some (x.outcome.answer (effect x (w.atTime x.time) op) w) :=
    (if_pos allowed).trans (if_pos possible)
  exact ⟨x, _, _, answered⟩

theorem SigninEnvironment.wlp_query {op : AuthOp} {Q : op.Ret → World → Prop}
    {E : JsError → World → Prop}
    (ok : ∀ x value w', env.allows op x = true → w.clock ≤ x.time →
      effect x (w.atTime x.time) op = (.ok value, w') → Q value w')
    (error : ∀ x error w', env.allows op x = true → w.clock ≤ x.time →
      effect x (w.atTime x.time) op = (.error error, w') → E error w')
    : env.semantics.wlp i (query op) w Q E := by
  refine Semantics.wlp_await.mpr ⟨fun x value w' answered => ?_, fun x thrown w' answered => ?_⟩
  · obtain ⟨allowed, later, effect_eq⟩ := act_eq_some answered
    exact ok x value w' allowed later effect_eq
  · obtain ⟨allowed, later, effect_eq⟩ := act_eq_some answered
    exact error x thrown w' allowed later effect_eq

/-- The users are as they were, and time does not go back. -/
structure Reads (w w' : World) : Prop where
  users : w'.users = w.users
  clock : w.clock ≤ w'.clock

theorem Reads.trans {w₁ w₂ w₃ : World} (first : Reads w₁ w₂) (second : Reads w₂ w₃) : Reads w₁ w₃ :=
  ⟨second.users.trans first.users, first.clock.trans second.clock⟩

theorem SigninEnvironment.wlp_read {op : AuthOp} {Q : op.Ret → Prop}
    (answer : ∀ x, env.allows op x = true → w.clock ≤ x.time →
      ∃ value, (effect x (w.atTime x.time) op).1 = .ok value ∧ Q value
        ∧ Reads w (effect x (w.atTime x.time) op).2)
    : env.semantics.wlp i (query op) w (fun value w' => Q value ∧ Reads w w')
        (fun _ _ => False) := by
  refine wlp_query (fun x value w' allowed later effect_eq => ?_)
    fun x error w' allowed later effect_eq => ?_
  · obtain ⟨value', same, known, reads⟩ := answer x allowed later
    rw [effect_eq] at same reads
    obtain rfl := Except.ok.inj same
    exact ⟨known, reads⟩
  · obtain ⟨_, same, -⟩ := answer x allowed later
    rw [effect_eq] at same
    cases same

-- The guard

section

variable (config : AuthConfig) (params : SigninParams) (env : SigninEnvironment)

/-- `getStatus` locks the identifier. -/
def guardLocks : Bool :=
  env.attempts.any (fun attempts => config.bruteMaxAttempts ≤ attempts)

/-- `getStatus` wants a CAPTCHA. -/
def guardWantsCaptcha : Bool :=
  env.attempts.any (fun attempts => (config.bruteMaxAttempts + 1) / 2 ≤ attempts)

/-- A CAPTCHA is wanted and missing, or is given and not accepted. -/
def captchaRefused : Bool :=
  (params.captchaToken.filter (fun token => token ≠ "")).elim (guardWantsCaptcha config env)
    (fun token => config.captchaSecret = "" || jsTrim token = "" || !env.captchaAccepted)

/-- The request is turned away before its identifier is looked up. -/
def turnedAway : Bool :=
  guardLocks config env || captchaRefused config params env

/-- What a sign-in with a wrong passcode ends with, where the row of the user it goes on with is
stored or is not.
-/
def signinError (stored : Bool) : JsError :=
  if guardLocks config env then tooManyAttempts
  else if captchaRefused config params env then captchaRequired
  else if stored then invalidCredentials
  else .error "Record to update not found."

end

variable {config : AuthConfig} {params : SigninParams}

theorem wlp_getStatus {identifier ip : String}
    : env.semantics.wlp i (getStatus config identifier ip) w
        (fun status w' => status = (guardLocks config env, guardWantsCaptcha config env)
          ∧ Reads w w') (fun _ _ => False) := by
  refine Semantics.wlp_bind.mpr (Semantics.wlp_mono (SigninEnvironment.wlp_read
    (Q := fun attempts => attempts = env.attempts) ?_) ?_ fun _ _ absurd => absurd)
  · intro x allowed later
    have same := of_decide_eq_true ((Bool.and_eq_true _ _).mp allowed).2
    exact ⟨x.attempts, rfl, same, rfl, later⟩
  · rintro attempts w' ⟨rfl, reads⟩
    unfold guardLocks guardWantsCaptcha
    cases env.attempts with
    | none => exact ⟨rfl, reads⟩
    | some attempts => exact ⟨rfl, reads⟩

theorem wlp_checkCaptcha
    : env.semantics.wlp i
        (checkCaptcha config (guardWantsCaptcha config env) params.captchaToken params.ip) w
        (fun _ w' => captchaRefused config params env = false ∧ Reads w w')
        (fun error _ => captchaRefused config params env = true ∧ error = captchaRequired) := by
  unfold checkCaptcha captchaRefused
  cases params.captchaToken.filter (fun token => token ≠ "") with
  | none =>
      refine Semantics.wlp_ensure.mpr ⟨fun passed => ⟨?_, rfl, le_rfl⟩, fun refused => ⟨?_, rfl⟩⟩
      · simpa using passed
      · simpa using refused
  | some token =>
      refine Semantics.wlp_bind.mpr (Semantics.wlp_mono (Q := fun verified w' =>
        verified = !(config.captchaSecret = "" || jsTrim token = "" || !env.captchaAccepted)
          ∧ Reads w w') (E := fun _ _ => False) ?_ ?_ fun _ _ absurd => absurd.elim)
      · unfold verifyCaptcha
        split
        · rename_i missing
          refine ⟨?_, rfl, le_rfl⟩
          rcases missing with missing | missing
          · simp [missing]
          · simp [missing]
        · rename_i given
          refine Semantics.wlp_catchWith.mpr (Semantics.wlp_mono (SigninEnvironment.wlp_read
            (Q := fun verified => verified = env.captchaAccepted) ?_) ?_
            fun _ _ absurd => absurd.elim)
          · intro x allowed later
            have same := of_decide_eq_true ((Bool.and_eq_true _ _).mp allowed).2
            exact ⟨x.agrees, rfl, same, rfl, later⟩
          · rintro verified w' ⟨rfl, reads⟩
            rw [not_or] at given
            exact ⟨by simp [given], reads⟩
      · rintro verified w' ⟨rfl, reads⟩
        exact Semantics.wlp_ensure.mpr ⟨fun passed => ⟨(Bool.not_eq_true' _).mp passed, reads⟩,
          fun refused => ⟨(Bool.not_eq_false' _).mp refused, rfl⟩⟩

-- A wrong passcode

def signinUser (config : AuthConfig) (identifier : String) (w : World) : UserId × User :=
  (w.userBy (normalizeIdentifier config identifier).1
    (normalizeIdentifier config identifier).2).getD
    ("dummy-id", { passcodeHash := some DUMMY_HASH })

theorem wlp_resolveUserByIdentifier {identifier : String}
    : env.semantics.wlp i (resolveUserByIdentifier config identifier) w
        (fun user w' => user = signinUser config identifier w ∧ Reads w w') (fun _ _ => False) := by
  refine Semantics.wlp_bind.mpr (Semantics.wlp_mono (SigninEnvironment.wlp_read
    (Q := fun found => found = w.userBy (normalizeIdentifier config identifier).1
      (normalizeIdentifier config identifier).2) ?_) ?_ fun _ _ absurd => absurd)
  · exact fun x _ later => ⟨_, rfl, rfl, rfl, later⟩
  · rintro found w' ⟨rfl, reads⟩
    exact ⟨rfl, reads⟩

theorem wlp_now {Q : Nat → World → Prop} {E : JsError → World → Prop}
    (h : ∀ w', Reads w w' → Q w'.clock w')
    : env.semantics.wlp i now w Q E := by
  refine Semantics.wlp_mono (SigninEnvironment.wlp_query (Q := fun time w' =>
    time = w'.clock ∧ Reads w w') (E := fun _ _ => False) ?_ ?_) ?_ fun _ _ absurd => absurd.elim
  · intro x time w' _ later effect_eq
    obtain ⟨same, rfl⟩ := Prod.mk.inj effect_eq
    exact ⟨(Except.ok.inj same).symm, rfl, later⟩
  · intro x error w' _ _ effect_eq
    cases (Prod.mk.inj effect_eq).1
  · rintro _ w' ⟨rfl, reads⟩
    exact h w' reads

theorem wlp_rejectLocked {lockoutUntil : Option Nat}
    (unlocked : ∀ lockoutUntil', lockoutUntil = some lockoutUntil' → lockoutUntil' ≤ w.clock)
    : env.semantics.wlp i (rejectLocked lockoutUntil) w (fun _ w' => Reads w w')
        (fun _ _ => False) := by
  unfold rejectLocked
  split
  · exact ⟨rfl, le_rfl⟩
  · rename_i lockoutUntil'
    refine Semantics.wlp_bind.mpr (wlp_now fun w' reads => Semantics.wlp_ensure.mpr
      ⟨fun _ => reads, fun locked => ?_⟩)
    exact of_decide_eq_false locked ((unlocked lockoutUntil' rfl).trans reads.clock)

theorem wlp_updateUser {id : UserId} {failedSigninAttempts : Nat} {lockoutUntil : Option Nat}
    : env.semantics.wlp i (query (.updateUser id failedSigninAttempts lockoutUntil)) w
        (fun _ _ => id ∈ w.users)
        (fun error _ => id ∉ w.users ∧ error = .error "Record to update not found.") := by
  refine SigninEnvironment.wlp_query (fun x value w' _ _ effect_eq => ?_)
    fun x error w' _ _ effect_eq => ?_
  · have written : (w.atTime x.time).updateUser id failedSigninAttempts lockoutUntil
        = (.ok value, w') := effect_eq
    unfold World.updateUser at written
    split at written
    · cases written
    · rename_i user stored
      exact AList.lookup_isSome.mp (Option.isSome_iff_exists.mpr ⟨user, stored⟩)
  · have refused : (w.atTime x.time).updateUser id failedSigninAttempts lockoutUntil
        = (.error error, w') := effect_eq
    unfold World.updateUser at refused
    split at refused
    · rename_i missing
      exact ⟨AList.lookup_eq_none.mp missing, (Except.error.inj (Prod.mk.inj refused).1).symm⟩
    · cases refused

theorem wlp_handleFailure {id : UserId} {failedSigninAttempts : Nat}
    : env.semantics.wlp i (handleFailure config id failedSigninAttempts) w
        (fun _ _ => id ∈ w.users)
        (fun error _ => id ∉ w.users ∧ error = .error "Record to update not found.") := by
  unfold handleFailure
  split
  · refine Semantics.wlp_bind.mpr (wlp_now fun w' reads => ?_)
    rw [← reads.users]
    exact wlp_updateUser
  · exact wlp_updateUser

theorem wlp_afterPasscode {id : UserId} {user : User}
    : env.semantics.wlp i (afterPasscode config params id user false) w (fun _ _ => False)
        (fun error _ => error = if decide (id ∈ w.users) then invalidCredentials
          else .error "Record to update not found.") := by
  unfold afterPasscode
  rw [if_pos rfl]
  refine Semantics.wlp_bind.mpr (Semantics.wlp_mono wlp_handleFailure ?_ ?_)
  · exact fun _ _ stored => (if_pos (decide_eq_true stored)).symm
  · rintro error _ ⟨missing, rfl⟩
    exact (if_neg (by simpa using missing)).symm

theorem wlp_signin {id : UserId} {user : User}
    (resolved : signinUser config params.identifier w = (id, user))
    (passcode : (user.passcodeHash.filter (fun hash => hash ≠ "")).isSome = true)
    (unlocked : ∀ lockoutUntil, user.lockoutUntil = some lockoutUntil → lockoutUntil ≤ w.clock)
    : env.semantics.wlp i (signin config params) w (fun _ _ => False)
        (fun error _ => error = signinError config params env (decide (id ∈ w.users))) := by
  unfold signin signinError
  refine Semantics.wlp_bind.mpr (Semantics.wlp_mono wlp_getStatus ?_ fun _ _ absurd => absurd.elim)
  rintro _ w₁ ⟨rfl, reads₁⟩
  dsimp only
  refine Semantics.wlp_bind.mpr (Semantics.wlp_ensure.mpr ⟨fun passed => ?_, fun locked => ?_⟩)
  · have free := (Bool.not_eq_true' _).mp passed
    rw [if_neg (Bool.eq_false_iff.mp free)]
    refine Semantics.wlp_bind.mpr (Semantics.wlp_mono wlp_checkCaptcha ?_ ?_)
    · rintro _ w₂ ⟨allowed, reads₂⟩
      rw [if_neg (Bool.eq_false_iff.mp allowed)]
      refine Semantics.wlp_bind.mpr (Semantics.wlp_mono wlp_resolveUserByIdentifier ?_
        fun _ _ absurd => absurd.elim)
      rintro found w₃ ⟨rfl, reads₃⟩
      have reads := (reads₁.trans reads₂).trans reads₃
      have same : signinUser config params.identifier w₂ = (id, user) := by
        rw [← resolved, signinUser, signinUser, World.userBy, World.userBy, reads₂.users,
          reads₁.users]
      rw [same]
      refine Semantics.wlp_bind.mpr (Semantics.wlp_mono (wlp_rejectLocked fun time stored =>
        (unlocked time stored).trans reads.clock) ?_ fun _ _ absurd => absurd.elim)
      rintro _ w₄ reads₄
      have users : w₄.users = w.users := (reads.trans reads₄).users
      obtain ⟨hash, given⟩ := Option.isSome_iff_exists.mp passcode
      refine Semantics.wlp_bind.mpr (Semantics.wlp_orThrow.mpr ⟨fun _ _ => ?_, fun none => ?_⟩)
      · refine Semantics.wlp_bind.mpr (Semantics.wlp_mono (SigninEnvironment.wlp_read
          (Q := fun isMatch => isMatch = false) ?_) ?_ fun _ _ absurd => absurd.elim)
        · intro x allowed later
          have wrong : (!x.agrees) = true := ((Bool.and_eq_true _ _).mp allowed).2
          exact ⟨x.agrees, rfl, (Bool.not_eq_true' _).mp wrong, rfl, later⟩
        · rintro isMatch w₅ ⟨rfl, reads₅⟩
          rw [← users, ← reads₅.users]
          exact wlp_afterPasscode
      · rw [given] at none
        cases none
    · rintro error _ ⟨refused, rfl⟩
      rw [if_pos refused]
  · rw [if_pos ((Bool.not_eq_false' _).mp locked)]

-- Two states

/-- The two errors differ exactly where only one of the rows is stored and the request gets as far
as the write.
-/
theorem signinError_eq_iff {stored : Bool}
    : signinError config params env true = signinError config params env stored
      ↔ turnedAway config params env = true ∨ stored = true := by
  unfold signinError turnedAway
  by_cases locked : guardLocks config env = true
  · simp [locked]
  · by_cases refused : captchaRefused config params env = true
    · simp [locked, refused]
    · cases stored with
      | true => simp [locked, refused]
      | false =>
          simp only [locked, refused, Bool.false_eq_true, if_false, if_true, Bool.or_false, or_self,
            iff_false]
          decide

theorem mem_users_of_userBy {kind : IdentifierKind} {value : String} {id : UserId} {user : User}
    (found : w.userBy kind value = some (id, user))
    : id ∈ w.users := by
  obtain ⟨entry, searched, same⟩ := Option.map_eq_some_iff.mp found
  obtain ⟨rfl, -⟩ := Prod.mk.inj same
  exact AList.mem_keys.mpr (List.mem_map_of_mem (List.mem_of_find?_eq_some searched))

/-- Two states, in one of which the identifier belongs to a user with a passcode who is not locked,
and in the other to nobody.
-/
structure DifferAt (config : AuthConfig) (identifier : String) (known unknown : World) : Prop where
  user : ∃ id user,
    known.userBy (normalizeIdentifier config identifier).1 (normalizeIdentifier config identifier).2
      = some (id, user)
    ∧ (user.passcodeHash.filter (fun hash => hash ≠ "")).isSome = true
    ∧ ∀ lockoutUntil, user.lockoutUntil = some lockoutUntil → lockoutUntil ≤ known.clock
  nobody : unknown.userBy (normalizeIdentifier config identifier).1
    (normalizeIdentifier config identifier).2 = none

/-- A wrong passcode tells nothing about its identifier exactly where the request is turned away
before the lookup, or where some row has the id of the dummy user.
-/
theorem signin_indistinguishable_iff {known unknown : World}
    (differ : DifferAt config params.identifier known unknown)
    : (∀ result w result' w',
        (signin config params).Evaluates env.semantics i known result w →
        (signin config params).Evaluates env.semantics i unknown result' w' →
        ∃ error, result = .error error ∧ result' = .error error)
      ↔ turnedAway config params env = true ∨ "dummy-id" ∈ unknown.users := by
  obtain ⟨⟨id, user, found, passcode, unlocked⟩, nobody⟩ := differ
  have first : env.semantics.wlp i (signin config params) known (fun _ _ => False)
      (fun error _ => error = signinError config params env true) := by
    rw [← decide_eq_true (mem_users_of_userBy found)]
    exact wlp_signin (congrArg (Option.getD · _) found) passcode unlocked
  have second : env.semantics.wlp i (signin config params) unknown (fun _ _ => False)
      (fun error _ => error = signinError config params env
        (decide ("dummy-id" ∈ unknown.users))) :=
    wlp_signin (congrArg (Option.getD · _) nobody) (by decide) fun _ locked => by cases locked
  rw [← decide_eq_true_eq (p := "dummy-id" ∈ unknown.users), ← signinError_eq_iff]
  constructor
  · intro same
    have ends : ∀ w, ∃ result w', (signin config params).Evaluates env.semantics i w result w' :=
      Prog.exists_evaluates SigninEnvironment.live
    obtain ⟨result, w, evaluated⟩ := ends known
    obtain ⟨result', w', evaluated'⟩ := ends unknown
    obtain ⟨error, rfl, rfl⟩ := same result w result' w' evaluated evaluated'
    have own := Semantics.wlp_error first evaluated
    have other := Semantics.wlp_error second evaluated'
    exact own.symm.trans other
  · intro same result w result' w' evaluated evaluated'
    cases result with
    | ok _ => exact (Semantics.wlp_value first evaluated).elim
    | error error =>
        cases result' with
        | ok _ => exact (Semantics.wlp_value second evaluated').elim
        | error error' =>
            have own := Semantics.wlp_error first evaluated
            have other := Semantics.wlp_error second evaluated'
            exact ⟨error, rfl, congrArg Except.error (other.trans (same.symm.trans own.symm))⟩

def wrongPasscode : SigninParams where
  identifier := "alice"
  passcode := "wrong"
  ip := "203.0.113.7"

theorem differAt_alice : DifferAt sampleAuthConfig "alice" oneUser (World.empty 1000) :=
  ⟨⟨"user", { username := some "alice", passcodeHash := some "hash" }, by decide +kernel, rfl,
    fun _ locked => by cases locked⟩, rfl⟩

/-- Behind a guard that is locked nothing is told. -/
theorem signin_indistinguishable_locked
    : (∀ result w result' w',
        (signin sampleAuthConfig wrongPasscode).Evaluates
          (SigninEnvironment.semantics { attempts := some 5 }) 0 oneUser result w →
        (signin sampleAuthConfig wrongPasscode).Evaluates
          (SigninEnvironment.semantics { attempts := some 5 }) 0 (World.empty 1000) result' w' →
        ∃ error, result = .error error ∧ result' = .error error)
      ↔ turnedAway sampleAuthConfig wrongPasscode { attempts := some 5 } = true
        ∨ "dummy-id" ∈ (World.empty 1000).users :=
  signin_indistinguishable_iff differAt_alice

/-- The first wrong passcode for a username tells whether it is taken. -/
theorem signin_reveals_username
    : ∃ w w', DifferAt sampleAuthConfig wrongPasscode.identifier oneUser (World.empty 1000)
      ∧ (signin sampleAuthConfig wrongPasscode).Evaluates (SigninEnvironment.semantics {}) 0 oneUser
        (.error invalidCredentials) w
      ∧ (signin sampleAuthConfig wrongPasscode).Evaluates (SigninEnvironment.semantics {}) 0
        (World.empty 1000) (.error (.error "Record to update not found.")) w'
      ∧ invalidCredentials ≠ .error "Record to update not found." := by
  have known : (signin sampleAuthConfig wrongPasscode).Evaluates (SigninEnvironment.semantics {}) 0
      oneUser (.error invalidCredentials)
      ((signin sampleAuthConfig wrongPasscode).after (SigninEnvironment.semantics {}) 0
        (List.replicate 4 { time := 1000 }) oneUser) :=
    Prog.evaluates_after (by decide +kernel)
  have unknown : (signin sampleAuthConfig wrongPasscode).Evaluates
    (SigninEnvironment.semantics {}) 0
      (World.empty 1000) (.error (.error "Record to update not found."))
      ((signin sampleAuthConfig wrongPasscode).after (SigninEnvironment.semantics {}) 0
        (List.replicate 4 { time := 1000 }) (World.empty 1000)) :=
    Prog.evaluates_after (by decide +kernel)
  exact ⟨_, _, differAt_alice, known, unknown, by decide⟩

end AcbuBackend.Auth

import AcbuBackend.Auth.AccountLockout

/-! How many second factors are compared for an account within one lockout duration.
A right passcode resets the counter that wrong codes raise, so a party that knows the passcode is
never locked out. The bound holds where no counter above zero is reset.
-/

namespace AcbuBackend.Auth

open Effects AcbuBackend.Runtime Challenge

-- The log of the comparisons

/-- The account whose second factor a call compares. -/
def AuthOp.checksCodeFor : AuthOp → Option UserId
  | .compareCode _ id _ _ | .checkTotp id _ _ => some id
  | _ => none

section

variable {i : Nat} {op : AuthOp} {x : Choice} {w w' : World} {reply : authInterface.Reply op}
    {id : UserId}

theorem codeChecks_of_effect (checks : op.checksCodeFor ≠ some id)
    : (effect x w op).2.codeChecks id = w.codeChecks id := by
  cases op with
  | compareCode _ other _ _ | checkTotp other _ _ =>
      refine if_neg fun same => checks ?_
      exact congrArg some same.symm
  | updateUser other _ _ =>
      simp only [effect, World.updateUser]
      split <;> rfl
  | createChallenge _ | useChallenge _ _ =>
      simp only [effect]
      split <;> rfl
  | _ => rfl

theorem codeChecks_of_checks (checks : op.checksCodeFor = some id)
    : (effect x w op).2.codeChecks id = w.clock :: w.codeChecks id := by
  cases op with
  | compareCode _ other _ _ | checkTotp other _ _ =>
      obtain rfl : other = id := Option.some.inj checks
      exact if_pos rfl
  | _ => cases checks

/-- A code that is compared and found wrong, or a call that compares none, makes a step of the
log; a reset makes one where nothing was compared.
-/
theorem codeChecks_logStep (wrong : op.checksCodeFor = some id → x.agrees = false)
    (reset : ∀ lockoutUntil, op = .updateUser id 0 lockoutUntil → w.codeChecks id = [])
    (h : authSemantics.act i op x w = some (reply, w'))
    : LogStep (fun w => w.codeChecks id) id ⟨op, reply⟩ x w w' := by
  cases failed : x.outcome.isFailed with
  | true =>
      obtain rfl := world_of_failed failed h
      exact ⟨fun _ => List.sublist_cons_self _ _, fun _ => List.Sublist.refl _,
        fun lockoutUntil resets _ => reset lockoutUntil resets⟩
  | false =>
      obtain ⟨-, ⟨failed', -⟩ | ⟨-, world⟩⟩ := auth_act_cases h
      · rw [failed] at failed'
        cases failed'
      · by_cases checks : op.checksCodeFor = some id
        · have logged : w'.codeChecks id = w'.clock :: w.codeChecks id := by
            rw [world, codeChecks_of_checks checks, clock_of_effect]
            rfl
          have found : verdict? ⟨op, reply⟩ = some (id, .ok false) := by
            cases op with
            | compareCode _ other _ _ | checkTotp other _ _ =>
                have answer : Except.ok x.agrees = reply :=
                  congrArg Prod.fst (effect_of_local rfl failed h)
                obtain rfl : other = id := Option.some.inj checks
                rw [← answer, wrong checks]
                rfl
            | _ => cases checks
          refine ⟨fun _ => logged ▸ List.Sublist.refl _, fun right => absurd found right, ?_⟩
          rintro lockoutUntil rfl
          cases checks
        · have same : w'.codeChecks id = w.codeChecks id := by
            rw [world]
            exact codeChecks_of_effect checks
          refine ⟨fun _ => same ▸ List.sublist_cons_self _ _,
            fun _ => same ▸ List.Sublist.refl _, ?_⟩
          exact fun lockoutUntil resets _ => same.trans (reset lockoutUntil resets)

end

-- Attempts on one account

/-- Only a counter at zero is reset. -/
def NoReset (id : UserId) (c : AttemptConfig) (i : Nat) : Prop :=
  match c.pending? i with
  | some (.updateUser other failedSigninAttempts _) =>
      other = id ∧ failedSigninAttempts = 0 →
        (c.world.users.lookup id).all (fun user => user.failedSigninAttempts = 0) = true
  | _ => True

instance {id : UserId} {c : AttemptConfig} {i : Nat} : Decidable (NoReset id c i) := by
  unfold NoReset
  rcases c.pending? i with _ | op
  · exact .isTrue trivial
  · cases op with
    | updateUser _ _ _ => exact inferInstance
    | _ => exact .isTrue trivial

/-- A code that is compared for the account is wrong. -/
def WrongCode (id : UserId) (c : AttemptConfig) (i : Nat) (x : Choice) : Prop :=
  (c.pending? i).bind AuthOp.checksCodeFor = some id → x.agrees = false

instance {id : UserId} {c : AttemptConfig} {i : Nat} {x : Choice}
    : Decidable (WrongCode id c i x) :=
  inferInstanceAs (Decidable (_ → _))

/-- The account is read by one attempt at a time, wrong guesses are counted, no counter above
zero is reset, and no code is right.
-/
def Guessing (config : AuthConfig) (id : UserId) (c : AttemptConfig) (i : Nat) (x : Choice)
    : Prop :=
  ReadAlone config id c i ∧ Counted config id c i x ∧ NoReset id c i ∧ WrongCode id c i x

instance {config : AuthConfig} {id : UserId} {c : AttemptConfig} {i : Nat} {x : Choice}
    : Decidable (Guessing config id c i x) :=
  inferInstanceAs (Decidable (_ ∧ _ ∧ _ ∧ _))

theorem unchecked_of_reset {config : AuthConfig} {id : UserId} {c : AttemptConfig} {i : Nat}
    {s : Lockout.State} {lockoutUntil : Option Nat} (governed : Attempts config c)
    (h : Represents config id (fun w => w.codeChecks id) c s)
    (sound : Lockout.Sound config.maxSigninAttempts config.signinLockoutDurationMs s)
    (zero : NoReset id c i) (live : c.live i = true)
    (asks : c.pending? i = some (.updateUser id 0 lockoutUntil))
    : c.world.codeChecks id = [] := by
  obtain ⟨stage', moved⟩ := governed.pending asks (.ok ())
  simp only [attemptProtocol, AttemptStage.next] at moved
  split at moved
  · rename_i allowed
    have idle : s.pending = .none := idle_of_reset (h.known i live) allowed
    obtain ⟨user, there, attempts, -⟩ := h.row
    unfold NoReset at zero
    rw [asks] at zero
    have none : user.failedSigninAttempts = 0 := by
      have zero := zero ⟨rfl, rfl⟩
      rw [there] at zero
      exact of_decide_eq_true zero
    have counted := sound.counted
    rw [if_pos idle] at counted
    have length := h.logged.length_le
    exact List.length_eq_zero_iff.mp (by omega)
  · cases moved

/-- Where the attempts on an account read it one at a time, wrong guesses are counted and no
counter above zero is reset, no lockout duration holds more comparisons of codes than the maximum
of attempts, as long as no code is right.
-/
theorem guesses_bounded (config : AuthConfig) (positive : 0 < config.maxSigninAttempts)
    (attempts : List Attempt) (id : UserId) (account : id ≠ "dummy-id") (w : World)
    (there : (w.users.lookup id).isSome = true) (unchecked : w.codeChecks id = [])
    (c : AttemptConfig)
    (reached : Config.Reaches authSemantics (Guessing config id) (attemptCalls config attempts w) c)
    (time : Nat)
    : Lockout.within config.signinLockoutDurationMs time (c.world.codeChecks id)
        ≤ config.maxSigninAttempts := by
  obtain ⟨user, there⟩ := Option.isSome_iff_exists.mp there
  have logs : ∀ (c c' : AttemptConfig) i x s op (reply : authInterface.Reply op),
    Attempts config c →
      Represents config id (fun w => w.codeChecks id) c s →
      Lockout.Sound config.maxSigninAttempts config.signinLockoutDurationMs s →
      Guessing config id c i x → c.live i = true → c.pending? i = some op →
      authSemantics.act i op x c.world = some (reply, c'.world) →
      LogStep (fun w => w.codeChecks id) id ⟨op, reply⟩ x c.world c'.world := by
    rintro c c' i x s op reply governed h sound ⟨-, -, zero, wrong⟩ live asks answered
    refine codeChecks_logStep (fun checks => wrong (by rw [asks]; exact checks)) ?_ answered
    rintro lockoutUntil rfl
    exact unchecked_of_reset governed h sound zero live asks
  obtain ⟨-, s, h, sound⟩ := represents_of_reaches positive account there unchecked
    (fun _ _ _ guessing => guessing.1) (fun _ _ _ guessing => guessing.2.1) logs reached
  exact (Lockout.within_le_of_sublist h.logged).trans (sound.window time)

-- Codes guessed by a party that knows the passcode

/-- A user with a passcode and a second factor. -/
def totpUser : World :=
  { World.empty 1000 with
    users := (∅ : AList (fun _ : UserId => User)).insert "user"
      { username := some "alice", passcodeHash := some "hash", twoFaMethod := some "totp",
        totpSecretEncrypted := some "secret" } }

def rightPasscode : Attempt :=
  .signin { identifier := "alice", passcode := "1234", ip := "10.0.0.1" }

def guessedCode (challenge_token : String) : Attempt :=
  .verify2fa 0 { challenge_token, code := "000000", ip := "10.0.0.1" }

/-- A whole sign-in with the right passcode. -/
def signinSteps (i time : Nat) : List (Nat × Choice) :=
  List.replicate 6 (i, { time := time, agrees := true })

/-- A whole call with a wrong code. -/
def guessSteps (i time : Nat) : List (Nat × Choice) :=
  List.replicate 11 (i, { time := time })

/-- One sign-in, and two codes after it. -/
theorem guesses_bounded_sequence
    : ∃ c, Config.Reaches authSemantics (Guessing sampleAuthConfig "user")
          (attemptCalls sampleAuthConfig
            [rightPasscode, guessedCode "challenge 1", guessedCode "challenge 2"] totpUser) c
        ∧ (c.world.codeChecks "user").length = 2
        ∧ ∀ time, Lockout.within 900000 time (c.world.codeChecks "user") ≤ 3 := by
  have executed :
      ((attemptCalls sampleAuthConfig
          [rightPasscode, guessedCode "challenge 1", guessedCode "challenge 2"] totpUser).run
        authSemantics (Guessing sampleAuthConfig "user")
        (signinSteps 0 1000 ++ guessSteps 1 1500 ++ guessSteps 2 2500)).map
        (fun c => (c.world.codeChecks "user").length) = some 2 := by
    decide +kernel
  obtain ⟨c, reached, count⟩ := Config.reaches_of_run executed
  exact ⟨c, reached, count, guesses_bounded sampleAuthConfig (by decide) _ "user"
    (by decide) totpUser
    (by decide +kernel) rfl c reached⟩

/-- The attempts of four rounds: the right passcode, then a wrong code. -/
def fourRounds : List Attempt :=
  [rightPasscode, guessedCode "challenge 1", rightPasscode, guessedCode "challenge 2",
    rightPasscode, guessedCode "challenge 3", rightPasscode, guessedCode "challenge 4"]

/-- Four codes are compared within four seconds, and the user is not locked. -/
theorem guesses_unbounded
    : ∃ c, Config.Reaches authSemantics Config.anyStep
          (attemptCalls sampleAuthConfig fourRounds totpUser) c
        ∧ Lockout.within 900000 1000 (c.world.codeChecks "user") = 4
        ∧ [1, 3, 5, 7].map c.error? = List.replicate 4 (some invalidCode)
        ∧ (c.world.users.lookup "user").map User.lockoutUntil = some none := by
  have executed :
      ((attemptCalls sampleAuthConfig fourRounds totpUser).run authSemantics Config.anyStep
        (signinSteps 0 1000 ++ guessSteps 1 1500 ++ signinSteps 2 2000 ++ guessSteps 3 2500
          ++ signinSteps 4 3000 ++ guessSteps 5 3500 ++ signinSteps 6 4000
            ++ guessSteps 7 4500)).map
        (fun c => (Lockout.within 900000 1000 (c.world.codeChecks "user"),
          [1, 3, 5, 7].map c.error?, (c.world.users.lookup "user").map User.lockoutUntil))
        = some (4, List.replicate 4 (some invalidCode), some none) := by
    decide +kernel
  obtain ⟨c, reached, values⟩ := Config.reaches_of_run executed
  obtain ⟨count, values⟩ := Prod.mk.inj values
  exact ⟨c, reached, count, Prod.mk.inj values⟩

end AcbuBackend.Auth

import AcbuBackend.Auth.AccountLockout

/-! The lock of an account after wrong passcodes.
A failed sign-in writes back the counter it read before the comparison, so of several at once
only one is counted. Read one at a time, an account is locked from the last wrong passcode on.
-/

namespace AcbuBackend.Auth

open Effects AcbuBackend.Runtime Challenge
open AcbuBackend.Runtime.Lockout (Open Pending)

section

variable {i : Nat} {op : AuthOp} {x : Choice} {w w' : World} {reply : authInterface.Reply op}
    {id : UserId}

theorem wrongPasscodes_of_effect (compares : op.comparesFor = none) (writes : op.writesUser = none)
    : (effect x w op).2.wrongPasscodes = w.wrongPasscodes := by
  cases op with
  | comparePasscode _ _ _ | compareCode _ _ _ _ | checkTotp _ _ _ => cases compares
  | updateUser _ _ _ => cases writes
  | createChallenge _ | useChallenge _ _ =>
      simp only [effect]
      split <;> rfl
  | _ => rfl

theorem wrongPasscodes_updateUser {other : UserId} {failedSigninAttempts : Nat}
    {lockoutUntil : Option Nat}
    : (w.updateUser other failedSigninAttempts lockoutUntil).2.wrongPasscodes id
        = w.wrongPasscodes id
      ∨ (w.updateUser other failedSigninAttempts lockoutUntil).2.wrongPasscodes id = [] := by
  unfold World.updateUser
  split
  · exact .inl rfl
  · by_cases reset : id = other ∧ failedSigninAttempts = 0
    · exact .inr (if_pos reset)
    · exact .inl (if_neg reset)

theorem logStep_of_same {log : World → List Nat} (same : log w' = log w)
    (writes : ∀ lockoutUntil, op ≠ .updateUser id 0 lockoutUntil)
    : LogStep log id ⟨op, reply⟩ x w w' where
  wrong _ := same ▸ List.sublist_cons_self _ _
  other _ := same ▸ List.Sublist.refl _
  reset lockoutUntil resets _ := absurd resets (writes lockoutUntil)

theorem wrongPasscodes_logStep {user : User} (there : w.users.lookup id = some user)
    (h : authSemantics.act i op x w = some (reply, w'))
    : LogStep (fun w => w.wrongPasscodes id) id ⟨op, reply⟩ x w w' := by
  cases failed : x.outcome.isFailed with
  | true =>
      obtain rfl := world_of_failed failed h
      refine ⟨fun _ => List.sublist_cons_self _ _, fun _ => List.Sublist.refl _, fun _ _ done => ?_⟩
      rw [failed] at done
      cases done
  | false =>
      obtain ⟨-, ⟨failed', -⟩ | ⟨-, world⟩⟩ := auth_act_cases h
      · rw [failed] at failed'
        cases failed'
      · cases op with
        | comparePasscode other passcode hash =>
            have answer : Except.ok x.agrees = reply :=
              congrArg Prod.fst (effect_of_local rfl failed h)
            obtain rfl := world
            refine ⟨fun _ => ?_, fun right => ?_, fun _ resets => by cases resets⟩
            · simp only [effect, World.comparePasscode]
              split
              · exact List.Sublist.refl _
              · exact List.sublist_cons_self _ _
            · have kept : ¬ (id = other ∧ x.agrees = false) := by
                rintro ⟨rfl, wrong⟩
                exact right (by rw [← answer, wrong]; rfl)
              simp only [effect, World.comparePasscode, if_neg kept]
              exact List.Sublist.refl _
        | compareCode _ _ _ _ | checkTotp _ _ _ =>
            exact logStep_of_same (by rw [world]; rfl) (fun _ => by simp)
        | updateUser other failedSigninAttempts lockoutUntil =>
            obtain rfl := world
            refine ⟨fun wrong => ?_, fun _ => ?_, fun lockoutUntil resets _ => ?_⟩
            · cases wrong
            · change (((w.atTime x.time).updateUser other failedSigninAttempts
                lockoutUntil).2.wrongPasscodes
                id).Sublist _
              rcases wrongPasscodes_updateUser with same | none
              · rw [same]
                exact List.Sublist.refl _
              · rw [none]
                exact List.nil_sublist _
            · cases resets
              simp [effect, World.updateUser, World.atTime, there]
        | _ =>
            exact logStep_of_same (by rw [world, wrongPasscodes_of_effect rfl rfl]; rfl)
              (fun _ => by simp)

end

-- Sign-ins on one account

/-- The account is read by one sign-in at a time, and wrong guesses are counted. -/
def Serialized (config : AuthConfig) (id : UserId) (c : AttemptConfig) (i : Nat) (x : Choice)
    : Prop :=
  ReadAlone config id c i ∧ Counted config id c i x

instance {config : AuthConfig} {id : UserId} {c : AttemptConfig} {i : Nat} {x : Choice}
    : Decidable (Serialized config id c i x) :=
  inferInstanceAs (Decidable (_ ∧ _))

/-- Every wrong guess on the account has been counted. -/
def AllCounted (config : AuthConfig) (id : UserId) (c : AttemptConfig) : Prop :=
  ∀ i < c.threads.length, ¬ (attemptStage config c i).owesFor id

instance {config : AuthConfig} {id : UserId} {c : AttemptConfig}
    : Decidable (AllCounted config id c) :=
  inferInstanceAs (Decidable (∀ i < c.threads.length, _))

/-- The account is locked for the whole duration after each of its wrong passcodes. -/
def LockedOut (config : AuthConfig) (id : UserId) (w : World) : Prop :=
  ∃ user lockedUntil, w.users.lookup id = some user
    ∧ user.lockoutUntil = some lockedUntil
    ∧ ∀ time ∈ w.wrongPasscodes id, time + config.signinLockoutDurationMs ≤ lockedUntil

/-- The account is locked until a time that has not come. -/
def InForce (id : UserId) (w : World) (lockedUntil : Nat) : Prop :=
  ∃ user, w.users.lookup id = some user
    ∧ user.lockoutUntil = some lockedUntil
    ∧ w.clock < lockedUntil

/-- The account is locked until a time. -/
def LockedUntil (id : UserId) (w : World) (lockedUntil : Nat) : Prop :=
  ∃ user, w.users.lookup id = some user ∧ user.lockoutUntil = some lockedUntil

section

variable {config : AuthConfig} {id : UserId} {log : World → List Nat} {c c' : AttemptConfig}
  {s : Lockout.State}

theorem lockedOut_of_represents (governed : Attempts config c)
    (h : Represents config id (fun w => w.wrongPasscodes id) c s)
    (sound : Lockout.Sound config.maxSigninAttempts config.signinLockoutDurationMs s)
    (positive : 0 < config.maxSigninAttempts) (counted : AllCounted config id c)
    (reached : config.maxSigninAttempts ≤ (c.world.wrongPasscodes id).length)
    : LockedOut config id c.world := by
  have idle : s.pending = .none := by
    by_contra pending
    obtain ⟨i, owes⟩ := h.owed pending
    exact counted i (Config.lt_of_live (live_of_owes governed owes.2)) owes
  have length := h.logged.length_le
  have many : config.maxSigninAttempts ≤ s.attempts := by
    have counted := sound.counted
    rw [if_pos idle] at counted
    omega
  obtain ⟨user, there, -, lock⟩ := h.row
  cases guesses : c.world.wrongPasscodes id with
  | nil =>
      rw [guesses] at reached
      exact absurd reached (Nat.not_le.mpr positive)
  | cons newest older =>
      have member : ∀ time ∈ c.world.wrongPasscodes id, time ∈ s.guesses :=
        fun time member => h.logged.subset member
      obtain ⟨lockedUntil, locked, -⟩ := sound.locked idle many newest
        (member newest (guesses ▸ List.mem_cons_self))
      refine ⟨user, lockedUntil, there, lock.trans locked, fun time logged => ?_⟩
      obtain ⟨other, locked', after⟩ := sound.locked idle many time (member time logged)
      obtain rfl := Option.some.inj (locked.symm.trans locked')
      exact after

theorem lock_kept {i : Nat} {x : Choice} (governed : Attempts config c)
    (h : Represents config id log c s)
    (sound : Lockout.Sound config.maxSigninAttempts config.signinLockoutDurationMs s)
    (stepped : c.step authSemantics i x = some c') {lockedUntil : Nat}
    (inForce : InForce id c.world lockedUntil)
    : LockedUntil id c'.world lockedUntil := by
  obtain ⟨op, reply, live, -, answered, moved, -, -, -⟩ := governed.step_cases stepped
  obtain ⟨user, there, lock, before⟩ := inForce
  obtain ⟨user', there', -, lock'⟩ := h.row
  obtain rfl := Option.some.inj (there.symm.trans there')
  have closed : ¬ Open s.lockedUntil s.clock := by
    intro isOpen
    have passed := isOpen lockedUntil (lock'.symm.trans lock)
    rw [h.clock] at passed
    exact absurd passed (Nat.not_le.mpr before)
  have known := h.known i live
  have unwritten : c'.world.users.lookup id = c.world.users.lookup id := by
    cases writes : op.writesUser with
    | none => rw [users_of_act writes answered]
    | some other =>
        cases op with
        | updateUser other failedSigninAttempts lockoutUntil =>
            by_cases mine : other = id
            · exfalso
              subst mine
              simp only [attemptProtocol, AttemptStage.next] at moved
              split at moved
              · rename_i allowed
                exact closed (open_of_mayWrite sound known allowed)
              · cases moved
            · exact unwritten_of_act answered mine
        | _ => cases writes
  exact ⟨user, unwritten.trans there, lock⟩

end

/-- Where an account is read by one sign-in at a time and wrong guesses are counted, it is locked
once the maximum of wrong passcodes is reached, and no step clears or moves a lock in force.
-/
theorem lock_holds (config : AuthConfig) (positive : 0 < config.maxSigninAttempts)
    (calls : List SigninParams) (id : UserId) (account : id ≠ "dummy-id") (w : World)
    (there : (w.users.lookup id).isSome = true) (unguessed : w.wrongPasscodes id = [])
    (c : AttemptConfig)
    (reached : Config.Reaches authSemantics (Serialized config id)
      (attemptCalls config (calls.map .signin) w) c)
    : (config.maxSigninAttempts ≤ (c.world.wrongPasscodes id).length → AllCounted config id c →
        LockedOut config id c.world)
      ∧ ∀ i x c' lockedUntil, Serialized config id c i x → c.step authSemantics i x = some c' →
          InForce id c.world lockedUntil → LockedUntil id c'.world lockedUntil := by
  obtain ⟨user, there⟩ := Option.isSome_iff_exists.mp there
  obtain ⟨governed, s, h, sound⟩ := represents_of_reaches positive account there unguessed
    (fun _ _ _ serialized => serialized.1) (fun _ _ _ serialized => serialized.2)
    (fun c c' i x s op reply _ h _ _ _ _ answered => by
      obtain ⟨user, there, -⟩ := h.row
      exact wrongPasscodes_logStep there answered) reached
  constructor
  · exact fun full counted => lockedOut_of_represents governed h sound positive counted full
  · exact fun i x c' lockedUntil _ stepped inForce => lock_kept governed h sound stepped inForce

-- Wrong passcodes of one user

def wrongSignins (count : Nat) : List SigninParams :=
  List.replicate count { identifier := "alice", passcode := "0000", ip := "10.0.0.1" }

/-- Some steps of a call, all at a time; no comparison agrees. -/
def stepsOf (i time count : Nat) : List (Nat × Choice) :=
  List.replicate count (i, { time := time })

/-- After three wrong passcodes, one after the other, the user is locked. -/
theorem lock_holds_sequence
    : ∃ c, Config.Reaches authSemantics (Serialized sampleAuthConfig "user")
          (attemptCalls sampleAuthConfig ((wrongSignins 3).map .signin) oneUser) c
        ∧ LockedOut sampleAuthConfig "user" c.world := by
  have executed :
      ((attemptCalls sampleAuthConfig ((wrongSignins 3).map .signin) oneUser).run authSemantics
        (Serialized sampleAuthConfig "user")
        (stepsOf 0 1000 4 ++ stepsOf 1 2000 4 ++ stepsOf 2 3000 5)).map
        (fun c => (decide (3 ≤ (c.world.wrongPasscodes "user").length),
          decide (AllCounted sampleAuthConfig "user" c)))
        = some (true, true) := by
    decide +kernel
  obtain ⟨c, reached, values⟩ := Config.reaches_of_run executed
  obtain ⟨full, counted⟩ := Prod.mk.inj values
  have holds := lock_holds sampleAuthConfig (by decide) (wrongSignins 3) "user" (by decide) oneUser
    (by decide +kernel) rfl c reached
  exact ⟨c, reached, holds.1 (of_decide_eq_true full) (of_decide_eq_true counted)⟩

/-- A sign-in that read the account before three others failed on it clears their lock. -/
theorem lock_cleared
    : ∃ c c', Config.Reaches authSemantics Config.anyStep
          (attemptCalls sampleAuthConfig ((wrongSignins 4).map .signin) oneUser) c
        ∧ c.step authSemantics 0 { time := 3000 } = some c'
        ∧ (c.world.users.lookup "user").map User.lockoutUntil = some (some 903000)
        ∧ (c'.world.users.lookup "user").map User.lockoutUntil = some none
        ∧ (c'.world.wrongPasscodes "user").length = 4 := by
  have executed :
      ((attemptCalls sampleAuthConfig ((wrongSignins 4).map .signin) oneUser).run authSemantics
        Config.anyStep
        (stepsOf 0 1000 3 ++ stepsOf 1 1000 4 ++ stepsOf 2 2000 4 ++ stepsOf 3 3000 5)).map
        (fun c => ((c.world.users.lookup "user").map User.lockoutUntil,
          (c.step authSemantics 0 { time := 3000 }).map (fun c' =>
            ((c'.world.users.lookup "user").map User.lockoutUntil,
              (c'.world.wrongPasscodes "user").length))))
        = some (some (some 903000), some (some none, 4)) := by
    decide +kernel
  obtain ⟨c, reached, values⟩ := Config.reaches_of_run executed
  obtain ⟨locked, stepped⟩ := Prod.mk.inj values
  obtain ⟨c', stepped, later⟩ := Option.map_eq_some_iff.mp stepped
  obtain ⟨cleared, count⟩ := Prod.mk.inj later
  exact ⟨c, c', reached, stepped, locked, cleared, count⟩

end AcbuBackend.Auth

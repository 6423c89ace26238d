import AcbuBackend.Wallet.WalletStateService

/-! How a wallet call proceeds: an enrolment reads its user first, every call updates at most once,
and it succeeds if and only if its update was answered with a changed row.
-/

namespace AcbuBackend.Wallet

open Effects Effects.Prog AcbuBackend.Runtime

/-- How far a call has come. -/
inductive Stage
  | fresh
  | checked
  | succeeded
  | failed
deriving DecidableEq

structure Phase where
  call : WalletCall
  stage : Stage := .fresh

def WalletCall.version? (call : WalletCall) : Option ℤ :=
  Transfer.parseIfMatchHeader call.ifMatch

def afterRead (stellarAddress : String) : Except JsError (Option (Option String)) → Stage
  | .ok found => if otherEnrolled found stellarAddress then .fresh else .checked
  | .error _ => .fresh

/-- The stage after an update, by the number of rows it has changed. -/
def afterUpdate : Except JsError Nat → Stage
  | .ok count => if count = 0 then .failed else .succeeded
  | .error _ => .failed

/-- An enrolment updates after it has read its user, another call at once. -/
def Phase.mayUpdate (phase : Phase) : Bool :=
  match phase.call.enrolled?, phase.stage with
  | some _, .checked => true
  | none, .fresh => true
  | _, _ => false

def walletProtocol : Protocol walletInterface Phase where
  next phase
    | .findUser id, reply =>
        match phase.call.enrolled?, phase.stage with
        | some stellarAddress, .fresh =>
            if id = phase.call.userId then some
              { phase with stage := afterRead stellarAddress reply } else none
        | _, _ => none
    | .updateMany id walletVersion data, reply =>
        if phase.mayUpdate = true ∧ id = phase.call.userId
          ∧ phase.call.version? = some walletVersion
            ∧ data = phase.call.data
        then some { phase with stage := afterUpdate reply }
        else none

variable {dep : Deployment} {phase phase' : Phase}

theorem next_findUser {id : UserId} {reply : Except JsError (Option (Option String))}
    (moved : walletProtocol.next phase (.findUser id) reply = some phase')
    : id = phase.call.userId ∧ ∃ stellarAddress, phase.call.enrolled? = some stellarAddress
      ∧ phase' = { phase with stage := afterRead stellarAddress reply } := by
  simp only [walletProtocol] at moved
  split at moved
  · rename_i stellarAddress enrols fresh
    obtain ⟨same, moved⟩ := Option.ite_none_right_eq_some.mp moved
    exact ⟨same, stellarAddress, enrols, (Option.some.inj moved).symm⟩
  · cases moved

theorem next_updateMany {id : UserId} {walletVersion : ℤ} {data : WalletUpdate}
    {reply : Except JsError Nat}
    (moved : walletProtocol.next phase (.updateMany id walletVersion data) reply = some phase')
    : phase.mayUpdate = true ∧ id = phase.call.userId ∧ phase.call.version? = some walletVersion
      ∧ data = phase.call.data ∧ phase' = { phase with stage := afterUpdate reply } := by
  obtain ⟨⟨allowed, same, version, written⟩, moved⟩ := Option.ite_none_right_eq_some.mp moved
  exact ⟨allowed, same, version, written, (Option.some.inj moved).symm⟩

theorem next_call {op : WalletOp} {reply : walletInterface.Reply op}
    (moved : walletProtocol.next phase op reply = some phase')
    : phase'.call = phase.call := by
  cases op with
  | findUser id =>
      obtain ⟨-, _, -, rfl⟩ := next_findUser moved
      rfl
  | updateMany id walletVersion data =>
      obtain ⟨-, -, -, -, rfl⟩ := next_updateMany moved
      rfl

-- The programs

/-- A call ends with the version after the one it named if it has succeeded, and else with an error.
-/
abbrev Ends (prog : Prog walletInterface ℤ) (phase : Phase) : Prop :=
  walletProtocol.wp prog phase
    (fun _ phase' => phase'.stage = .succeeded)
    (fun _ phase' => phase'.stage ≠ .succeeded)

theorem ends_update (phase : Phase) {data : WalletUpdate} (allowed : phase.mayUpdate = true)
    (written : data = phase.call.data) (notYet : phase.stage ≠ .succeeded)
    : Ends (updateWalletWithConcurrency phase.call.userId phase.call.ifMatch data) phase := by
  unfold updateWalletWithConcurrency
  refine Protocol.wp_bind.mpr (Protocol.wp_fromExcept.mpr
    ⟨fun version named => ?_, fun _ _ => notYet⟩)
  have known : phase.call.version? = some version := by
    unfold assertIfMatchHeaderPresent at named
    split at named
    · cases named
    · rename_i parsed
      rw [WalletCall.version?, parsed, Except.ok.inj named]
  have moved : ∀ reply, walletProtocol.next phase (.updateMany phase.call.userId version data) reply
      = some { phase with stage := afterUpdate reply } :=
    fun reply => if_pos ⟨allowed, rfl, known, written⟩
  refine Protocol.wp_bind.mpr (Protocol.wp_await.mpr
    ⟨fun count => ⟨_, moved _, ?_⟩, fun error => ⟨_, moved _, by simp [afterUpdate]⟩⟩)
  by_cases none : count = 0 <;> simp [none, afterUpdate]

theorem ends_prog (call : WalletCall) : Ends (call.prog dep) { call } := by
  cases call with
  | reserve userId ifMatch => exact ends_update ⟨.reserve userId ifMatch, .fresh⟩ rfl rfl nofun
  | update userId ifMatch data =>
      exact ends_update ⟨.update userId ifMatch data, .fresh⟩ rfl rfl nofun
  | enroll userId ifMatch params =>
      unfold WalletCall.prog enrollClientGeneratedWallet
      refine Protocol.wp_bind.mpr (Protocol.wp_fromExcept.mpr ⟨fun _ _ => ?_, fun _ _ => nofun⟩)
      have moved : ∀ reply, walletProtocol.next { call := .enroll userId ifMatch params }
        (.findUser userId) reply
          = some ⟨.enroll userId ifMatch params, afterRead params.stellarAddress reply⟩ :=
        fun reply => if_pos rfl
      refine Protocol.wp_bind.mpr (Protocol.wp_await.mpr
        ⟨fun found => ⟨_, moved _, ?_⟩, fun error => ⟨_, moved _, nofun⟩⟩)
      refine Protocol.wp_bind.mpr (Protocol.wp_ensure.mpr ⟨fun free => ?_, fun taken => ?_⟩)
      · have checked : afterRead params.stellarAddress (.ok found) = .checked := by
          rw [afterRead, if_neg (by simpa using free)]
        rw [checked]
        refine Protocol.wp_bind.mpr (Protocol.wp_fromExcept.mpr ⟨fun _ _ => ?_, fun _ _ => nofun⟩)
        exact ends_update ⟨.enroll userId ifMatch params, .checked⟩ rfl rfl nofun
      · have taken : otherEnrolled found params.stellarAddress = true := by simpa using taken
        simp [afterRead, taken]

-- Runs

variable {calls : List WalletCall}

/-- Every call keeps to the protocol. -/
abbrev Governed (calls : List WalletCall) (c : WalletConfig) : Prop :=
  walletProtocol.Governs (fun i => { call := callAt calls i })
    (fun _ _ phase => phase.stage = .succeeded) (fun _ _ phase => phase.stage ≠ .succeeded) c

/-- The stage call `i` has come to. -/
def stageOf (calls : List WalletCall) (c : WalletConfig) (i : Nat) : Stage :=
  (walletProtocol.phase (fun i => { call := callAt calls i }) c i).stage

theorem governed_initial {users : AList (fun _ : UserId => UserRow)}
    : Governed calls (initialConfig dep calls users) := by
  apply Protocol.governs_initial
  intro i prog found
  rw [List.getElem?_map, Option.map_eq_some_iff] at found
  obtain ⟨call, found, rfl⟩ := found
  simp only [callAt, found, Option.getD_some]
  exact ends_prog call

theorem stageOf_initial {users : AList (fun _ : UserId => UserRow)} (i : Nat)
    : stageOf calls (initialConfig dep calls users) i = .fresh := by
  simp [stageOf, initialConfig]

theorem replay_call {start phase : Phase} {past : List (Event walletInterface)}
    (h : walletProtocol.replay start past = some phase)
    : phase.call = start.call := by
  induction past generalizing phase with
  | nil => rw [Option.some.inj h]
  | cons event older ih =>
      obtain ⟨before, replayed, moved⟩ := Option.bind_eq_some_iff.mp h
      rw [next_call moved, ih replayed]

theorem phase_call (c : WalletConfig) (i : Nat)
    : (walletProtocol.phase (fun i => { call := callAt calls i }) c i).call = callAt calls i := by
  unfold Protocol.phase
  cases replayed : walletProtocol.replay { call := callAt calls i } (c.past i) with
  | none => rfl
  | some phase => exact replay_call replayed

theorem phase_eq (c : WalletConfig) (i : Nat)
    : walletProtocol.phase (fun i => { call := callAt calls i }) c i
      = ⟨callAt calls i, stageOf calls c i⟩ := by
  rw [← phase_call c i]
  rfl

theorem succeeded_of_value {c : WalletConfig} {i : Nat} {version : ℤ} (governed : Governed calls c)
    (ended : c.value? i = some version)
    : stageOf calls c i = .succeeded :=
  governed.value ended

theorem open_of_next {op : WalletOp} {reply : walletInterface.Reply op}
    (moved : walletProtocol.next phase op reply = some phase')
    : phase.stage ≠ .succeeded := by
  obtain ⟨call, stage⟩ := phase
  rintro (rfl : stage = _)
  cases op with
  | findUser id =>
      simp only [walletProtocol] at moved
      split at moved
      · cases ‹Stage.succeeded = Stage.fresh›
      · cases moved
  | updateMany id walletVersion data =>
      obtain ⟨allowed, -⟩ := next_updateMany moved
      unfold Phase.mayUpdate at allowed
      split at allowed
      · cases ‹Stage.succeeded = Stage.checked›
      · cases ‹Stage.succeeded = Stage.fresh›
      · cases allowed

theorem value_of_succeeded {c : WalletConfig} {i : Nat} (governed : Governed calls c)
    (done : stageOf calls c i = .succeeded)
    : (c.value? i).isSome = true := by
  cases found : c.threads[i]? with
  | none =>
      rw [stageOf, Protocol.phase_of_none _ found] at done
      cases done
  | some thread =>
      obtain ⟨prog, past⟩ := thread
      have rest := (governed.phase_eq found).2
      cases prog with
      | done value => simp [Config.value?, found, Prog.value?]
      | fail error => exact absurd done rest
      | call op next =>
          obtain ⟨_, moved, -⟩ := rest (.error .uniqueConstraint)
          exact absurd done (open_of_next moved)

theorem succeeded_iff {c : WalletConfig} {i : Nat} (governed : Governed calls c)
    : stageOf calls c i = .succeeded ↔ (c.value? i).isSome = true := by
  refine ⟨value_of_succeeded governed, fun ended => ?_⟩
  obtain ⟨version, ended⟩ := Option.isSome_iff_exists.mp ended
  exact succeeded_of_value governed ended

/-- What a step of a wallet call does: it reads its user, or it updates. -/
inductive WalletMove (call : WalletCall) (x : Choice) (w w' : World) (stage : Stage) : Stage → Prop
  | read {stellarAddress : String} (enrols : call.enrolled? = some stellarAddress)
    (reply : Except JsError (Option (Option String)))
    (seen : ∀ found, reply = .ok found → found = (w.users.lookup call.userId).map
      (·.stellarAddress))
    (same : w' = w)
    : WalletMove call x w w' stage (afterRead stellarAddress reply)
  | missed (same : w' = w) : WalletMove call x w w' stage .failed
  | wrote {row : UserRow} (allowed : Phase.mayUpdate ⟨call, stage⟩ = true)
    (found : w.users.lookup call.userId = some row) (named : call.version? = some row.walletVersion)
    (left : w'.users = w.users.insert call.userId (row.apply call.data))
    : WalletMove call x w w' stage .succeeded
  | unreported {row : UserRow} (lost : x.outcome.isLost = true)
    (allowed : Phase.mayUpdate ⟨call, stage⟩ = true)
    (found : w.users.lookup call.userId = some row) (named : call.version? = some row.walletVersion)
    (left : w'.users = w.users.insert call.userId (row.apply call.data))
    : WalletMove call x w w' stage .failed

theorem updateMany_cases (w : World) (id : UserId) (walletVersion : ℤ) (data : WalletUpdate)
    : w.updateMany id walletVersion data = (0, w)
      ∨ ∃ row, w.users.lookup id = some row ∧ row.walletVersion = walletVersion
        ∧ w.updateMany id walletVersion data
          = (1, { w with users := w.users.insert id (row.apply data) }) := by
  unfold World.updateMany
  split
  · exact .inl rfl
  · rename_i row found
    split
    · rename_i named
      exact .inr ⟨row, found, named, rfl⟩
    · exact .inl rfl

theorem WalletMove.of_update {call : WalletCall} {stage : Stage} {i : Nat} {x : Choice}
    {w w' : World}
    {walletVersion : ℤ} {reply : Except JsError Nat}
    (allowed : Phase.mayUpdate ⟨call, stage⟩ = true)
    (named : call.version? = some walletVersion)
    (answered : walletSemantics.act i (.updateMany call.userId walletVersion call.data) x w
      = some (reply, w'))
    : WalletMove call x w w' stage (afterUpdate reply) := by
  obtain ⟨-, answered⟩ := Environment.act_eq_some answered
  have answered : x.outcome.answer (effect w (.updateMany call.userId walletVersion call.data)) w
    = (reply, w') :=
    answered
  simp only [effect] at answered
  rcases updateMany_cases w call.userId walletVersion call.data with none | ⟨row, found, rfl, one⟩
  · rw [none] at answered
    have same : w' = w := by rcases Outcome.answer_world answered with same | same <;> exact same
    have failed : afterUpdate reply = .failed := by
      cases reply with
      | error _ => rfl
      | ok count =>
          obtain ⟨-, told⟩ := Outcome.answer_ok answered
          obtain rfl := Except.ok.inj (Prod.mk.inj told).1
          rfl
    exact failed ▸ .missed same
  · rw [one] at answered
    cases outcome : x.outcome with
    | done =>
        rw [outcome] at answered
        obtain ⟨rfl, rfl⟩ := Prod.mk.inj answered
        exact .wrote allowed found named rfl
    | failed error =>
        rw [outcome] at answered
        obtain ⟨rfl, rfl⟩ := Prod.mk.inj answered
        exact .missed rfl
    | lost error =>
        rw [outcome] at answered
        obtain ⟨rfl, rfl⟩ := Prod.mk.inj answered
        exact .unreported (by rw [outcome]; rfl) allowed found named rfl

theorem wallet_step {c c' : WalletConfig} {i : Nat} {x : Choice} (governed : Governed calls c)
    (stepped : c.step walletSemantics i x = some c')
    : WalletMove (callAt calls i) x c.world c'.world (stageOf calls c i) (stageOf calls c' i)
      ∧ stageOf calls c i ≠ .succeeded
      ∧ ∀ j, j ≠ i → stageOf calls c' j = stageOf calls c j := by
  obtain ⟨op, reply, -, -, answered, moved, -, others, -⟩ := governed.step_cases stepped
  refine ⟨?_, open_of_next moved, fun j other => congrArg Phase.stage (others j other).1⟩
  rw [phase_eq, phase_eq] at moved
  cases op with
  | findUser id =>
      obtain ⟨rfl, stellarAddress, enrols, next⟩ := next_findUser moved
      rw [(Phase.mk.inj next).2]
      obtain ⟨-, answered⟩ := Environment.act_eq_some answered
      refine .read enrols reply (fun found told => ?_) ?_
      · subst told
        exact (Except.ok.inj (Prod.mk.inj (Outcome.answer_ok answered).2).1).symm
      · rcases Outcome.answer_world answered with same | same <;> exact same
  | updateMany id walletVersion data =>
      obtain ⟨allowed, rfl, named, rfl, next⟩ := next_updateMany moved
      rw [(Phase.mk.inj next).2]
      exact .of_update allowed named answered

-- A user with two wallets to enrol

def firstAddress : String :=
  "GA5ZSEJYB37JRC5AVCIA5MOP4RHTM335X2KGX3IHOJAPP5RE34K4KZVN"

def secondAddress : String :=
  "GDHO63RZEUNDRVF6WA7HD4D7PLNLUMSK5H74ONW3MEF3VKF4BZJ6GDML"

def sampleDeployment : Deployment where
  isValidEd25519PublicKey address := [firstAddress, secondAddress].contains address
  isValidEd25519SecretSeed _ := false
  base64Bytes _ := []
  utf8Text _ := ""

/-- A user without a wallet. -/
def sampleUsers : AList (fun _ : UserId => UserRow) :=
  (∅ : AList (fun _ : UserId => UserRow)).insert "user" {}

def sampleEnrolment (ifMatch address : String) : WalletCall :=
  .enroll "user" (some ifMatch) { stellarAddress := address }

end AcbuBackend.Wallet

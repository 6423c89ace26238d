import AcbuBackend.Breaker.TraceLaw
import AcbuBackend.Stellar.BuildTransaction

/-! The breaker of the Stellar client, in runs of the requests it guards.
A call that the breaker refuses throws inside the `try` whose handler records failures, and so
records one itself.
-/

namespace AcbuBackend.Breaker

open Effects Effects.Prog AcbuBackend.Runtime
open Stellar (StellarOp stellarInterface Transaction)

def horizonBreaker : CircuitBreakerOptions where
  failureThreshold := 3
  cooldownMs := 30000
  successThreshold := 2

/-- What Horizon answers a submission with. -/
structure SubmitResult where
  hash : String := ""
  ledger : Nat := 0

inductive ClientOp
  | stellar (op : StellarOp)
  | submitTransaction (transaction : Transaction)

abbrev ClientOp.Ret : ClientOp → Type
  | .stellar op => op.Ret
  | .submitTransaction _ => SubmitResult

abbrev clientInterface : Interface where
  Op := ClientOp
  Ret := ClientOp.Ret
  Err := JsError

abbrev request (op : ClientOp) : Prog clientInterface op.Ret :=
  Prog.await (I := clientInterface) op

def stellarCalls : Inclusion stellarInterface clientInterface where
  op := .stellar
  value _ value := value
  error := id
  throws := id

def submitRefused : JsError := .error "Horizon circuit breaker is OPEN — cannot submit transaction"

def submitTransaction (transaction : Transaction) : Prog clientInterface SubmitResult :=
  catchWith
    (do
      let allowed ← request (.stellar .canExecute)
      ensure allowed submitRefused
      let result ← request (.submitTransaction transaction)
      request (.stellar .recordSuccess)
      pure result)
    (fun error => do
      request (.stellar .recordFailure)
      .fail error)

inductive ClientCall
  | getAccount (accountId : String) (retries : Nat)
  | submitTransaction (transaction : Transaction)

def ClientCall.program : ClientCall → Prog clientInterface Unit
  | .getAccount accountId retries => do
      let _ ← (Stellar.getAccount accountId retries).within stellarCalls
      pure ()
  | .submitTransaction transaction => do
      let _ ← Breaker.submitTransaction transaction
      pure ()

-- Runs

structure ClientWorld where
  breaker : CircuitBreaker := {}
  /-- The caller that has been refused and has not yet recorded a failure for it. -/
  refused : Option Nat := none
  /-- When a request that was let through last recorded its failure. -/
  failedAt : Option ℚ := none

structure ClientChoice where
  outcome : Outcome JsError := .done
  /-- The clock when the call is made. -/
  now : ℚ
  number : Nat := 0
  result : SubmitResult := {}

/-- Horizon answers as it likes. The breaker's own calls do not fail. -/
def ClientOp.reachesNetwork : ClientOp → Bool
  | .stellar (.loadAccount _) | .stellar .fetchBaseFee | .submitTransaction _ => true
  | .stellar _ => false

def clientEffect (i : Nat) (x : ClientChoice) (w : ClientWorld)
    : (op : ClientOp) → Except JsError op.Ret × ClientWorld
  | .stellar .canExecute =>
      let (allowed, breaker) := w.breaker.canExecute horizonBreaker x.now
      (.ok allowed, { w with breaker, refused := if allowed then none else some i })
  | .stellar .recordSuccess =>
      (.ok (), { w with breaker := w.breaker.recordSuccess horizonBreaker })
  | .stellar .recordFailure =>
      (.ok (),
        { breaker := w.breaker.recordFailure horizonBreaker x.now
          refused := none
          failedAt := if w.refused.isSome then w.failedAt else some x.now })
  | .stellar (.build _) => (.ok (), w)
  | .stellar (.loadAccount _) | .stellar .fetchBaseFee => (.ok x.number, w)
  | .submitTransaction _ => (.ok x.result, w)

/-- A caller that is refused goes on to its handler before any other call is made: there is no
`await` in between.
-/
def clientSemantics : Semantics clientInterface ClientWorld ClientChoice where
  act i op x w :=
    if w.refused.all (· = i) ∧ 0 < x.now ∧ (op.reachesNetwork ∨ x.outcome = .done) then
      some (x.outcome.answer (clientEffect i x w op) w)
    else none

abbrev ClientConfig := Config clientInterface Unit ClientWorld

/-- The breaker would let a request through. -/
def ClientWorld.Admits (w : ClientWorld) (now : ℚ) : Prop :=
  (w.breaker.canExecute horizonBreaker now).1 = true

/-- A request is let through once the cooldown has passed since a request that was itself let
through has failed.
-/
def AdmitsAgain (w : ClientWorld) : Prop :=
  ∀ now, (∀ failedAt, w.failedAt = some failedAt → failedAt + horizonBreaker.cooldownMs ≤ now) →
    w.Admits now

/-- Caller `i` is about to record the failure of a call that was refused. -/
def recordsRefusal (c : ClientConfig) (i : Nat) : Bool :=
  c.world.refused.isSome
    && match c.pending? i with
      | some (.stellar .recordFailure) => true
      | _ => false

/-- The failure of a refused call is not recorded at a later time than the last one. -/
def Undelayed (c : ClientConfig) (i : Nat) (x : ClientChoice) : Prop :=
  recordsRefusal c i = true → ∀ last ∈ c.world.breaker.lastFailureTime, x.now ≤ last

instance (c : ClientConfig) (i : Nat) (x : ClientChoice) : Decidable (Undelayed c i x) :=
  inferInstanceAs (Decidable (_ → _))

-- Invariants

/-- What holds of a breaker whose refusals are not recorded late. -/
structure Recovering (w : ClientWorld) : Prop where
  refused : w.refused.isSome = true → w.breaker.state = .OPEN
  opened : w.breaker.state = .OPEN →
    ∃ last failedAt, w.breaker.lastFailureTime = some last ∧ 0 < last
      ∧ w.failedAt = some failedAt ∧ last ≤ failedAt

variable {w w' : ClientWorld} {i : Nat} {x : ClientChoice}

theorem Recovering.opened_after (h : Recovering w) {call : Call}
    (kept : call.method ≠ .recordFailure)
    (opened : (w.breaker.after horizonBreaker call).state = .OPEN)
    : ∃ last failedAt,
        (w.breaker.after horizonBreaker call).lastFailureTime = some last ∧ 0 < last
        ∧ w.failedAt = some failedAt ∧ last ≤ failedAt := by
  rw [lastFailureTime_after, if_neg kept]
  refine h.opened ?_
  by_contra before
  exact kept (opened_by_failure before opened)

theorem state_of_refused {options : CircuitBreakerOptions} {b : CircuitBreaker} {now : ℚ}
    (refused : (b.canExecute options now).1 = false)
    : (b.canExecute options now).2.state = .OPEN ∧ b.state = .OPEN := by
  unfold CircuitBreaker.canExecute at refused ⊢
  split at refused
  · cases refused
  · rename_i opened
    split at refused
    · cases refused
    · rename_i early
      simp [early, opened]
  · cases refused

theorem act_cases {op : ClientOp} {reply : clientInterface.Reply op}
    (h : clientSemantics.act i op x w = some (reply, w'))
    : 0 < x.now ∧ (w' = w ∨ w' = (clientEffect i x w op).2) := by
  simp only [clientSemantics] at h
  split at h
  · rename_i possible
    exact ⟨possible.2.1, Outcome.answer_world (Option.some.inj h)⟩
  · cases h

theorem recordFailure_act {reply : clientInterface.Reply (.stellar .recordFailure)}
    (h : clientSemantics.act i (.stellar .recordFailure) x w = some (reply, w'))
    : reply = .ok () ∧ w' = (clientEffect i x w (.stellar .recordFailure)).2 := by
  simp only [clientSemantics] at h
  split at h
  · rename_i possible
    have done : x.outcome = .done := by simpa [ClientOp.reachesNetwork] using possible.2.2
    rw [done] at h
    obtain ⟨rfl, rfl⟩ := Prod.mk.inj (Option.some.inj h)
    exact ⟨rfl, rfl⟩
  · cases h

theorem Recovering.effect (h : Recovering w) {op : ClientOp} (positive : 0 < x.now)
    (undelayed : op = .stellar .recordFailure → w.refused.isSome = true →
      ∀ last ∈ w.breaker.lastFailureTime, x.now ≤ last)
    : Recovering (clientEffect i x w op).2 := by
  cases op with
  | submitTransaction _ => exact h
  | stellar op =>
      cases op with
      | canExecute =>
          refine ⟨fun refused => ?_, fun opened => ?_⟩
          · cases allowed : (w.breaker.canExecute horizonBreaker x.now).1 with
            | true => simp [clientEffect, allowed] at refused
            | false => exact (state_of_refused allowed).1
          · exact @Recovering.opened_after w h ⟨.canExecute, x.now⟩ (by simp) opened
      | recordSuccess =>
          refine ⟨fun refused => ?_, fun opened => ?_⟩
          · have opened := h.refused refused
            simp [clientEffect, CircuitBreaker.recordSuccess, opened]
          · exact @Recovering.opened_after w h ⟨.recordSuccess, x.now⟩ (by simp) opened
      | recordFailure =>
          refine ⟨fun refused => absurd refused Bool.false_ne_true, fun _ => ?_⟩
          have moved := @lastFailureTime_after horizonBreaker ⟨.recordFailure, x.now⟩ w.breaker
          refine ⟨x.now, ?_⟩
          cases refused : w.refused with
          | none => exact ⟨x.now, moved, positive, by simp [clientEffect, refused], le_rfl⟩
          | some caller =>
              have isSome : w.refused.isSome = true := by simp [refused]
              obtain ⟨last, failedAt, set, -, failed, before⟩ := h.opened (h.refused isSome)
              exact ⟨failedAt, moved, positive, by simpa [clientEffect, refused] using failed,
                (undelayed rfl isSome last set).trans before⟩
      | _ => exact h

theorem Recovering.step {c c' : ClientConfig} (h : Recovering c.world) (undelayed : Undelayed c i x)
    (stepped : c.step clientSemantics i x = some c')
    : Recovering c'.world := by
  obtain ⟨op, next, past, reply, world, found, answered, rfl⟩ := Config.step_cases stepped
  obtain ⟨positive, rfl | rfl⟩ := act_cases answered
  · exact h
  · refine h.effect positive fun same refused => undelayed ?_
    subst same
    simp [recordsRefusal, refused, Config.pending?, found]

theorem Recovering.of_reaches {calls : List ClientCall} {c : ClientConfig}
    (reached : Config.Reaches clientSemantics Undelayed
      (Config.initial {} (calls.map ClientCall.program)) c)
    : Recovering c.world := by
  induction reached with
  | refl =>
      exact ⟨fun refused => absurd refused Bool.false_ne_true, fun opened => by cases opened⟩
  | tail _ last ih =>
      obtain ⟨i, x, allowed, stepped⟩ := last
      exact ih.step allowed stepped

theorem admits_of_open {last now : ℚ} (opened : w.breaker.state = .OPEN)
    (set : w.breaker.lastFailureTime = some last) (positive : 0 < last)
    : w.Admits now ↔ last + horizonBreaker.cooldownMs ≤ now := by
  have cooled : w.breaker.cooledDown horizonBreaker now = true
      ↔ last + horizonBreaker.cooldownMs ≤ now := by
    simp only [CircuitBreaker.cooledDown, set, Bool.and_eq_true, decide_eq_true_eq]
    rw [le_sub_iff_add_le']
    exact ⟨And.right, fun late => ⟨positive.ne', late⟩⟩
  rw [← cooled, ClientWorld.Admits, CircuitBreaker.canExecute, opened]
  dsimp only
  split
  · rename_i late
    exact ⟨fun _ => late, fun _ => rfl⟩
  · rename_i early
    exact ⟨fun allowed => absurd allowed Bool.false_ne_true, fun late => absurd late early⟩

theorem Recovering.admitsAgain (h : Recovering w) : AdmitsAgain w := by
  intro now past
  by_cases opened : w.breaker.state = .OPEN
  · obtain ⟨last, failedAt, set, positive, failed, before⟩ := h.opened opened
    exact (admits_of_open opened set positive).mpr
      ((add_le_add_left before _).trans (past failedAt failed))
  · by_contra refused
    exact opened (state_of_refused (Bool.eq_false_iff.mpr refused)).2

/-- The failure a refused call records leaves the next admission where it is, unless it is later
than the last one.
-/
theorem Recovering.postpones_iff {c c' : ClientConfig} (h : Recovering c.world)
    (refusal : recordsRefusal c i = true) (stepped : c.step clientSemantics i x = some c')
    : (∀ now, c.world.Admits now → c'.world.Admits now) ↔ Undelayed c i x := by
  obtain ⟨op, next, past, reply, world, found, answered, rfl⟩ := Config.step_cases stepped
  obtain ⟨refused, pending⟩ := Bool.and_eq_true_iff.mp refusal
  have opened := h.refused refused
  obtain ⟨last, failedAt, set, positive, -⟩ := h.opened opened
  simp only [Config.pending?, found, Option.bind_some] at pending
  split at pending
  · rename_i same
    obtain rfl := Option.some.inj same
    obtain ⟨-, rfl⟩ := recordFailure_act answered
    have still : (c.world.breaker.recordFailure horizonBreaker x.now).state = .OPEN :=
      (@state_after_open horizonBreaker ⟨.recordFailure, x.now⟩ _ opened).trans (by simp)
    have moved := @lastFailureTime_after horizonBreaker ⟨.recordFailure, x.now⟩ c.world.breaker
    have first : ∀ now, c.world.Admits now ↔ last + horizonBreaker.cooldownMs ≤ now :=
      fun now => admits_of_open opened set positive
    have second : ∀ now, _ ↔ x.now + horizonBreaker.cooldownMs ≤ now :=
      fun now => admits_of_open (w := (clientEffect i x c.world (.stellar .recordFailure)).2) still
        moved (act_cases answered).1
    constructor
    · intro kept _ last' same
      obtain rfl := Option.some.inj (set.symm.trans same)
      exact le_of_add_le_add_right ((second _).mp (kept _ ((first _).mpr le_rfl)))
    · intro undelayed now admitted
      refine (second now).mpr (le_trans ?_ ((first now).mp admitted))
      exact add_le_add_left (undelayed refusal last set) _
  · cases pending

/-- Where no refused call records its failure late, the breaker admits a request once the cooldown
has passed since the last failure of a request that was let through. A refused call that is about to
record its failure postpones the next admission exactly when it does so late.
-/
theorem breaker_recovers_when {calls : List ClientCall} {c : ClientConfig}
    (reached : Config.Reaches clientSemantics Undelayed
      (Config.initial {} (calls.map ClientCall.program)) c)
    : AdmitsAgain c.world
      ∧ ∀ i x c', recordsRefusal c i = true → c.step clientSemantics i x = some c' →
          ((∀ now, c.world.Admits now → c'.world.Admits now) ↔ Undelayed c i x) :=
  have recovering := Recovering.of_reaches reached
  ⟨recovering.admitsAgain, fun _ _ _ => recovering.postpones_iff⟩

-- A refused call

def submission : ClientCall :=
  .submitTransaction
    { source := { accountId := "PLATFORM", sequence := 0 }
      fee := "100"
      networkPassphrase := ""
      timebounds := none
      operations := [] }

/-- A submission by caller `i` that fails at `now`. -/
def failedSubmission (i : Nat) (now : ℚ) : List (Nat × ClientChoice) :=
  [(i, { now }), (i, { now, outcome := .failed (.error "timeout") }), (i, { now })]

/-- Three submissions that fail at 1000. -/
def outage : List (Nat × ClientChoice) :=
  failedSubmission 0 1000 ++ failedSubmission 1 1000 ++ failedSubmission 2 1000

theorem breaker_recovers_when_outage
    : ∃ c : ClientConfig, c.world.breaker.state = .OPEN ∧ c.world.failedAt = some 1000
      ∧ AdmitsAgain c.world
      ∧ ∀ i x c', recordsRefusal c i = true → c.step clientSemantics i x = some c' →
          ((∀ now, c.world.Admits now → c'.world.Admits now) ↔ Undelayed c i x) := by
  have executed : ((Config.initial {} ((List.replicate 3 submission).map ClientCall.program)).run
      clientSemantics Undelayed outage).map
        (fun c => (c.world.breaker.state, c.world.failedAt)) = some (.OPEN, some 1000) := by
    decide +kernel
  obtain ⟨c, reached, known⟩ := Config.reaches_of_run executed
  obtain ⟨opened, failed⟩ := Prod.mk.inj known
  exact ⟨c, opened, failed, breaker_recovers_when reached⟩

/-- A fourth submission, refused at 20000, keeps the breaker shut 30 seconds after the outage. -/
theorem refusal_postpones
    : ∃ c : ClientConfig,
        Config.Reaches clientSemantics Config.anyStep
          (Config.initial {} ((List.replicate 4 submission).map ClientCall.program)) c
        ∧ c.world.failedAt = some 1000
        ∧ 1000 + horizonBreaker.cooldownMs ≤ 31000
        ∧ ¬ c.world.Admits 31000
        ∧ ¬ AdmitsAgain c.world := by
  have executed : ((Config.initial {} ((List.replicate 4 submission).map ClientCall.program)).run
      clientSemantics Config.anyStep (outage ++ [(3, { now := 20000 }), (3, { now := 20000 })])).map
        (fun c => (c.world.failedAt, (c.world.breaker.canExecute horizonBreaker 31000).1))
          = some (some 1000, false) := by
    decide +kernel
  obtain ⟨c, reached, known⟩ := Config.reaches_of_run executed
  obtain ⟨failed, refused⟩ := Prod.mk.inj known
  have shut : ¬ c.world.Admits 31000 := Bool.eq_false_iff.mp refused
  refine ⟨c, reached, failed, by norm_num [horizonBreaker], shut, fun admits => shut (admits _ ?_)⟩
  intro failedAt same
  obtain rfl := Option.some.inj (failed.symm.trans same)
  norm_num [horizonBreaker]

end AcbuBackend.Breaker

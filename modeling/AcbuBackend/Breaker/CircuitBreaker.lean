import Mathlib.Algebra.Order.Field.Rat
import Mathlib.Data.Rat.Cast.Order
import Mathlib.Tactic.Linarith

/-! The circuit breaker, and its state read off the calls it was given.
Times and thresholds are rationals. Logs and metrics are left out.
-/

namespace AcbuBackend.Breaker

inductive CircuitState
  | CLOSED
  | OPEN
  | HALF_OPEN
deriving DecidableEq

structure CircuitBreakerOptions where
  failureThreshold : ℚ := 5
  cooldownMs : ℚ := 60000
  successThreshold : ℚ := 2

structure CircuitBreaker where
  state : CircuitState := .CLOSED
  failureCount : Nat := 0
  successCount : Nat := 0
  lastFailureTime : Option ℚ := none

namespace CircuitBreaker

variable (options : CircuitBreakerOptions) (now : ℚ) (b : CircuitBreaker)

def transitionTo (newState : CircuitState) : CircuitBreaker :=
  if b.state = newState then b
  else
    match newState with
    | .CLOSED => { b with state := .CLOSED, failureCount := 0, successCount := 0 }
    | .HALF_OPEN => { b with state := .HALF_OPEN, successCount := 0 }
    | .OPEN => { b with state := .OPEN }

/-- The check of `canExecute` and `getState`. A time of zero counts as none. -/
def cooledDown : Bool :=
  match b.lastFailureTime with
  | some lastFailureTime => lastFailureTime ≠ 0 && options.cooldownMs ≤ now - lastFailureTime
  | none => false

def canExecute : Bool × CircuitBreaker :=
  match b.state with
  | .CLOSED => (true, b)
  | .OPEN => if b.cooledDown options now then (true, b.transitionTo .HALF_OPEN) else (false, b)
  | .HALF_OPEN => (true, b)

def getState : CircuitState × CircuitBreaker :=
  let b := if b.state = .OPEN ∧ b.cooledDown options now then b.transitionTo .HALF_OPEN else b
  (b.state, b)

def recordSuccess : CircuitBreaker :=
  match b.state with
  | .HALF_OPEN =>
      let b := { b with successCount := b.successCount + 1 }
      if options.successThreshold ≤ b.successCount then b.transitionTo .CLOSED else b
  | .CLOSED => { b with failureCount := 0 }
  | .OPEN => b

def recordFailure : CircuitBreaker :=
  let b := { b with failureCount := b.failureCount + 1, lastFailureTime := some now }
  match b.state with
  | .HALF_OPEN => b.transitionTo .OPEN
  | .CLOSED => if options.failureThreshold ≤ b.failureCount then b.transitionTo .OPEN else b
  | .OPEN => b

end CircuitBreaker

-- Histories of calls

inductive Method
  | canExecute
  | getState
  | recordSuccess
  | recordFailure
deriving DecidableEq

structure Call where
  method : Method
  now : ℚ

def CircuitBreaker.after (options : CircuitBreakerOptions) (b : CircuitBreaker) (call : Call)
    : CircuitBreaker :=
  match call.method with
  | .canExecute => (b.canExecute options call.now).2
  | .getState => (b.getState options call.now).2
  | .recordSuccess => b.recordSuccess options
  | .recordFailure => b.recordFailure options call.now

/-- A breaker after the calls of a history, the newest of which comes first. -/
def breakerAfter (options : CircuitBreakerOptions) : List Call → CircuitBreaker
  | [] => {}
  | call :: older => (breakerAfter options older).after options call

/-- The failures since the last success and since the breaker last became closed. -/
def failureStreak (options : CircuitBreakerOptions) : List Call → Nat
  | [] => 0
  | call :: older =>
      if call.method = .recordSuccess then 0
      else if (breakerAfter options older).state ≠ .CLOSED
          ∧ (breakerAfter options (call :: older)).state = .CLOSED then 0
      else if call.method = .recordFailure then failureStreak options older + 1
      else failureStreak options older

/-- The time of the most recent `recordFailure`. -/
def lastRecordedFailure (calls : List Call) : Option ℚ :=
  (calls.find? (fun call => call.method = .recordFailure)).map (·.now)

-- One call

section

variable {options : CircuitBreakerOptions} {call : Call} {b : CircuitBreaker}

theorem state_after_closed (h : b.state = .CLOSED)
    : (b.after options call).state =
      if call.method = .recordFailure ∧ options.failureThreshold ≤ (b.failureCount + 1 : ℕ)
      then .OPEN else .CLOSED := by
  obtain ⟨method, now⟩ := call
  cases method with
  | recordFailure =>
      simp only [CircuitBreaker.after, CircuitBreaker.recordFailure, h, true_and]
      split
      · simp [CircuitBreaker.transitionTo]
      · rfl
  | _ =>
      simp [CircuitBreaker.after, CircuitBreaker.canExecute, CircuitBreaker.getState,
        CircuitBreaker.recordSuccess, h]

theorem state_after_open (h : b.state = .OPEN)
    : (b.after options call).state =
      if (call.method = .canExecute ∨ call.method = .getState)
        ∧ b.cooledDown options call.now = true
      then .HALF_OPEN else .OPEN := by
  obtain ⟨method, now⟩ := call
  cases method with
  | recordSuccess | recordFailure =>
      simp [CircuitBreaker.after, CircuitBreaker.recordSuccess, CircuitBreaker.recordFailure, h]
  | canExecute | getState =>
      by_cases cooled : b.cooledDown options now = true
      · simp [CircuitBreaker.after, CircuitBreaker.canExecute, CircuitBreaker.getState,
          CircuitBreaker.transitionTo, h, cooled]
      · simp [CircuitBreaker.after, CircuitBreaker.canExecute, CircuitBreaker.getState, h, cooled]

theorem lastFailureTime_after
    : (b.after options call).lastFailureTime
      = if call.method = .recordFailure then some call.now else b.lastFailureTime := by
  have kept : ∀ (b : CircuitBreaker) state,
      (b.transitionTo state).lastFailureTime = b.lastFailureTime := by
    intro b state
    unfold CircuitBreaker.transitionTo
    split
    · rfl
    · cases state <;> rfl
  obtain ⟨method, now⟩ := call
  cases method with
  | recordFailure =>
      simp only [CircuitBreaker.after, CircuitBreaker.recordFailure, if_true]
      split
      · exact kept _ _
      · split
        · exact kept _ _
        · rfl
      · rfl
  | recordSuccess =>
      simp only [CircuitBreaker.after, CircuitBreaker.recordSuccess]
      split
      · split
        · exact kept _ _
        · rfl
      · rfl
      · rfl
  | canExecute =>
      simp only [CircuitBreaker.after, CircuitBreaker.canExecute]
      split
      · rfl
      · split
        · exact kept _ _
        · rfl
      · rfl
  | getState =>
      simp only [CircuitBreaker.after, CircuitBreaker.getState]
      split
      · exact kept _ _
      · rfl

end

end AcbuBackend.Breaker

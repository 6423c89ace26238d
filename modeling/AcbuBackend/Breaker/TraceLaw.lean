import AcbuBackend.Breaker.CircuitBreaker

/-! The state of a breaker, for every history of calls. -/

namespace AcbuBackend.Breaker

/-- Thresholds that a count of zero has not reached. -/
structure CircuitBreakerOptions.Positive (options : CircuitBreakerOptions) : Prop where
  failureThreshold : 0 < options.failureThreshold
  successThreshold : 0 < options.successThreshold

/-- What holds in every state. -/
structure StateLaw (options : CircuitBreakerOptions) (b : CircuitBreaker) : Prop where
  closed : b.state = .CLOSED → b.failureCount < options.failureThreshold
  halfOpen : b.state = .HALF_OPEN → b.successCount < options.successThreshold
  opened : b.state = .OPEN → ∃ lastFailureTime, b.lastFailureTime = some lastFailureTime

/-- What holds of a call after a history: a closed breaker is opened by the failure that completes
the threshold, and an open one left by a call that comes late enough.
-/
structure StepLaw (options : CircuitBreakerOptions) (older : List Call) (call : Call) : Prop where
  opens : (breakerAfter options older).state = .CLOSED →
    ((breakerAfter options (call :: older)).state = .OPEN
      ↔ call.method = .recordFailure
        ∧ failureStreak options older < options.failureThreshold
        ∧ options.failureThreshold ≤ (failureStreak options older + 1 : ℕ))
  leaves : (breakerAfter options older).state = .OPEN →
    (breakerAfter options (call :: older)).state ≠ .OPEN →
    (call.method = .canExecute ∨ call.method = .getState)
      ∧ ∃ failedAt, lastRecordedFailure older = some failedAt
        ∧ options.cooldownMs ≤ call.now - failedAt

/-- What is kept: the law of the states, with the counters and the time read off the history. -/
structure Traced (options : CircuitBreakerOptions) (calls : List Call) : Prop where
  law : StateLaw options (breakerAfter options calls)
  streak : (breakerAfter options calls).state = .CLOSED →
    (breakerAfter options calls).failureCount = failureStreak options calls
  last : (breakerAfter options calls).lastFailureTime = lastRecordedFailure calls

variable {options : CircuitBreakerOptions} {b : CircuitBreaker} {call : Call} {older : List Call}

-- One call

theorem failureCount_of_closing (opened : b.state ≠ .CLOSED)
    (closes : (b.after options call).state = .CLOSED)
    : (b.after options call).failureCount = 0 ∧ call.method ≠ .recordFailure := by
  obtain ⟨state, failureCount, successCount, lastFailureTime⟩ := b
  obtain ⟨method, now⟩ := call
  cases state with
  | CLOSED => exact absurd rfl opened
  | OPEN =>
      rw [state_after_open rfl] at closes
      split at closes <;> cases closes
  | HALF_OPEN =>
      cases method with
      | recordSuccess =>
          simp only [CircuitBreaker.after, CircuitBreaker.recordSuccess] at closes ⊢
          split at closes
          · rename_i reached
            rw [if_pos reached]
            exact ⟨rfl, by simp⟩
          · cases closes
      | _ =>
          simp [CircuitBreaker.after, CircuitBreaker.canExecute, CircuitBreaker.getState,
            CircuitBreaker.recordFailure, CircuitBreaker.transitionTo] at closes

theorem failureCount_after_closed (closed : b.state = .CLOSED)
    (stays : (b.after options call).state = .CLOSED)
    : (b.after options call).failureCount
      = if call.method = .recordSuccess then 0
        else if call.method = .recordFailure then b.failureCount + 1 else b.failureCount := by
  obtain ⟨method, now⟩ := call
  cases method with
  | recordFailure =>
      simp only [CircuitBreaker.after, CircuitBreaker.recordFailure, closed] at stays ⊢
      split at stays
      · simp [CircuitBreaker.transitionTo] at stays
      · rename_i below
        rw [if_neg below]
        rfl
  | _ =>
      simp [CircuitBreaker.after, CircuitBreaker.canExecute, CircuitBreaker.getState,
        CircuitBreaker.recordSuccess, closed]

theorem successCount_after_halfOpen (h : b.state = .HALF_OPEN)
    (below : b.successCount < options.successThreshold)
    (stays : (b.after options call).state = .HALF_OPEN)
    : (b.after options call).successCount < options.successThreshold := by
  obtain ⟨method, now⟩ := call
  cases method with
  | recordSuccess =>
      simp only [CircuitBreaker.after, CircuitBreaker.recordSuccess, h] at stays ⊢
      split at stays
      · simp [CircuitBreaker.transitionTo] at stays
      · rename_i notReached
        rw [if_neg notReached]
        exact not_le.mp notReached
  | recordFailure =>
      simp [CircuitBreaker.after, CircuitBreaker.recordFailure, CircuitBreaker.transitionTo, h]
        at stays
  | canExecute | getState =>
      simpa [CircuitBreaker.after, CircuitBreaker.canExecute, CircuitBreaker.getState,
        h] using below

theorem successCount_of_halfOpening (h : b.state ≠ .HALF_OPEN)
    (becomes : (b.after options call).state = .HALF_OPEN)
    : (b.after options call).successCount = 0 := by
  obtain ⟨state, failureCount, successCount, lastFailureTime⟩ := b
  obtain ⟨method, now⟩ := call
  cases state with
  | HALF_OPEN => exact absurd rfl h
  | CLOSED =>
      rw [state_after_closed rfl] at becomes
      split at becomes <;> cases becomes
  | OPEN =>
      cases method with
      | recordSuccess | recordFailure =>
          simp [CircuitBreaker.after, CircuitBreaker.recordSuccess,
            CircuitBreaker.recordFailure] at becomes
      | canExecute =>
          simp only [CircuitBreaker.after, CircuitBreaker.canExecute] at becomes ⊢
          split at becomes
          · rename_i cooled
            rw [if_pos cooled]
            rfl
          · cases becomes
      | getState =>
          simp only [CircuitBreaker.after, CircuitBreaker.getState, true_and] at becomes ⊢
          split at becomes
          · rename_i cooled
            rw [if_pos cooled]
            rfl
          · cases becomes

theorem opened_by_failure (h : b.state ≠ .OPEN) (opens : (b.after options call).state = .OPEN)
    : call.method = .recordFailure := by
  obtain ⟨state, failureCount, successCount, lastFailureTime⟩ := b
  obtain ⟨method, now⟩ := call
  cases state with
  | OPEN => exact absurd rfl h
  | CLOSED =>
      rw [state_after_closed rfl] at opens
      split at opens
      · rename_i failed
        exact failed.1
      · cases opens
  | HALF_OPEN =>
      cases method with
      | recordFailure => rfl
      | recordSuccess =>
          simp only [CircuitBreaker.after, CircuitBreaker.recordSuccess] at opens
          split at opens <;> simp [CircuitBreaker.transitionTo] at opens
      | canExecute | getState =>
          simp [CircuitBreaker.after, CircuitBreaker.canExecute, CircuitBreaker.getState] at opens

-- Histories

theorem StateLaw.after (positive : options.Positive) (h : StateLaw options b)
    : StateLaw options (b.after options call) := by
  constructor
  · intro closed
    by_cases before : b.state = .CLOSED
    · rw [state_after_closed before] at closed
      rw [failureCount_after_closed before (by rw [state_after_closed before]; exact closed)]
      split
      · exact_mod_cast positive.failureThreshold
      · split
        · rename_i failed
          by_contra reached
          rw [if_pos ⟨failed, not_lt.mp reached⟩] at closed
          cases closed
        · exact h.closed before
    · rw [(failureCount_of_closing before closed).1]
      exact_mod_cast positive.failureThreshold
  · intro halfOpen
    by_cases before : b.state = .HALF_OPEN
    · exact successCount_after_halfOpen before (h.halfOpen before) halfOpen
    · rw [successCount_of_halfOpening before halfOpen]
      exact_mod_cast positive.successThreshold
  · intro opened
    rw [lastFailureTime_after]
    split
    · exact ⟨_, rfl⟩
    · rename_i noFailure
      by_cases before : b.state = .OPEN
      · exact h.opened before
      · exact absurd (opened_by_failure before opened) noFailure

theorem Traced.cons (positive : options.Positive) (h : Traced options older)
    : Traced options (call :: older) := by
  refine ⟨h.law.after positive, ?_, ?_⟩
  · intro closed
    have closed' : ((breakerAfter options older).after options call).state = .CLOSED := closed
    change ((breakerAfter options older).after options call).failureCount = _
    unfold failureStreak
    by_cases before : (breakerAfter options older).state = .CLOSED
    · rw [failureCount_after_closed before closed', h.streak before]
      simp [before]
    · obtain ⟨zero, notFailure⟩ := failureCount_of_closing before closed'
      rw [zero]
      simp [before, closed]
  · change ((breakerAfter options older).after options call).lastFailureTime = _
    rw [lastFailureTime_after, h.last]
    unfold lastRecordedFailure
    rw [List.find?_cons]
    by_cases failed : call.method = .recordFailure <;> simp [failed]

theorem traced (positive : options.Positive) (calls : List Call) : Traced options calls := by
  induction calls with
  | nil =>
      refine ⟨⟨fun _ => ?_, by simp [breakerAfter], by simp [breakerAfter]⟩, fun _ => rfl, rfl⟩
      exact_mod_cast positive.failureThreshold
  | cons call older ih => exact ih.cons positive

theorem stepLaw (positive : options.Positive) (older : List Call) (call : Call)
    : StepLaw options older call := by
  have h := traced positive older
  constructor
  · intro closed
    have below := h.law.closed closed
    have counted := h.streak closed
    change ((breakerAfter options older).after options call).state = .OPEN ↔ _
    rw [state_after_closed closed, ← counted]
    split
    · rename_i opens
      exact ⟨fun _ => ⟨opens.1, below, opens.2⟩, fun _ => rfl⟩
    · rename_i stays
      simp only [reduceCtorEq, false_iff]
      exact fun opens => stays ⟨opens.1, opens.2.2⟩
  · intro opened left
    change ((breakerAfter options older).after options call).state ≠ .OPEN at left
    rw [state_after_open opened] at left
    split at left
    · rename_i cooled
      obtain ⟨asked, cooled⟩ := cooled
      refine ⟨asked, ?_⟩
      obtain ⟨failedAt, set⟩ := h.law.opened opened
      refine ⟨failedAt, h.last.symm.trans set, ?_⟩
      simp only [CircuitBreaker.cooledDown, set, Bool.and_eq_true, decide_eq_true_eq] at cooled
      exact cooled.2
    · exact absurd rfl left

/-- In every history the states of a breaker and its transitions are those of its calls. -/
theorem breaker_trace_law (options : CircuitBreakerOptions) (calls : List Call)
    (positive : options.Positive)
    : StateLaw options (breakerAfter options calls)
      ∧ ∀ call older, call :: older <:+ calls → StepLaw options older call :=
  ⟨(traced positive calls).law, fun call older _ => stepLaw positive older call⟩

/-- One failure too many, and a call after the cooldown. -/
theorem breaker_trace_law_reopened
    : StateLaw { failureThreshold := 1 }
        (breakerAfter { failureThreshold := 1 } [⟨.canExecute, 60001⟩, ⟨.recordFailure, 1⟩])
      ∧ ∀ call older, call :: older <:+ [⟨.canExecute, 60001⟩, ⟨.recordFailure, 1⟩] →
          StepLaw { failureThreshold := 1 } older call :=
  breaker_trace_law _ _ ⟨by norm_num, by norm_num⟩

end AcbuBackend.Breaker

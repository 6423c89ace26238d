import AcbuBackend.Effects.Evaluation
import AcbuBackend.Investment.AllocationService

/-! The total deployed over all strategies against the deployable part of the reserve, in sequences
of allocations, releases and status changes.
-/

namespace AcbuBackend.Investment

open Effects AcbuBackend.Runtime

-- Sequences of operations

abbrev Strategies := AList (fun _ : StrategyId => Strategy)

def totalDeployed (strategies : Strategies) : ℚ :=
  tableSum strategies (fun _ row => row.deployedNotionalUsd.value)

/-- What an operator or the service may do. -/
inductive ReserveOperation
  | run (call : AllocationCall)
  | setStatus (id : StrategyId) (status : String)

/-- An operation that has run from the first strategies to the second ones, with its result and the
reserve value at that time.
-/
structure Performed where
  operation : ReserveOperation
  totalReserveValueUsd : ℚ
  before : Strategies
  result : Except AllocationError Unit
  after : Strategies

/-- The operation can have that result. A call finds no open transaction. -/
def Performed.Possible (decimal : DecimalClass) (step : Performed) : Prop :=
  match step.operation with
  | .run call => ∃ w', (call.prog decimal).Evaluates allocationSemantics 0
      { strategies := step.before } step.result w' ∧ w'.strategies = step.after
  | .setStatus id status => step.result = .ok ()
      ∧ step.after = updateRows step.before (fun other row => if other
        = id then { row with status } else row)

/-- Operations that run one after the other. -/
def Sequence (decimal : DecimalClass) : Strategies → List Performed → Prop
  | _, [] => True
  | strategies, step :: rest =>
      step.before = strategies ∧ step.Possible decimal ∧ Sequence decimal step.after rest

/-- An allocation that was accepted leaves the total within the deployable reserve. -/
def Performed.WithinReserve (deployableFraction : ℚ) (step : Performed) : Prop :=
  ∀ id amountUsd, step.operation = .run (.allocate id amountUsd) → step.result = .ok () →
    totalDeployed step.after ≤ deployableFromReserve deployableFraction step.totalReserveValueUsd

section

variable {decimal : DecimalClass} {strategies : Strategies} {steps : List Performed}
  {step : Performed}

theorem Sequence.possible (performed : Sequence decimal strategies steps)
    : ∀ step ∈ steps, step.Possible decimal := by
  induction steps generalizing strategies with
  | nil => simp
  | cons step rest ih =>
      obtain ⟨-, possible, later⟩ := performed
      exact List.forall_mem_cons.mpr ⟨possible, ih later⟩

theorem Performed.Possible.refused {call : AllocationCall} (possible : step.Possible decimal)
    (rejects : ∀ text, decimal.isDecimal text = false) (operation : step.operation = .run call)
    : step.result ≠ .ok () := by
  intro accepted
  unfold Possible at possible
  rw [operation] at possible
  obtain ⟨w', evaluates, -⟩ := possible
  obtain ⟨error, refused⟩ := @AllocationCall.prog_of_rejects decimal call rejects
  rw [accepted, refused] at evaluates
  cases evaluates.1

end

/-- In every sequence of operations, each allocation that was accepted leaves the total within the
deployable reserve: `isDecimal` holds of no text, so none is accepted.
-/
theorem accepted_allocations_within_reserve (decimal : DecimalClass)
    (rejects : ∀ text, decimal.isDecimal text = false) (deployableFraction : ℚ)
    (strategies : Strategies) (steps : List Performed)
    (performed : Sequence decimal strategies steps)
    : ∀ step ∈ steps, step.WithinReserve deployableFraction := by
  intro step member id amountUsd operation accepted
  exact absurd accepted ((performed.possible step member).refused rejects operation)

/-- An allocation beyond half of the reserve, a pause, and a release. -/
def sampleSteps : List Performed :=
  let paused := updateRows sampleStrategies (fun id row =>
    if id = "vault" then { row with status := "paused" } else row)
  [{ operation := .run (.allocate "vault" "60.00")
     totalReserveValueUsd := 100
     before := sampleStrategies
     result := .error (.validation "Allocation amount must be a valid decimal number")
     after := sampleStrategies },
   { operation := .setStatus "vault" "paused"
     totalReserveValueUsd := 100
     before := sampleStrategies
     result := .ok ()
     after := paused },
   { operation := .run (.deallocate "vault" "20.50")
     totalReserveValueUsd := 100
     before := paused
     result := .error (.validation "Deallocation amount must be a valid decimal number")
     after := paused }]

theorem accepted_allocations_within_reserve_sample
    : Sequence decimalJs sampleStrategies sampleSteps
      ∧ ∀ step ∈ sampleSteps, step.WithinReserve (1 / 2) := by
  have performed : Sequence decimalJs sampleStrategies sampleSteps :=
    ⟨rfl, ⟨_, ⟨rfl, rfl⟩, rfl⟩, rfl, ⟨rfl, rfl⟩, rfl, ⟨_, ⟨rfl, rfl⟩, rfl⟩, trivial⟩
  exact ⟨performed, accepted_allocations_within_reserve decimalJs (fun _ => rfl) (1 / 2)
    sampleStrategies sampleSteps performed⟩

end AcbuBackend.Investment

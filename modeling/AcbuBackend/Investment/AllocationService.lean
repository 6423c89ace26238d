import AcbuBackend.Investment.Model

/-! `allocationService`: the amounts that may be deployed, and the calls that deploy and release
them.
-/

namespace AcbuBackend.Investment

open Effects AcbuBackend.Runtime

def parseFiniteAmountUsd (decimal : DecimalClass) (amountUsd label : String)
    : Except AllocationError ℚ :=
  if (trimChars amountUsd.toList).isEmpty then
    .error (.validation s!"{label} must be a non-empty decimal string")
  else if !decimal.isDecimal amountUsd then
    .error (.validation s!"{label} must be a valid decimal number")
  else
    match decimal.construct amountUsd with
    | .error error => .error (.database error)
    | .ok none => .error (.validation s!"{label} must be a finite decimal number")
    | .ok (some amount) => .ok amount

theorem parseFiniteAmountUsd_of_rejects {decimal : DecimalClass} {amountUsd label : String}
    (rejects : ∀ text, decimal.isDecimal text = false)
    : ∃ error, parseFiniteAmountUsd decimal amountUsd label = .error error := by
  unfold parseFiniteAmountUsd
  split
  · exact ⟨_, rfl⟩
  · exact ⟨_, if_pos (by rw [rejects]; rfl)⟩

-- The deployable reserve

/-- `ReserveTracker.SEGMENT_INVESTMENT_SAVINGS`. -/
def SEGMENT_INVESTMENT_SAVINGS : String :=
  "investment_savings"

/-- The reserve value times `DEPLOYABLE_FRACTION`, taken between 0 and 1. -/
def deployableFromReserve (deployableFraction totalReserveValueUsd : ℚ) : ℚ :=
  totalReserveValueUsd * min 1 (max 0 deployableFraction)

structure AllocationSummary where
  segment : String
  totalReserveValueUsd : String
  deployableUsd : String
  deployedUsd : String
  availableToDeployUsd : String

def computeDeployableAllocation (deployableFraction : ℚ)
    : Prog allocationInterface AllocationSummary := do
  let totalReserve ← allocationCall .getReserveStatus
  let deployable := deployableFromReserve deployableFraction totalReserve
  let aggregateResult ← allocationCall (.aggregate "active")
  let totalDeployed := aggregateResult.getD 0
  let availableToDeploy := max 0 (deployable - totalDeployed)
  return {
    segment := SEGMENT_INVESTMENT_SAVINGS
    totalReserveValueUsd := toFixed2 totalReserve
    deployableUsd := toFixed2 deployable
    deployedUsd := toFixed2 totalDeployed
    availableToDeployUsd := toFixed2 availableToDeploy }

-- Allocations

/-- What `allocateToStrategy` computes from the row it has read. -/
def allocatedNotional (amount : ℚ) (strategy : Strategy) : Except AllocationError ℚ :=
  if strategy.status ≠ "active" then
    .error (.policyViolation s!"Strategy {strategy.name} is {strategy.status}, cannot allocat")
  else
    let deployed := strategy.deployedNotionalUsd.value
    let limit := strategy.policyLimitUsd.value
    let newDeployed := deployed + amount
    if limit < newDeployed then
      .error (.policyViolation (s!"Allocation of {toFixed2 amount} USD would exceed policy limit. "
        ++ s!"Available: {toFixed2 (limit - deployed)} USD, Limit: {toFixed2 limit} USD, "
        ++ s!"Currently deployed: {toFixed2 deployed} USD"))
    else .ok newDeployed

theorem allocatedNotional_eq_ok {amount deployed : ℚ} {strategy : Strategy}
    (h : allocatedNotional amount strategy = .ok deployed)
    : deployed = strategy.deployedNotionalUsd.value + amount
        ∧ deployed ≤ strategy.policyLimitUsd.value := by
  unfold allocatedNotional at h
  split at h
  · cases h
  · dsimp only at h
    split at h
    · cases h
    · obtain rfl := Except.ok.inj h
      exact ⟨rfl, not_lt.mp ‹_›⟩

/-- What `deallocateFromStrategy` computes from the row it has read. -/
def releasedNotional (amount : ℚ) (strategy : Strategy) : ℚ :=
  max 0 (strategy.deployedNotionalUsd.value - amount)

def allocateToStrategy (decimal : DecimalClass) (strategyId : StrategyId) (amountUsd : String)
    : Prog allocationInterface Unit := do
  let amount ← Prog.fromExcept (parseFiniteAmountUsd decimal amountUsd "Allocation amount")
  Prog.ensure (0 < amount) (.validation "Allocation amount must be positive")
  transaction (do
    let strategy ← allocationCall (.findUnique strategyId)
    let strategy ← Prog.orThrow strategy (.validation s!"Strategy {strategyId} not found")
    let newDeployed ← Prog.fromExcept (allocatedNotional amount strategy)
    allocationCall (.update strategyId newDeployed))

def deallocateFromStrategy (decimal : DecimalClass) (strategyId : StrategyId) (amountUsd : String)
    : Prog allocationInterface Unit := do
  let amount ← Prog.fromExcept (parseFiniteAmountUsd decimal amountUsd "Deallocation amount")
  Prog.ensure (0 < amount) (.validation "Deallocation amount must be positive")
  transaction (do
    let strategy ← allocationCall (.findUnique strategyId)
    let strategy ← Prog.orThrow strategy (.validation s!"Strategy {strategyId} not found")
    allocationCall (.update strategyId (releasedNotional amount strategy)))

/-- The amount that both functions go on with. -/
def positiveAmountUsd (decimal : DecimalClass) (amountUsd label : String)
    : Except AllocationError ℚ :=
  match parseFiniteAmountUsd decimal amountUsd label with
  | .error error => .error error
  | .ok amount =>
      if 0 < amount then .ok amount else .error (.validation s!"{label} must be positive")

theorem positiveAmountUsd_eq_ok {decimal : DecimalClass} {amountUsd label : String} {amount : ℚ}
    (h : positiveAmountUsd decimal amountUsd label = .ok amount)
    : parseFiniteAmountUsd decimal amountUsd label = .ok amount ∧ 0 < amount := by
  unfold positiveAmountUsd at h
  split at h
  · cases h
  · rename_i parsed
    split at h
    · obtain rfl := Except.ok.inj h
      exact ⟨parsed, ‹_›⟩
    · cases h

/-- A call of one of the two functions. -/
inductive AllocationCall
  | allocate (strategyId : StrategyId) (amountUsd : String)
  | deallocate (strategyId : StrategyId) (amountUsd : String)

namespace AllocationCall

def prog (decimal : DecimalClass) : AllocationCall → Prog allocationInterface Unit
  | .allocate strategyId amountUsd => allocateToStrategy decimal strategyId amountUsd
  | .deallocate strategyId amountUsd => deallocateFromStrategy decimal strategyId amountUsd

def strategyId : AllocationCall → StrategyId
  | .allocate strategyId _ | .deallocate strategyId _ => strategyId

def amount (decimal : DecimalClass) : AllocationCall → Except AllocationError ℚ
  | .allocate _ amountUsd => positiveAmountUsd decimal amountUsd "Allocation amount"
  | .deallocate _ amountUsd => positiveAmountUsd decimal amountUsd "Deallocation amount"

def notional (amount : ℚ) (strategy : Strategy) : AllocationCall → Except AllocationError ℚ
  | .allocate _ _ => allocatedNotional amount strategy
  | .deallocate _ _ => .ok (releasedNotional amount strategy)

def newDeployed (decimal : DecimalClass) (call : AllocationCall) (row : Strategy)
    : Except AllocationError ℚ :=
  (call.amount decimal).bind (fun amount => call.notional amount row)

def apply (decimal : DecimalClass) (call : AllocationCall) (row : Strategy)
    : Except AllocationError Strategy :=
  (call.newDeployed decimal row).map (fun deployed => row.withAmount (some (.ofDecimal deployed)))

theorem ensure_positive_bind {amount : ℚ} {error : AllocationError}
    {rest : ℚ → Prog allocationInterface Unit}
    : (Prog.fromExcept (.ok amount) >>= fun amount => (do
        Prog.ensure (0 < amount) error
        rest amount))
      = Prog.fromExcept (if 0 < amount then .ok amount else .error error) >>= rest := by
  change (Prog.ensure (decide (0 < amount)) error >>= fun _ => rest amount) = _
  by_cases positive : 0 < amount
  · rw [decide_eq_true positive, if_pos positive]
    rfl
  · rw [decide_eq_false positive, if_neg positive]
    rfl

theorem prog_eq {decimal : DecimalClass} {call : AllocationCall}
    : call.prog decimal = (do
        let amount ← Prog.fromExcept (call.amount decimal)
        transaction (do
          let strategy ← allocationCall (.findUnique call.strategyId)
          let strategy ← Prog.orThrow strategy (.validation
            s!"Strategy {call.strategyId} not found")
          let newDeployed ← Prog.fromExcept (call.notional amount strategy)
          allocationCall (.update call.strategyId newDeployed))) := by
  cases call with
  | allocate strategyId amountUsd =>
      simp only [prog, allocateToStrategy, amount, positiveAmountUsd]
      cases parseFiniteAmountUsd decimal amountUsd "Allocation amount" with
      | error _ => rfl
      | ok amount => exact ensure_positive_bind
  | deallocate strategyId amountUsd =>
      simp only [prog, deallocateFromStrategy, amount, positiveAmountUsd]
      cases parseFiniteAmountUsd decimal amountUsd "Deallocation amount" with
      | error _ => rfl
      | ok amount => exact ensure_positive_bind

/-- A class that takes no text for a decimal lets no call get past its amount. -/
theorem prog_of_rejects {decimal : DecimalClass} {call : AllocationCall}
    (rejects : ∀ text, decimal.isDecimal text = false)
    : ∃ error, call.prog decimal = .fail error := by
  cases call with
  | allocate strategyId amountUsd =>
      obtain ⟨error, refused⟩ :=
        @parseFiniteAmountUsd_of_rejects decimal amountUsd "Allocation amount" rejects
      exact ⟨error, by rw [prog, allocateToStrategy, refused]; rfl⟩
  | deallocate strategyId amountUsd =>
      obtain ⟨error, refused⟩ :=
        @parseFiniteAmountUsd_of_rejects decimal amountUsd "Deallocation amount" rejects
      exact ⟨error, by rw [prog, deallocateFromStrategy, refused]; rfl⟩

end AllocationCall

-- A sample strategy

/-- `isDecimal` as the library has it: a text is no instance of the class. -/
def decimalJs : DecimalClass where
  isDecimal _ := false
  construct text :=
    match plainDecimal? text.toList with
    | some amount => .ok (some amount)
    | none => .error (.error s!"[DecimalError] Invalid argument: {text}")

/-- A limit of 200 dollars of which nothing is deployed. -/
def sampleStrategy : Strategy where
  name := "Vault"
  policyLimitUsd := ⟨20000⟩

def sampleStrategies : AList (fun _ : StrategyId => Strategy) :=
  AList.singleton "vault" sampleStrategy

end AcbuBackend.Investment

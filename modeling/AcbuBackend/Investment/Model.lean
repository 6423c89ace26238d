import AcbuBackend.Effects.Outcome
import AcbuBackend.Runtime.Errors
import AcbuBackend.Runtime.Tables
import AcbuBackend.Runtime.Text
import Mathlib.Tactic.Linarith
import Mathlib.Tactic.Ring

/-! The investment strategies, and the database transactions that change what is deployed to them.
A transaction reads committed rows; a row it writes is locked until it ends.
-/

namespace AcbuBackend.Investment

open Effects AcbuBackend.Runtime

-- Amounts

/-- A nonnegative amount of a `Decimal(20, 2)` column, in hundredths. -/
structure Cents where
  units : Nat
deriving DecidableEq

namespace Cents

def value (c : Cents) : ℚ :=
  c.units / 100

/-- The amount stored for a nonnegative decimal, rounded half up. -/
def ofDecimal (amount : ℚ) : Cents :=
  ⟨⌊amount * 100 + 1 / 2⌋.toNat⟩

variable {c : Cents} {amount bound : ℚ}

theorem value_nonneg : 0 ≤ c.value :=
  div_nonneg (Nat.cast_nonneg _) (by norm_num)

@[simp] theorem ofDecimal_value : ofDecimal c.value = c := by
  obtain ⟨units⟩ := c
  have scaled : (units : ℚ) / 100 * 100 + 1 / 2 = ((units : ℤ) : ℚ) + 1 / 2 := by
    push_cast
    ring
  have half : ⌊(1 / 2 : ℚ)⌋ = 0 := by norm_num
  rw [ofDecimal, value, scaled, Int.floor_intCast_add, half, add_zero, Int.toNat_natCast]

theorem ofDecimal_mono (le : amount ≤ bound)
    : (ofDecimal amount).units ≤ (ofDecimal bound).units := by
  refine Int.toNat_le_toNat (Int.floor_le_floor ?_)
  linarith

theorem value_ofDecimal_le (le : amount ≤ c.value) : (ofDecimal amount).value ≤ c.value := by
  have units : (ofDecimal amount).units ≤ c.units := by
    simpa using ofDecimal_mono le
  exact div_le_div_of_nonneg_right (Nat.cast_le.mpr units) (by norm_num)

end Cents

def twoDigits (n : Nat) : String :=
  if n < 10 then s!"0{n}" else s!"{n}"

/-- `toFixed(2)`. -/
def toFixed2 (amount : ℚ) : String :=
  let units := ⌊|amount| * 100 + 1 / 2⌋.toNat
  let sign := if amount < 0 then "-" else ""
  s!"{sign}{units / 100}.{twoDigits (units % 100)}"

example : toFixed2 (33333.334) = "33333.33" := by decide +kernel

/-- What the service uses of the `Decimal` class for texts. `construct` throws on a text that is no
number, and answers `none` for one that is not finite.
-/
structure DecimalClass where
  isDecimal : String → Bool
  construct : String → Except JsError (Option ℚ)

-- Strategies

abbrev StrategyId := String

/-- A row of `investment_strategies`, under its id. -/
structure Strategy where
  name : String := ""
  status : String := "active"
  policyLimitUsd : Cents
  deployedNotionalUsd : Cents := ⟨0⟩
  targetApyBps : Option Int := none
deriving DecidableEq

def Strategy.withAmount (row : Strategy) (amount : Option Cents) : Strategy :=
  { row with deployedNotionalUsd := amount.getD row.deployedNotionalUsd }

@[simp] theorem Strategy.withAmount_none {row : Strategy} : row.withAmount none = row := rfl

@[simp] theorem Strategy.withAmount_withAmount {row : Strategy} {first second : Option Cents}
    : (row.withAmount first).withAmount second = row.withAmount (second.or first) := by
  cases second <;> rfl

/-- The errors of the service: its two classes, and what the database throws. -/
inductive AllocationError
  | validation (message : String)
  | policyViolation (message : String)
  | database (error : JsError)
deriving DecidableEq

/-- The calls of the service. All but the last two belong to a transaction. -/
inductive AllocationOp
  | begin
  | findUnique (id : StrategyId)
  | update (id : StrategyId) (deployedNotionalUsd : ℚ)
  | commit
  | rollback
  | getReserveStatus
  | aggregate (status : String)

abbrev AllocationOp.Ret : AllocationOp → Type
  | .findUnique _ => Option Strategy
  | .getReserveStatus => ℚ
  | .aggregate _ => Option ℚ
  | _ => Unit

abbrev allocationInterface : Interface where
  Op := AllocationOp
  Ret := AllocationOp.Ret
  Err := AllocationError

abbrev allocationCall (op : AllocationOp) : Prog allocationInterface op.Ret :=
  Prog.await (I := allocationInterface) op

/-- `prisma.$transaction`: committed when the body ends, rolled back when it throws. -/
def transaction (body : Prog allocationInterface Unit) : Prog allocationInterface Unit := do
  allocationCall .begin
  body.catchWith (fun error => do
    allocationCall .rollback
    Prog.fail error)
  allocationCall .commit

-- The database

/-- The committed rows, the amounts written by transactions that have not ended, with their
callers, and the callers whose transactions were committed, the newest first.
-/
structure World where
  strategies : AList (fun _ : StrategyId => Strategy)
  writing : StrategyId → Option (Nat × Cents) := fun _ => none
  committed : List Nat := []

namespace World

/-- The amount caller `i` has written to a row. -/
def writtenBy (w : World) (i : Nat) (id : StrategyId) : Option Cents :=
  ((w.writing id).filter (fun held => held.1 = i)).map Prod.snd

/-- A row is locked by another transaction. -/
def lockedFor (w : World) (i : Nat) (id : StrategyId) : Bool :=
  (w.writing id).any (fun held => held.1 ≠ i)

/-- The locks of caller `i` are released. -/
def released (w : World) (i : Nat) : World :=
  { w with writing := fun id => (w.writing id).filter (fun held => held.1 ≠ i) }

/-- The writes of caller `i` are committed. -/
def commit (w : World) (i : Nat) : World :=
  { w.released i with
    strategies := updateRows w.strategies (fun id row => row.withAmount (w.writtenBy i id))
    committed := i :: w.committed }

/-- The sum over the committed rows of a status, `none` over no rows. -/
def aggregate (w : World) (status : String) : Option ℚ :=
  if w.strategies.entries.any (fun e => e.2.status = status) then
    some (tableSum w.strategies (fun _ row =>
      if row.status = status then row.deployedNotionalUsd.value else 0))
  else none

end World

/-- How a call ends, and the reserve value when it is asked for. -/
structure AllocationChoice where
  outcome : Outcome AllocationError := .done
  totalReserveValueUsd : ℚ := 0

/-- What a call of caller `i` answers, and the database it leaves. -/
def allocationEffect (i : Nat) (x : AllocationChoice) (w : World)
    : (op : AllocationOp) → Except AllocationError op.Ret × World
  | .begin => (.ok (), w)
  | .findUnique id =>
      (.ok ((w.strategies.lookup id).map (Strategy.withAmount · (w.writtenBy i id))), w)
  | .update id deployedNotionalUsd =>
      if (w.strategies.lookup id).isSome then
        (.ok (), { w with
          writing := fun other =>
            if other = id then some (i, .ofDecimal deployedNotionalUsd) else w.writing other })
      else (.error (.database (.error "Record to update not found")), w)
  | .commit => (.ok (), w.commit i)
  | .rollback => (.ok (), w.released i)
  | .getReserveStatus => (.ok x.totalReserveValueUsd, w)
  | .aggregate status => (.ok (w.aggregate status), w)

/-- The row a call locks. -/
def AllocationOp.locks? : AllocationOp → Option StrategyId
  | .update id _ => some id
  | _ => none

/-- How a call ends. A rollback is not answered by an error. -/
def AllocationOp.outcome (x : AllocationChoice) : AllocationOp → Outcome AllocationError
  | .rollback => .done
  | _ => x.outcome

/-- The database after a call that failed. A transaction whose commit fails is rolled back. -/
def World.failed (w : World) (i : Nat) : AllocationOp → World
  | .commit => w.released i
  | _ => w

/-- The answer to a call of caller `i`. A write waits for the lock of its row. -/
def allocationAct (i : Nat) (op : AllocationOp) (x : AllocationChoice) (w : World)
    : Option (Except AllocationError op.Ret × World) :=
  if op.locks?.any (w.lockedFor i) && !x.outcome.isFailed then none
  else some ((op.outcome x).answer (allocationEffect i x w op) (w.failed i op))

def allocationSemantics : Semantics allocationInterface World AllocationChoice where
  act i op x w := allocationAct i op x w

variable {i : Nat} {op : AllocationOp} {x : AllocationChoice} {w w' : World}

theorem allocationAct_eq_some {reply : allocationInterface.Reply op}
    (h : allocationSemantics.act i op x w = some (reply, w'))
    : (op.locks?.any (w.lockedFor i) = false ∨ x.outcome.isFailed = true)
      ∧ (op.outcome x).answer (allocationEffect i x w op) (w.failed i op) = (reply, w') := by
  change allocationAct i op x w = _ at h
  unfold allocationAct at h
  split at h
  · cases h
  · rename_i free
    refine ⟨?_, Option.some.inj h⟩
    cases locked : op.locks?.any (w.lockedFor i) with
    | false => exact .inl rfl
    | true => exact .inr (by simpa [locked] using free)

end AcbuBackend.Investment

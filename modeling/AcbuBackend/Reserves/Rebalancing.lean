import AcbuBackend.Reserves.ReserveTracker
import Mathlib.Algebra.BigOperators.Ring.List
import Mathlib.Algebra.Order.BigOperators.Group.List
import Mathlib.Tactic.FieldSimp
import Mathlib.Tactic.Linarith
import Mathlib.Tactic.Positivity
import Mathlib.Tactic.Ring

/-! The instructions of `RebalancingEngine`, of a drift snapshot and of the rates that the
lookups answer. The excess of an overweight currency is shared out in proportion to the deficits
of the underweight ones; how much of a deficit is filled already is not looked at.
-/

namespace AcbuBackend.Reserves
open AcbuBackend.Runtime

/-- `config.reserve.driftThresholdPct`, as the environment schema accepts it. -/
structure DriftConfig where
  driftThresholdPct : ℚ
  nonnegative : 0 ≤ driftThresholdPct

structure RebalanceInstruction where
  fromCurrency : String
  toCurrency : String
  amountUsd : ℚ
  rateFromUsd : ℚ
  rateToUsd : ℚ
  amountFrom : ℚ
  amountTo : ℚ

/-- What the lookups of rates answer: the one of an overweight currency, and the one of an
underweight currency that is made for it.
-/
structure FxAnswers where
  rateFrom : String → Except JsError ℚ
  rateTo : String → String → Except JsError ℚ

-- The instructions

def overweight (config : DriftConfig) (driftSnapshot : List ReserveStatus) : List ReserveStatus :=
  driftSnapshot.filter (fun c => config.driftThresholdPct < c.weightDrift)

def underweight (config : DriftConfig) (driftSnapshot : List ReserveStatus) : List ReserveStatus :=
  driftSnapshot.filter (fun c => c.weightDrift < -config.driftThresholdPct)

def totalDeficitPct (underweight : List ReserveStatus) : ℚ :=
  underweight.foldl (fun s u => s + -u.weightDrift) 0

/-- The body of the inner loop. A lookup that fails skips the underweight currency. -/
def instructionTo (fx : FxAnswers) (underweight : List ReserveStatus) (overRow : ReserveStatus)
    (excessUsd rateFromUsd : ℚ) (underRow : ReserveStatus)
    : Option RebalanceInstruction :=
  let deficitPct := -underRow.weightDrift
  let shareOfExcess := deficitPct / totalDeficitPct underweight * excessUsd
  if shareOfExcess ≤ 0 then none
  else
    match fx.rateTo overRow.currency underRow.currency with
    | .error _ => none
    | .ok rateToUsd =>
        some {
          fromCurrency := overRow.currency
          toCurrency := underRow.currency
          amountUsd := shareOfExcess
          rateFromUsd
          rateToUsd
          amountFrom := shareOfExcess / rateFromUsd
          amountTo := shareOfExcess / rateToUsd }

/-- The body of the outer loop. A lookup that fails skips the overweight currency. -/
def instructionsFrom (fx : FxAnswers) (underweight : List ReserveStatus) (totalReserveUsd : ℚ)
    (overRow : ReserveStatus)
    : List RebalanceInstruction :=
  let excessPct := overRow.weightDrift
  let excessUsd := totalReserveUsd * excessPct / 100
  if excessUsd ≤ 0 then []
  else
    match fx.rateFrom overRow.currency with
    | .error _ => []
    | .ok rateFromUsd =>
        underweight.filterMap (instructionTo fx underweight overRow excessUsd rateFromUsd)

def generateInstructions (config : DriftConfig) (fx : FxAnswers)
    (driftSnapshot : List ReserveStatus) (totalReserveUsd : ℚ)
    : List RebalanceInstruction :=
  let overweight := overweight config driftSnapshot
  let underweight := underweight config driftSnapshot
  if overweight.length = 0 ∨ underweight.length = 0 then []
  else overweight.flatMap (instructionsFrom fx underweight totalReserveUsd)

-- What instructions move

/-- The dollars of the instructions between currencies of some kind. -/
def usdMoved (between : String → String → Bool) (instructions : List RebalanceInstruction) : ℚ :=
  ((instructions.filter (fun i => between i.fromCurrency i.toCurrency)).map (·.amountUsd)).sum

def usdOutOf (instructions : List RebalanceInstruction) (currency : String) : ℚ :=
  usdMoved (fun source _ => source = currency) instructions

def usdInto (instructions : List RebalanceInstruction) (currency : String) : ℚ :=
  usdMoved (fun _ target => target = currency) instructions

def excessUsd (totalReserveUsd : ℚ) (overRow : ReserveStatus) : ℚ :=
  totalReserveUsd * overRow.weightDrift / 100

/-- Both lookups for two currencies answer. -/
def FxAnswers.serves (fx : FxAnswers) (overRow underRow : ReserveStatus) : Bool :=
  (fx.rateFrom overRow.currency).isOk && (fx.rateTo overRow.currency underRow.currency).isOk

/-- The dollars that go from an overweight currency to an underweight one. -/
def flow (fx : FxAnswers) (underweight : List ReserveStatus) (totalReserveUsd : ℚ)
    (overRow underRow : ReserveStatus)
    : ℚ :=
  if fx.serves overRow underRow
  then -underRow.weightDrift / totalDeficitPct underweight * excessUsd totalReserveUsd overRow
  else 0

/-- How far a currency is from its target, in dollars, after all instructions. -/
def deviationAfter (instructions : List RebalanceInstruction) (totalReserveUsd : ℚ)
    (c : ReserveStatus)
    : ℚ :=
  totalReserveUsd * c.weightDrift / 100 - usdOutOf instructions c.currency
    + usdInto instructions c.currency

section

variable {α : Type} {config : DriftConfig} {fx : FxAnswers} {driftSnapshot : List ReserveStatus}
  {totalReserveUsd : ℚ} {between : String → String → Bool}

@[simp] theorem usdMoved_nil : usdMoved between [] = 0 :=
  rfl

theorem usdMoved_cons {instruction : RebalanceInstruction} {rest : List RebalanceInstruction}
    : usdMoved between (instruction :: rest)
      = (if between instruction.fromCurrency instruction.toCurrency
          then instruction.amountUsd else 0)
        + usdMoved between rest := by
  unfold usdMoved
  rw [List.filter_cons]
  split
  · rw [List.map_cons, List.sum_cons]
  · rw [zero_add]

theorem usdMoved_append {first second : List RebalanceInstruction}
    : usdMoved between (first ++ second) = usdMoved between first + usdMoved between second := by
  rw [usdMoved, List.filter_append, List.map_append, List.sum_append, usdMoved, usdMoved]

theorem usdMoved_flatMap {sources : List α} {emit : α → List RebalanceInstruction}
    : usdMoved between (sources.flatMap emit)
      = (sources.map (fun source => usdMoved between (emit source))).sum := by
  induction sources with
  | nil => rfl
  | cons source rest ih =>
      rw [List.flatMap_cons, usdMoved_append, ih, List.map_cons, List.sum_cons]

-- The two loops

theorem totalDeficitPct_eq {rows : List ReserveStatus}
    : totalDeficitPct rows = (rows.map (fun u => -u.weightDrift)).sum := by
  unfold totalDeficitPct
  rw [List.sum_eq_foldl, List.foldl_map]

theorem mem_overweight {c : ReserveStatus}
    : c ∈ overweight config driftSnapshot
      ↔ c ∈ driftSnapshot ∧ config.driftThresholdPct < c.weightDrift := by
  simp [overweight]

theorem mem_underweight {c : ReserveStatus}
    : c ∈ underweight config driftSnapshot
      ↔ c ∈ driftSnapshot ∧ c.weightDrift < -config.driftThresholdPct := by
  simp [underweight]

theorem overweight_pos {c : ReserveStatus} (member : c ∈ overweight config driftSnapshot)
    : 0 < c.weightDrift :=
  config.nonnegative.trans_lt (mem_overweight.mp member).2

theorem underweight_neg {c : ReserveStatus} (member : c ∈ underweight config driftSnapshot)
    : c.weightDrift < 0 :=
  (mem_underweight.mp member).2.trans_le (neg_nonpos.mpr config.nonnegative)

theorem totalDeficitPct_pos {c : ReserveStatus} (member : c ∈ underweight config driftSnapshot)
    : 0 < totalDeficitPct (underweight config driftSnapshot) := by
  rw [totalDeficitPct_eq]
  refine List.sum_pos _ ?_ ?_
  · intro deficit mapped
    obtain ⟨u, underRow, rfl⟩ := List.mem_map.mp mapped
    exact neg_pos.mpr (underweight_neg underRow)
  · exact List.ne_nil_of_mem (List.mem_map_of_mem member)

/-- The guard on empty sides changes nothing: the loops would emit nothing either. -/
theorem generateInstructions_eq
    : generateInstructions config fx driftSnapshot totalReserveUsd
      = (overweight config driftSnapshot).flatMap
          (instructionsFrom fx (underweight config driftSnapshot) totalReserveUsd) := by
  unfold generateInstructions
  dsimp only
  split
  · rename_i empty
    rcases empty with empty | empty
    · rw [List.length_eq_zero_iff.mp empty, List.flatMap_nil]
    · rw [List.length_eq_zero_iff.mp empty]
      refine (List.flatMap_eq_nil_iff.mpr fun overRow _ => ?_).symm
      unfold instructionsFrom
      dsimp only
      split
      · rfl
      · cases fx.rateFrom overRow.currency with
        | error _ => rfl
        | ok _ => rfl
  · rfl

theorem instructionTo_cases {underweight : List ReserveStatus} {overRow underRow : ReserveStatus}
    {excess rateFromUsd : ℚ}
    (share : 0 < -underRow.weightDrift / totalDeficitPct underweight * excess)
    : (∃ rateToUsd, fx.rateTo overRow.currency underRow.currency = .ok rateToUsd
        ∧ instructionTo fx underweight overRow excess rateFromUsd underRow = some {
            fromCurrency := overRow.currency
            toCurrency := underRow.currency
            amountUsd := -underRow.weightDrift / totalDeficitPct underweight * excess
            rateFromUsd
            rateToUsd
            amountFrom :=
              -underRow.weightDrift / totalDeficitPct underweight * excess / rateFromUsd
            amountTo :=
              -underRow.weightDrift / totalDeficitPct underweight * excess / rateToUsd })
      ∨ (∃ error, fx.rateTo overRow.currency underRow.currency = .error error)
        ∧ instructionTo fx underweight overRow excess rateFromUsd underRow = none := by
  unfold instructionTo
  dsimp only
  rw [if_neg share.not_ge]
  cases fx.rateTo overRow.currency underRow.currency with
  | error error => exact .inr ⟨⟨error, rfl⟩, rfl⟩
  | ok rateToUsd => exact .inl ⟨rateToUsd, rfl, rfl⟩

theorem usdMoved_instructionTo {unders : List ReserveStatus} {overRow : ReserveStatus}
    {rateFromUsd : ℚ} (answered : fx.rateFrom overRow.currency = .ok rateFromUsd)
    {rows : List ReserveStatus}
    (shares : ∀ underRow ∈ rows,
      0 < -underRow.weightDrift / totalDeficitPct unders * excessUsd totalReserveUsd overRow)
    : usdMoved between
        (rows.filterMap
          (instructionTo fx unders overRow (excessUsd totalReserveUsd overRow) rateFromUsd))
      = (rows.map (fun underRow =>
          if between overRow.currency underRow.currency
          then flow fx unders totalReserveUsd overRow underRow else 0)).sum := by
  induction rows with
  | nil => rfl
  | cons underRow rest ih =>
      have tail := ih fun row member => shares row (List.mem_cons_of_mem _ member)
      rw [List.map_cons, List.sum_cons, ← tail]
      rcases @instructionTo_cases fx unders overRow underRow _ rateFromUsd
          (shares underRow List.mem_cons_self) with
        ⟨rateToUsd, found, emitted⟩ | ⟨⟨error, failed⟩, skipped⟩
      · rw [List.filterMap_cons_some emitted, usdMoved_cons]
        simp [flow, FxAnswers.serves, answered, found, Except.isOk, Except.toBool]
      · rw [List.filterMap_cons_none skipped]
        simp [flow, FxAnswers.serves, answered, failed, Except.isOk, Except.toBool]

theorem share_pos {overRow underRow : ReserveStatus} (positive : 0 < totalReserveUsd)
    (above : overRow ∈ overweight config driftSnapshot)
    (below : underRow ∈ underweight config driftSnapshot)
    : 0 < -underRow.weightDrift / totalDeficitPct (underweight config driftSnapshot)
        * excessUsd totalReserveUsd overRow := by
  have deficit := neg_pos.mpr (underweight_neg below)
  have total := totalDeficitPct_pos below
  have excess := overweight_pos above
  unfold excessUsd
  positivity

theorem usdMoved_instructionsFrom {overRow : ReserveStatus} (positive : 0 < totalReserveUsd)
    (above : overRow ∈ overweight config driftSnapshot)
    : usdMoved between
        (instructionsFrom fx (underweight config driftSnapshot) totalReserveUsd overRow)
      = ((underweight config driftSnapshot).map (fun underRow =>
          if between overRow.currency underRow.currency
          then flow fx (underweight config driftSnapshot) totalReserveUsd overRow underRow
          else 0)).sum := by
  have excess : 0 < totalReserveUsd * overRow.weightDrift / 100 := by
    have := overweight_pos above
    positivity
  unfold instructionsFrom
  dsimp only
  rw [if_neg excess.not_ge]
  cases answered : fx.rateFrom overRow.currency with
  | error error =>
      have none_flows : ∀ underRow ∈ underweight config driftSnapshot,
          (if between overRow.currency underRow.currency
            then flow fx (underweight config driftSnapshot) totalReserveUsd overRow underRow
            else 0) = 0 := by
        intro underRow _
        simp [flow, FxAnswers.serves, answered, Except.isOk, Except.toBool]
      rw [List.map_congr_left none_flows]
      simp
  | ok rateFromUsd =>
      exact usdMoved_instructionTo answered fun underRow below => share_pos positive above below

theorem usdMoved_generateInstructions (positive : 0 < totalReserveUsd)
    : usdMoved between (generateInstructions config fx driftSnapshot totalReserveUsd)
      = ((overweight config driftSnapshot).map (fun overRow =>
          ((underweight config driftSnapshot).map (fun underRow =>
            if between overRow.currency underRow.currency
            then flow fx (underweight config driftSnapshot) totalReserveUsd overRow underRow
            else 0)).sum)).sum := by
  rw [generateInstructions_eq, usdMoved_flatMap]
  refine congrArg List.sum (List.map_congr_left fun overRow above => ?_)
  exact usdMoved_instructionsFrom positive above

-- Currencies that are listed once

/-- The snapshot has a single row of the currency. -/
def ListedOnce (driftSnapshot : List ReserveStatus) (c : ReserveStatus) : Prop :=
  (driftSnapshot.map (·.currency)).count c.currency = 1

theorem ListedOnce.eq {c row : ReserveStatus} (once : ListedOnce driftSnapshot c)
    (listed : c ∈ driftSnapshot) (member : row ∈ driftSnapshot)
    (same : row.currency = c.currency)
    : row = c := by
  by_contra distinct
  obtain ⟨first, second, rfl⟩ := List.append_of_mem listed
  have elsewhere : c.currency ∈ (first ++ second).map (·.currency) := by
    refine List.mem_map.mpr ⟨row, ?_, same⟩
    rcases List.mem_append.mp member with inside | inside
    · exact List.mem_append_left _ inside
    · exact List.mem_append_right _ ((List.mem_cons.mp inside).resolve_left distinct)
  have counted := List.count_pos_iff.mpr elsewhere
  unfold ListedOnce at once
  simp only [List.map_append, List.map_cons, List.count_append, List.count_cons_self]
    at once counted
  omega

theorem sum_once {rows : List ReserveStatus} {c : ReserveStatus} (sub : rows.Sublist driftSnapshot)
    (once : ListedOnce driftSnapshot c) (member : c ∈ rows) {f : ReserveStatus → ℚ}
    : (rows.map (fun row => if row.currency = c.currency then f row else 0)).sum
      = f c := by
  obtain ⟨first, second, rfl⟩ := List.append_of_mem member
  have counted : ((first ++ c :: second).map (·.currency)).count c.currency ≤ 1 :=
    once ▸ (sub.map _).count_le _
  have absent : ∀ row ∈ first ++ second, ¬row.currency = c.currency := by
    intro row inside same
    have there : c.currency ∈ (first ++ second).map (·.currency) :=
      List.mem_map.mpr ⟨row, inside, same⟩
    have positive := List.count_pos_iff.mpr there
    simp only [List.map_append, List.map_cons, List.count_append, List.count_cons_self]
      at counted positive
    omega
  have zeros : ∀ part : List ReserveStatus, part ⊆ first ++ second →
      (part.map (fun row => if row.currency = c.currency then f row else 0)).sum = 0 := by
    intro part inside
    refine List.sum_eq_zero fun value mapped => ?_
    obtain ⟨row, rowMember, rfl⟩ := List.mem_map.mp mapped
    exact if_neg (absent row (inside rowMember))
  rw [List.map_append, List.sum_append, List.map_cons, List.sum_cons, if_pos rfl,
    zeros first (List.subset_append_left _ _), zeros second (List.subset_append_right _ _),
    zero_add, add_zero]

theorem overweight_sublist : (overweight config driftSnapshot).Sublist driftSnapshot :=
  List.filter_sublist

theorem underweight_sublist : (underweight config driftSnapshot).Sublist driftSnapshot :=
  List.filter_sublist

theorem currency_ne {overRow underRow : ReserveStatus}
    (once : ListedOnce driftSnapshot overRow ∨ ListedOnce driftSnapshot underRow)
    (above : overRow ∈ overweight config driftSnapshot)
    (below : underRow ∈ underweight config driftSnapshot)
    : overRow.currency ≠ underRow.currency := by
  intro same
  have apart : overRow = underRow := by
    rcases once with once | once
    · exact (once.eq (mem_overweight.mp above).1 (mem_underweight.mp below).1 same.symm).symm
    · exact once.eq (mem_underweight.mp below).1 (mem_overweight.mp above).1 same
  have negative := underweight_neg below
  rw [← apart] at negative
  exact negative.not_gt (overweight_pos above)

section

variable {c : ReserveStatus} (positive : 0 < totalReserveUsd) (once : ListedOnce driftSnapshot c)

include positive once

theorem usdOutOf_overweight (above : c ∈ overweight config driftSnapshot)
    : usdOutOf (generateInstructions config fx driftSnapshot totalReserveUsd) c.currency
      = ((underweight config driftSnapshot).map
          (flow fx (underweight config driftSnapshot) totalReserveUsd c)).sum := by
  rw [usdOutOf, usdMoved_generateInstructions positive]
  rw [← sum_once (f := fun overRow => ((underweight config driftSnapshot).map
    (flow fx (underweight config driftSnapshot) totalReserveUsd overRow)).sum)
    overweight_sublist once above]
  refine congrArg List.sum (List.map_congr_left fun overRow _ => ?_)
  by_cases same : overRow.currency = c.currency
  · simp [same]
  · simp [same]

theorem usdInto_underweight (below : c ∈ underweight config driftSnapshot)
    : usdInto (generateInstructions config fx driftSnapshot totalReserveUsd) c.currency
      = ((overweight config driftSnapshot).map (fun overRow =>
          flow fx (underweight config driftSnapshot) totalReserveUsd overRow c)).sum := by
  rw [usdInto, usdMoved_generateInstructions positive]
  refine congrArg List.sum (List.map_congr_left fun overRow _ => ?_)
  rw [← sum_once (f := flow fx (underweight config driftSnapshot) totalReserveUsd overRow)
    underweight_sublist once below]
  simp

theorem usdInto_overweight (above : c ∈ overweight config driftSnapshot)
    : usdInto (generateInstructions config fx driftSnapshot totalReserveUsd) c.currency = 0 := by
  rw [usdInto, usdMoved_generateInstructions positive]
  refine List.sum_eq_zero fun value mapped => ?_
  obtain ⟨overRow, -, rfl⟩ := List.mem_map.mp mapped
  refine List.sum_eq_zero fun value mapped => ?_
  obtain ⟨underRow, below, rfl⟩ := List.mem_map.mp mapped
  rw [if_neg (by simpa using (currency_ne (.inl once) above below).symm)]

theorem usdOutOf_underweight (below : c ∈ underweight config driftSnapshot)
    : usdOutOf (generateInstructions config fx driftSnapshot totalReserveUsd) c.currency = 0 := by
  rw [usdOutOf, usdMoved_generateInstructions positive]
  refine List.sum_eq_zero fun value mapped => ?_
  obtain ⟨overRow, above, rfl⟩ := List.mem_map.mp mapped
  refine List.sum_eq_zero fun value mapped => ?_
  obtain ⟨underRow, -, rfl⟩ := List.mem_map.mp mapped
  rw [if_neg (by simpa using currency_ne (.inr once) above below)]

end

-- Conservation

theorem sum_shares {rows : List ReserveStatus} (deficit : totalDeficitPct rows ≠ 0) {excess : ℚ}
    : (rows.map (fun u => -u.weightDrift / totalDeficitPct rows * excess)).sum = excess := by
  have pulled : (rows.map (fun u => -u.weightDrift / totalDeficitPct rows * excess)).sum
      = totalDeficitPct rows * (excess / totalDeficitPct rows) := by
    rw [totalDeficitPct_eq, ← List.sum_map_mul_right]
    refine congrArg List.sum (List.map_congr_left fun u _ => ?_)
    ring
  rw [pulled, mul_div_cancel₀ _ deficit]

theorem flow_le_share {overRow underRow : ReserveStatus} (positive : 0 < totalReserveUsd)
    (above : overRow ∈ overweight config driftSnapshot)
    (below : underRow ∈ underweight config driftSnapshot)
    : flow fx (underweight config driftSnapshot) totalReserveUsd overRow underRow
      ≤ -underRow.weightDrift / totalDeficitPct (underweight config driftSnapshot)
          * excessUsd totalReserveUsd overRow := by
  unfold flow
  split
  · exact le_rfl
  · exact (share_pos positive above below).le

theorem usdOutOf_le {c : ReserveStatus} (positive : 0 < totalReserveUsd)
    (once : ListedOnce driftSnapshot c) (above : c ∈ overweight config driftSnapshot)
    : usdOutOf (generateInstructions config fx driftSnapshot totalReserveUsd) c.currency
      ≤ excessUsd totalReserveUsd c := by
  rw [usdOutOf_overweight positive once above]
  by_cases none_below : underweight config driftSnapshot = []
  · rw [none_below]
    have excess := overweight_pos above
    unfold excessUsd
    simp only [List.map_nil, List.sum_nil]
    positivity
  · obtain ⟨first, below⟩ := List.exists_mem_of_ne_nil _ none_below
    calc _ ≤ ((underweight config driftSnapshot).map (fun u =>
              -u.weightDrift / totalDeficitPct (underweight config driftSnapshot)
                * excessUsd totalReserveUsd c)).sum :=
          List.sum_le_sum fun u member => flow_le_share positive above member
      _ = excessUsd totalReserveUsd c := sum_shares (totalDeficitPct_pos below).ne'

/-- All lookups for an overweight currency answer. -/
def FxAnswers.AnswersAll (fx : FxAnswers) (config : DriftConfig)
    (driftSnapshot : List ReserveStatus) (c : ReserveStatus) : Prop :=
  (∃ rate, fx.rateFrom c.currency = .ok rate)
  ∧ ∀ u ∈ underweight config driftSnapshot, ∃ rate, fx.rateTo c.currency u.currency = .ok rate

theorem usdOutOf_eq {c u : ReserveStatus} (positive : 0 < totalReserveUsd)
    (once : ListedOnce driftSnapshot c) (above : c ∈ overweight config driftSnapshot)
    (below : u ∈ underweight config driftSnapshot)
    (answers : fx.AnswersAll config driftSnapshot c)
    : usdOutOf (generateInstructions config fx driftSnapshot totalReserveUsd) c.currency
      = excessUsd totalReserveUsd c := by
  rw [usdOutOf_overweight positive once above]
  refine Eq.trans ?_ (sum_shares (totalDeficitPct_pos below).ne')
  refine congrArg List.sum (List.map_congr_left fun row member => ?_)
  obtain ⟨⟨rateFrom, answered⟩, others⟩ := answers
  obtain ⟨rateTo, found⟩ := others row member
  unfold flow FxAnswers.serves
  rw [answered, found]
  rfl

/-- What is said of every instruction: it is emitted from above the threshold to below it, for
dollars that are exchanged at the rates of the lookups.
-/
structure Emitted (config : DriftConfig) (fx : FxAnswers) (driftSnapshot : List ReserveStatus)
    (instruction : RebalanceInstruction) : Prop where
  positive : 0 < instruction.amountUsd
  source : ∃ c ∈ driftSnapshot, c.currency = instruction.fromCurrency
    ∧ config.driftThresholdPct < c.weightDrift
  target : ∃ c ∈ driftSnapshot, c.currency = instruction.toCurrency
    ∧ c.weightDrift < -config.driftThresholdPct
  different : instruction.fromCurrency ≠ instruction.toCurrency
  rateFrom : fx.rateFrom instruction.fromCurrency = .ok instruction.rateFromUsd
  rateTo : fx.rateTo instruction.fromCurrency instruction.toCurrency = .ok instruction.rateToUsd
  amountFrom : instruction.amountFrom = instruction.amountUsd / instruction.rateFromUsd
  amountTo : instruction.amountTo = instruction.amountUsd / instruction.rateToUsd

theorem emitted_of_mem (positive : 0 < totalReserveUsd)
    (distinct : (driftSnapshot.map (·.currency)).Nodup) {instruction : RebalanceInstruction}
    (member : instruction ∈ generateInstructions config fx driftSnapshot totalReserveUsd)
    : Emitted config fx driftSnapshot instruction := by
  rw [generateInstructions_eq] at member
  obtain ⟨overRow, above, emitted⟩ := List.mem_flatMap.mp member
  have once : ListedOnce driftSnapshot overRow :=
    List.count_eq_one_of_mem distinct (List.mem_map_of_mem (mem_overweight.mp above).1)
  unfold instructionsFrom at emitted
  dsimp only at emitted
  split at emitted
  · cases emitted
  · cases answered : fx.rateFrom overRow.currency with
    | error error =>
        rw [answered] at emitted
        cases emitted
    | ok rateFromUsd =>
        rw [answered] at emitted
        obtain ⟨underRow, below, made⟩ := List.mem_filterMap.mp emitted
        have share := share_pos positive above below
        rcases @instructionTo_cases fx _ overRow underRow _ rateFromUsd share with
          ⟨rateToUsd, found, emitted⟩ | ⟨-, skipped⟩
        · cases emitted.symm.trans made
          exact {
            positive := share
            source := ⟨overRow, (mem_overweight.mp above).1, rfl, (mem_overweight.mp above).2⟩
            target := ⟨underRow, (mem_underweight.mp below).1, rfl, (mem_underweight.mp below).2⟩
            different := currency_ne (.inl once) above below
            rateFrom := answered
            rateTo := found
            amountFrom := rfl
            amountTo := rfl }
        · cases skipped.symm.trans made

/-- All rates that the lookups answer are positive. -/
def FxAnswers.Positive (fx : FxAnswers) : Prop :=
  (∀ currency rate, fx.rateFrom currency = .ok rate → 0 < rate)
  ∧ ∀ source target rate, fx.rateTo source target = .ok rate → 0 < rate

/-- Every instruction goes from above the threshold to below it, at the rates of the lookups. Out of
each overweight currency goes no more than its excess, and the whole excess where some currency is
below the threshold and no lookup fails.
-/
theorem generateInstructions_conserves (config : DriftConfig) (fx : FxAnswers)
    (driftSnapshot : List ReserveStatus) (totalReserveUsd : ℚ)
    (distinct : (driftSnapshot.map (·.currency)).Nodup) (positive : 0 < totalReserveUsd)
    (rates : fx.Positive)
    : let instructions := generateInstructions config fx driftSnapshot totalReserveUsd
      (∀ instruction ∈ instructions,
        Emitted config fx driftSnapshot instruction
        ∧ 0 < instruction.amountFrom ∧ 0 < instruction.amountTo)
      ∧ ∀ c ∈ driftSnapshot, config.driftThresholdPct < c.weightDrift →
        usdOutOf instructions c.currency ≤ totalReserveUsd * c.weightDrift / 100
        ∧ ((∃ u ∈ driftSnapshot, u.weightDrift < -config.driftThresholdPct) →
            fx.AnswersAll config driftSnapshot c →
            usdOutOf instructions c.currency = totalReserveUsd * c.weightDrift / 100) := by
  constructor
  · intro instruction member
    have emitted := emitted_of_mem positive distinct member
    refine ⟨emitted, ?_, ?_⟩
    · rw [emitted.amountFrom]
      exact div_pos emitted.positive (rates.1 _ _ emitted.rateFrom)
    · rw [emitted.amountTo]
      exact div_pos emitted.positive (rates.2 _ _ _ emitted.rateTo)
  · intro c listed drift
    have above : c ∈ overweight config driftSnapshot := mem_overweight.mpr ⟨listed, drift⟩
    have once : ListedOnce driftSnapshot c :=
      List.count_eq_one_of_mem distinct (List.mem_map_of_mem listed)
    refine ⟨usdOutOf_le positive once above, ?_⟩
    rintro ⟨u, member, deficit⟩ answers
    exact usdOutOf_eq positive once above (mem_underweight.mpr ⟨member, deficit⟩) answers

def onePercent : DriftConfig where
  driftThresholdPct := 1
  nonnegative := zero_le_one

def driftedStatus (currency : String) (weightDrift : ℚ) : ReserveStatus where
  currency := currency
  targetWeight := 25
  actualWeight := 25 + weightDrift
  reserveAmount := 100
  reserveValueUsd := 100
  weightDrift := weightDrift

def twoDollars : FxAnswers where
  rateFrom _ := .ok 2
  rateTo _ _ := .ok 2

theorem twoDollars_positive : twoDollars.Positive := by
  constructor
  · intro currency rate answered
    cases answered
    exact two_pos
  · intro source target rate answered
    cases answered
    exact two_pos

def oneUnderweight : List ReserveStatus :=
  [driftedStatus "KES" 3, driftedStatus "NGN" (-5 / 2), driftedStatus "GHS" (-1 / 2)]

def noneUnderweight : List ReserveStatus :=
  [driftedStatus "KES" 2, driftedStatus "NGN" (-1), driftedStatus "GHS" (-1)]

theorem generateInstructions_conserves_sample
    : let instructions := generateInstructions onePercent twoDollars oneUnderweight 1000
      (∀ instruction ∈ instructions,
        Emitted onePercent twoDollars oneUnderweight instruction
        ∧ 0 < instruction.amountFrom ∧ 0 < instruction.amountTo)
      ∧ ∀ c ∈ oneUnderweight, onePercent.driftThresholdPct < c.weightDrift →
        usdOutOf instructions c.currency ≤ 1000 * c.weightDrift / 100
        ∧ ((∃ u ∈ oneUnderweight, u.weightDrift < -onePercent.driftThresholdPct) →
            twoDollars.AnswersAll onePercent oneUnderweight c →
            usdOutOf instructions c.currency = 1000 * c.weightDrift / 100) :=
  generateInstructions_conserves onePercent twoDollars oneUnderweight 1000 (by decide +kernel)
    (by decide +kernel) twoDollars_positive

/-- Where none is below the threshold the excess stays, though no lookup fails. -/
theorem excess_stays
    : (noneUnderweight.map (·.currency)).Nodup
      ∧ twoDollars.Positive
      ∧ driftedStatus "KES" 2 ∈ noneUnderweight
      ∧ onePercent.driftThresholdPct < (driftedStatus "KES" 2).weightDrift
      ∧ twoDollars.AnswersAll onePercent noneUnderweight (driftedStatus "KES" 2)
      ∧ usdOutOf (generateInstructions onePercent twoDollars noneUnderweight 1000) "KES" = 0
      ∧ 1000 * (driftedStatus "KES" 2).weightDrift / 100 = 20 := by
  refine ⟨by decide +kernel, twoDollars_positive, by decide +kernel, by decide +kernel, ?_,
    by decide +kernel, by decide +kernel⟩
  exact ⟨⟨2, rfl⟩, fun u _ => ⟨2, rfl⟩⟩

-- Overshoot

/-- The excess that is shared out to an underweight currency as well, in percent. -/
def servedExcessPct (config : DriftConfig) (fx : FxAnswers) (driftSnapshot : List ReserveStatus)
    (c : ReserveStatus)
    : ℚ :=
  (((overweight config driftSnapshot).filter (fx.serves · c)).map (·.weightDrift)).sum

/-- The drifts of the currencies that are left alone. -/
def driftWithin (config : DriftConfig) (driftSnapshot : List ReserveStatus) : ℚ :=
  ((driftSnapshot.filter (fun c => |c.weightDrift| ≤ config.driftThresholdPct)).map
    (·.weightDrift)).sum

theorem sum_drifts
    : (driftSnapshot.map (·.weightDrift)).sum
      = ((overweight config driftSnapshot).map (·.weightDrift)).sum
        - totalDeficitPct (underweight config driftSnapshot)
        + driftWithin config driftSnapshot := by
  have threshold := config.nonnegative
  rw [totalDeficitPct_eq]
  unfold overweight underweight driftWithin
  induction driftSnapshot with
  | nil => simp
  | cons c rest ih =>
      simp only [List.map_cons, List.sum_cons, List.filter_cons, decide_eq_true_eq]
      rcases lt_or_ge config.driftThresholdPct c.weightDrift with above | notAbove
      · have notBelow : ¬c.weightDrift < -config.driftThresholdPct := by linarith
        have outside : ¬|c.weightDrift| ≤ config.driftThresholdPct :=
          (above.trans_le (le_abs_self _)).not_ge
        rw [if_pos above, if_neg notBelow, if_neg outside, List.map_cons, List.sum_cons]
        linarith
      · rw [if_neg notAbove.not_gt]
        by_cases below : c.weightDrift < -config.driftThresholdPct
        · have outside : ¬|c.weightDrift| ≤ config.driftThresholdPct := by
            have := neg_le_abs c.weightDrift
            exact not_le.mpr (by linarith)
          rw [if_pos below, if_neg outside, List.map_cons, List.sum_cons]
          linarith
        · have inside : |c.weightDrift| ≤ config.driftThresholdPct :=
            abs_le.mpr ⟨not_lt.mp below, notAbove⟩
          rw [if_neg below, if_pos inside, List.map_cons, List.sum_cons]
          linarith

theorem servedExcessPct_le {c : ReserveStatus}
    : servedExcessPct config fx driftSnapshot c
      ≤ ((overweight config driftSnapshot).map (·.weightDrift)).sum := by
  unfold servedExcessPct
  refine (List.filter_sublist.map _).sum_le_sum ?_
  intro drift mapped
  obtain ⟨overRow, above, rfl⟩ := List.mem_map.mp mapped
  exact (overweight_pos above).le

theorem sum_flows {c : ReserveStatus} {rows unders : List ReserveStatus}
    : (rows.map (fun overRow => flow fx unders totalReserveUsd overRow c)).sum
      = -c.weightDrift / totalDeficitPct unders * (totalReserveUsd / 100)
        * ((rows.filter (fx.serves · c)).map (·.weightDrift)).sum := by
  induction rows with
  | nil => simp
  | cons overRow rest ih =>
      rw [List.map_cons, List.sum_cons, ih, List.filter_cons]
      unfold flow excessUsd
      split
      · rw [List.map_cons, List.sum_cons]
        ring
      · ring

/-- After all instructions an underweight currency is off by the part of the excess that is shared
out to it beyond the deficits.
-/
theorem deviationAfter_underweight {c : ReserveStatus} (positive : 0 < totalReserveUsd)
    (once : ListedOnce driftSnapshot c) (below : c ∈ underweight config driftSnapshot)
    : deviationAfter (generateInstructions config fx driftSnapshot totalReserveUsd)
        totalReserveUsd c
      = -c.weightDrift / totalDeficitPct (underweight config driftSnapshot)
        * (totalReserveUsd / 100)
        * (servedExcessPct config fx driftSnapshot c
          - totalDeficitPct (underweight config driftSnapshot)) := by
  have deficit := totalDeficitPct_pos below
  unfold deviationAfter
  rw [usdOutOf_underweight positive once below, usdInto_underweight positive once below, sum_flows]
  unfold servedExcessPct
  field_simp
  ring

theorem deviationAfter_overweight {c : ReserveStatus} (positive : 0 < totalReserveUsd)
    (once : ListedOnce driftSnapshot c) (above : c ∈ overweight config driftSnapshot)
    : 0 ≤ deviationAfter (generateInstructions config fx driftSnapshot totalReserveUsd)
        totalReserveUsd c := by
  have most := @usdOutOf_le config fx _ _ c positive once above
  unfold excessUsd at most
  unfold deviationAfter
  rw [usdInto_overweight positive once above]
  linarith

theorem deviationAfter_underweight_iff {c : ReserveStatus} (positive : 0 < totalReserveUsd)
    (once : ListedOnce driftSnapshot c) (below : c ∈ underweight config driftSnapshot)
    : deviationAfter (generateInstructions config fx driftSnapshot totalReserveUsd)
        totalReserveUsd c ≤ 0
      ↔ servedExcessPct config fx driftSnapshot c
        ≤ totalDeficitPct (underweight config driftSnapshot) := by
  have share : 0 < -c.weightDrift / totalDeficitPct (underweight config driftSnapshot)
      * (totalReserveUsd / 100) := by
    have := neg_pos.mpr (underweight_neg below)
    have := totalDeficitPct_pos below
    positivity
  rw [deviationAfter_underweight positive once below]
  constructor
  · intro settled
    exact sub_nonpos.mp (nonpos_of_mul_nonpos_right settled share)
  · intro enough
    exact mul_nonpos_of_nonneg_of_nonpos share.le (sub_nonpos.mpr enough)

/-- No instructions move an overweight currency below its target. They move an underweight one
above it just where the excess that is shared out to it is more than all deficits, and never where
the drifts within the threshold add up to zero or more.
-/
theorem overshoot_iff (config : DriftConfig) (fx : FxAnswers)
    (driftSnapshot : List ReserveStatus) (totalReserveUsd : ℚ)
    (balanced : (driftSnapshot.map (·.weightDrift)).sum = 0) (positive : 0 < totalReserveUsd)
    : let after :=
        deviationAfter (generateInstructions config fx driftSnapshot totalReserveUsd)
          totalReserveUsd
      ∀ c ∈ driftSnapshot, ListedOnce driftSnapshot c →
        (config.driftThresholdPct < c.weightDrift → 0 ≤ after c)
        ∧ (c.weightDrift < -config.driftThresholdPct →
            (after c ≤ 0
              ↔ servedExcessPct config fx driftSnapshot c
                ≤ totalDeficitPct (underweight config driftSnapshot))
            ∧ (0 ≤ driftWithin config driftSnapshot → after c ≤ 0)) := by
  intro after c listed once
  refine ⟨fun above => ?_, fun below => ?_⟩
  · exact deviationAfter_overweight positive once (mem_overweight.mpr ⟨listed, above⟩)
  · have settled := @deviationAfter_underweight_iff config fx _ _ c positive once
      (mem_underweight.mpr ⟨listed, below⟩)
    refine ⟨settled, fun within => settled.mpr ?_⟩
    have served := @servedExcessPct_le config fx driftSnapshot c
    have parts := @sum_drifts config driftSnapshot
    linarith

theorem overshoot_iff_sample
    : let after :=
        deviationAfter (generateInstructions onePercent twoDollars oneUnderweight 1000) 1000
      ∀ c ∈ oneUnderweight, ListedOnce oneUnderweight c →
        (onePercent.driftThresholdPct < c.weightDrift → 0 ≤ after c)
        ∧ (c.weightDrift < -onePercent.driftThresholdPct →
            (after c ≤ 0
              ↔ servedExcessPct onePercent twoDollars oneUnderweight c
                ≤ totalDeficitPct (underweight onePercent oneUnderweight))
            ∧ (0 ≤ driftWithin onePercent oneUnderweight → after c ≤ 0)) :=
  overshoot_iff onePercent twoDollars oneUnderweight 1000 (by decide +kernel) (by decide +kernel)

/-- An excess of 3 % fills a deficit of 2.5 %, since the third currency is within the threshold. -/
theorem deficit_overfilled
    : (oneUnderweight.map (·.currency)).Nodup
      ∧ (oneUnderweight.map (·.weightDrift)).sum = 0
      ∧ (driftedStatus "NGN" (-5 / 2)).weightDrift < -onePercent.driftThresholdPct
      ∧ deviationAfter (generateInstructions onePercent twoDollars oneUnderweight 1000) 1000
          (driftedStatus "NGN" (-5 / 2)) = 5 := by
  refine ⟨?_, ?_, ?_, ?_⟩
  · decide +kernel
  · decide +kernel
  · decide +kernel
  · decide +kernel

end

end AcbuBackend.Reserves

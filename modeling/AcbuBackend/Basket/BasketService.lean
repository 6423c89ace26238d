import AcbuBackend.Metrics.MetricsService
import AcbuBackend.Runtime.Errors
import AcbuBackend.Runtime.NumberText

/-! The basket that is read from the table of weights, and what it was at a date.
The weights are decimals with two places, their sum is one of doubles. The rounding to basis points
takes its errors away again.
-/

namespace AcbuBackend.Basket

open Numeric AcbuBackend.Runtime

/-- A value of a column of type `Decimal(5, 2)`. -/
structure WeightColumn where
  hundredths : ℤ
  bounded : |hundredths| < 100000

namespace WeightColumn

def value (weight : WeightColumn) : ℚ :=
  weight.hundredths / 100

/-- The nearest double. -/
def toNumber (weight : WeightColumn) : ℚ :=
  double.round weight.value

end WeightColumn

/-- A row of `basket_config`. -/
structure BasketConfig where
  effectiveFrom : ℤ
  currency : String
  weight : WeightColumn
  status : String

structure BasketEntry where
  currency : String
  weight : ℚ

def getDefaultBasket : List BasketEntry :=
  Metrics.BASKET_CURRENCIES.map fun c => ⟨c, (BASKET_WEIGHTS.lookup c).getD 0⟩

/-- `Math.round`. -/
def mathRound (x : ℚ) : ℤ :=
  ⌊x + 1 / 2⌋

/-- The active rows, up to a date if there is one. -/
def activeRows (table : List BasketConfig) (upTo : Option ℤ) : List BasketConfig :=
  table.filter (fun row => row.status = "active" && upTo.all (row.effectiveFrom ≤ ·))

/-- They are found newest first. -/
def findActive (table : List BasketConfig) (upTo : Option ℤ) : List BasketConfig :=
  (activeRows table upTo).mergeSort (fun row other => other.effectiveFrom ≤ row.effectiveFrom)

/-- The rows of the version that comes first. -/
def latestRows : List BasketConfig → List BasketConfig
  | [] => []
  | first :: rows =>
      (first :: rows).filter (fun row => row.effectiveFrom = first.effectiveFrom)

def sumBps (rows : List BasketConfig) : ℤ :=
  let sum := (rows.map fun row => row.weight.value).foldl double.addRounded 0
  mathRound (double.round (sum * 100))

def invalidWeights (label : String) (sum : ℤ) : JsError :=
  .error (s!"Invalid active BasketConfig weights{label}: sum {sum} bps != expected "
    ++ s!"{BASKET_WEIGHT_BASIS_POINTS} bps")

/-- The basket of some rows; an error names the date it is read for. -/
def basketOf (label : String) (rows : List BasketConfig) : Except JsError (List BasketEntry) :=
  if sumBps rows ≠ BASKET_WEIGHT_BASIS_POINTS then .error (invalidWeights label (sumBps rows))
  else
    .ok (rows.map fun row =>
      ⟨row.currency, double.round (mathRound (double.round (row.weight.toNumber * 100)) / 100)⟩)

def getCurrentBasket (table : List BasketConfig) : Except JsError (List BasketEntry) :=
  match findActive table none with
  | [] => .ok getDefaultBasket
  | rows => basketOf "" (latestRows rows)

def getBasketAsOf (toISOString : ℤ → String) (table : List BasketConfig) (date : ℤ)
    : Except JsError (List BasketEntry) :=
  match findActive table (some date) with
  | [] => .ok []
  | rows => basketOf s!" as-of {toISOString date}" (latestRows rows)

-- The doubles

theorem mathRound_near {x : ℚ} {n : ℤ} (near : |x - n| < 1 / 2) : mathRound x = n := by
  rw [abs_lt] at near
  rw [mathRound, Int.floor_eq_iff]
  constructor <;> linarith

/-- A double that is near to an integer is rounded to it. -/
theorem mathRound_double {x : ℚ} {n : ℤ} (near : |x - n| ≤ 1 / 4) (bounded : |x| < 2 ^ (33 : ℤ))
    : mathRound (double.round x) = n := by
  have step := @BinaryFormat.abs_round_sub_le_of_lt double x 33 bounded (by decide)
  have place : (2 : ℚ) ^ ((33 : ℤ) - double.precision) / 2 ≤ 1 / 8 := by norm_num [double]
  refine mathRound_near ?_
  rw [abs_le] at near step
  rw [abs_lt]
  constructor <;> linarith

/-- The error of a sum of doubles, for as many weights as this. -/
theorem abs_sum_doubles_sub_le {values : List ℚ} (bounded : ∀ x ∈ values, |x| ≤ 1000)
    (few : values.length ≤ 65536)
    : |values.foldl double.addRounded 0 - values.sum| ≤ 1 / 1024 := by
  have count : (values.length : ℚ) ≤ 65536 := by exact_mod_cast few
  have place : (2 : ℚ) ^ ((26 : ℤ) - double.precision) = 1 / 2 ^ 27 := by norm_num [double]
  have room : ((0 + values.length : ℕ) : ℚ) * (1000 + 1) < 2 ^ (26 : ℤ) := by
    rw [Nat.zero_add]
    norm_num
    linarith
  have near := @BinaryFormat.abs_foldl_addRounded_sub_le double 1000 26 (by decide) (by decide)
    (by norm_num) values bounded 0 0 0 (by simp) (by simp) room
  rw [Nat.zero_add, zero_add, place] at near
  exact near.trans (by linarith)

section

variable {rows : List BasketConfig}

theorem WeightColumn.abs_value_le (weight : WeightColumn) : |weight.value| ≤ 1000 := by
  have bounded : |(weight.hundredths : ℚ)| < 100000 := by exact_mod_cast weight.bounded
  rw [value, abs_div, abs_of_pos (by norm_num : (0 : ℚ) < 100)]
  linarith

theorem sum_values_mul
    : (rows.map fun row => row.weight.value).sum * 100
      = ((rows.map fun row => row.weight.hundredths).sum : ℤ) := by
  induction rows with
  | nil => simp
  | cons row rows ih =>
      simp only [List.map_cons, List.sum_cons, add_mul, Int.cast_add, ih]
      rw [WeightColumn.value, div_mul_cancel₀ _ (by norm_num)]

theorem abs_sum_values_le
    : |(rows.map fun row => row.weight.value).sum| ≤ rows.length * 1000 := by
  induction rows with
  | nil => simp
  | cons row rows ih =>
      have own := row.weight.abs_value_le
      rw [List.map_cons, List.sum_cons, List.length_cons]
      push_cast
      rw [abs_le] at ih own ⊢
      constructor <;> linarith

/-- The sum in basis points is exact for every basket that there can be. -/
theorem sumBps_eq (few : rows.length ≤ 65536)
    : sumBps rows = (rows.map fun row => row.weight.hundredths).sum := by
  have count : (rows.length : ℚ) ≤ 65536 := by exact_mod_cast few
  have total := @abs_sum_values_le rows
  have near := abs_sum_doubles_sub_le
    (List.forall_mem_map.mpr fun (row : BasketConfig) (_ : row ∈ rows) => row.weight.abs_value_le)
    (by rwa [List.length_map])
  have scaled := @sum_values_mul rows
  unfold sumBps
  refine mathRound_double ?_ ?_
  · rw [← scaled]
    rw [abs_le] at near ⊢
    constructor <;> linarith
  · rw [abs_le] at near total
    rw [abs_lt]
    norm_num
    constructor <;> linarith

theorem WeightColumn.served_eq (weight : WeightColumn)
    : double.round (mathRound (double.round (weight.toNumber * 100)) / 100) = weight.toNumber := by
  have size := weight.abs_value_le
  have near := @BinaryFormat.abs_round_sub_le_of_lt double weight.value 10
    (size.trans_lt (by norm_num)) (by decide)
  have place : (2 : ℚ) ^ ((10 : ℤ) - double.precision) / 2 ≤ 1 / 400 := by norm_num [double]
  have scaled : weight.value * 100 = weight.hundredths := div_mul_cancel₀ _ (by norm_num)
  have whole : mathRound (double.round (weight.toNumber * 100)) = weight.hundredths := by
    unfold toNumber
    rw [abs_le] at near size
    refine mathRound_double ?_ ?_
    · rw [← scaled, abs_le]
      constructor <;> linarith
    · rw [abs_lt]
      norm_num
      constructor <;> linarith
  rw [whole]
  rfl

end

-- The versions that are read

/-- The rows of the newest version that is active, up to a date if there is one. -/
def newestVersion (table : List BasketConfig) (upTo : Option ℤ) : List BasketConfig :=
  (activeRows table upTo).filter (fun row =>
    (activeRows table upTo).all (fun other => other.effectiveFrom ≤ row.effectiveFrom))

/-- A basket whose weights are a hundred exactly, each as its nearest double. -/
def exactBasket (label : String) (rows : List BasketConfig) : Except JsError (List BasketEntry) :=
  let total := (rows.map fun row => row.weight.hundredths).sum
  if total ≠ BASKET_WEIGHT_BASIS_POINTS then .error (invalidWeights label total)
  else .ok (rows.map fun row => ⟨row.currency, row.weight.toNumber⟩)

section

variable {table : List BasketConfig} {upTo : Option ℤ}

theorem basketOf_eq {label : String} {rows : List BasketConfig} (few : rows.length ≤ 65536)
    : basketOf label rows = exactBasket label rows := by
  unfold basketOf exactBasket
  rw [sumBps_eq few]
  simp only [WeightColumn.served_eq]

/-- The rows that come first are those of the newest version. -/
theorem latestRows_perm
    : (latestRows (findActive table upTo)).Perm (newestVersion table upTo) := by
  have perm : (findActive table upTo).Perm (activeRows table upTo) := List.mergeSort_perm _ _
  have sorted : (findActive table upTo).Pairwise
      (fun row other => decide (other.effectiveFrom ≤ row.effectiveFrom) = true) :=
    List.pairwise_mergeSort (fun a b c => by simp only [decide_eq_true_eq]; omega)
      (fun a b => by simp only [Bool.or_eq_true, decide_eq_true_eq]; omega) _
  unfold newestVersion
  cases found : findActive table upTo with
  | nil =>
      rw [found] at perm
      rw [List.nil_perm.mp perm]
      exact .nil
  | cons first rest =>
      rw [found] at perm sorted
      have newest : ∀ row ∈ activeRows table upTo, row.effectiveFrom ≤ first.effectiveFrom := by
        intro row member
        rcases List.mem_cons.mp (perm.mem_iff.mpr member) with rfl | later
        · exact le_rfl
        · simpa using (List.pairwise_cons.mp sorted).1 row later
      have own : first ∈ activeRows table upTo := perm.mem_iff.mp List.mem_cons_self
      -- a row is of the newest version exactly when it has the date of the first one
      have same : (activeRows table upTo).filter (fun row =>
            (activeRows table upTo).all (fun other => other.effectiveFrom ≤ row.effectiveFrom))
          = (activeRows table upTo).filter
              (fun row => row.effectiveFrom = first.effectiveFrom) := by
        refine List.filter_congr fun row member => ?_
        rw [Bool.eq_iff_iff, List.all_eq_true, decide_eq_true_eq]
        constructor
        · intro above
          exact le_antisymm (newest row member) (by simpa using above first own)
        · intro dated other there
          simpa [dated] using newest other there
      rw [same]
      exact perm.filter fun (row : BasketConfig) => row.effectiveFrom = first.effectiveFrom

theorem latestRows_few (few : table.length ≤ 65536)
    : (latestRows (findActive table upTo)).length ≤ 65536 := by
  rw [(@latestRows_perm table upTo).length_eq]
  exact ((List.filter_sublist.trans List.filter_sublist).length_le).trans few

theorem latestRows_ne_nil {first : BasketConfig} {rest : List BasketConfig}
    : latestRows (first :: rest) ≠ [] :=
  List.ne_nil_of_mem (List.mem_filter.mpr ⟨List.mem_cons_self, by simp⟩)

/-- The basket is the newest active version, as it is stored, or there is none: it is accepted
exactly where its stored weights sum to a hundred, and an error names their exact sum.
-/
theorem baskets_exact (toISOString : ℤ → String) (date : ℤ) (few : table.length ≤ 65536)
    : (∃ rows, rows.Perm (newestVersion table none)
        ∧ getCurrentBasket table
          = if rows = [] then .ok getDefaultBasket else exactBasket "" rows)
      ∧ ∃ rows, rows.Perm (newestVersion table (some date))
        ∧ getBasketAsOf toISOString table date
          = if rows = [] then .ok [] else exactBasket s!" as-of {toISOString date}" rows := by
  refine ⟨⟨latestRows (findActive table none), latestRows_perm, ?_⟩,
    latestRows (findActive table (some date)), latestRows_perm, ?_⟩
  · have few := @latestRows_few table none few
    unfold getCurrentBasket
    cases found : findActive table none with
    | nil => exact (if_pos rfl).symm
    | cons first rest =>
        rw [found] at few
        exact (basketOf_eq few).trans (if_neg latestRows_ne_nil).symm
  · have few := @latestRows_few table (some date) few
    unfold getBasketAsOf
    cases found : findActive table (some date) with
    | nil => exact (if_pos rfl).symm
    | cons first rest =>
        rw [found] at few
        exact (basketOf_eq few).trans (if_neg latestRows_ne_nil).symm

def sampleVersions : List BasketConfig :=
  [⟨0, "NGN", ⟨10000, by decide⟩, "active"⟩, ⟨5, "NGN", ⟨6050, by decide⟩, "active"⟩,
    ⟨5, "KES", ⟨3950, by decide⟩, "active"⟩, ⟨9, "KES", ⟨10000, by decide⟩, "proposed"⟩]

theorem baskets_exact_versions
    : (∃ rows, rows.Perm (newestVersion sampleVersions none)
        ∧ getCurrentBasket sampleVersions
          = if rows = [] then .ok getDefaultBasket else exactBasket "" rows)
      ∧ ∃ rows, rows.Perm (newestVersion sampleVersions (some 3))
        ∧ getBasketAsOf toString sampleVersions 3
          = if rows = [] then .ok [] else exactBasket " as-of 3" rows :=
  baskets_exact toString 3 (by decide)

end

end AcbuBackend.Basket

import AcbuBackend.Rates.OracleRates
import Mathlib.Data.List.GetD
import Mathlib.Data.List.ReduceOption

/-! Where the composite of the sources lies.
The composite is the mean of the answers it is formed from: those that the outlier test keeps when
it keeps some of the positive ones and not all, and otherwise all that came, with those that are
zero or negative. Answers and weights are exact rationals: the doubles of the source round the mean
in its last places, and in an order of their own.
-/

namespace AcbuBackend.Rates

-- Means

def mean (values : List ℚ) : ℚ :=
  values.sum / values.length

/-- A rate lies between the least and the greatest of some values. -/
structure InHull (values : List ℚ) (rate : ℚ) : Prop where
  low : ∃ v ∈ values, v ≤ rate
  high : ∃ v ∈ values, rate ≤ v

theorem mean_perm {values values' : List ℚ} (same : values.Perm values')
    : mean values = mean values' := by
  rw [mean, mean, same.sum_eq, same.length_eq]

theorem sum_eq_mean {values : List ℚ} (nonempty : values ≠ [])
    : values.sum = (values.map (fun _ => mean values)).sum := by
  have positive : (values.length : ℚ) ≠ 0 := by
    exact_mod_cast (List.length_pos_iff.mpr nonempty).ne'
  rw [List.map_const', List.sum_replicate, nsmul_eq_mul, mean, mul_div_cancel₀ _ positive]

theorem inHull_mean {values : List ℚ} (nonempty : values ≠ []) : InHull values (mean values) := by
  have total := sum_eq_mean nonempty
  constructor
  · exact List.exists_le_of_sum_le nonempty id _ (by simpa using total.le)
  · exact List.exists_le_of_sum_le nonempty _ id (by simpa using total.ge)

/-- A value is at most the mean exactly when the values below it fall short of it by no more than
the others exceed it.
-/
theorem le_mean_iff {values : List ℚ} (nonempty : values ≠ []) {v : ℚ}
    : v ≤ mean values ↔ 0 ≤ (values.map (· - v)).sum := by
  have positive : (0 : ℚ) < values.length := by
    exact_mod_cast List.length_pos_iff.mpr nonempty
  have total : (values.map (· - v)).sum = values.sum - values.length * v := by
    simp only [sub_eq_add_neg, List.sum_map_add, List.map_id', List.map_const', List.sum_replicate,
      nsmul_eq_mul]
    ring
  rw [total, mean, le_div_iff₀ positive, sub_nonneg, mul_comm]

-- The answers

def SourceRates.answers (s : SourceRates) : List (Option ℚ) :=
  [s.centralBankRate, s.fintechRate, s.forexRate, s.worldBankRate]

/-- The answers that came. -/
def SourceRates.present (s : SourceRates) : List ℚ :=
  s.answers.reduceOption

def SourceRates.nonPositive (s : SourceRates) : List ℚ :=
  s.present.filter (· ≤ 0)

/-- The positive answers that are no outliers. -/
def SourceRates.kept (s : SourceRates) : List ℚ :=
  excludeOutliers s.positive OUTLIER_DEVIATION

section

variable {s s' : SourceRates}

theorem filter_reduceOption (p : ℚ → Bool) (answers : List (Option ℚ))
    : (answers.map (Option.filter p)).reduceOption = answers.reduceOption.filter p := by
  rw [List.reduceOption, List.filterMap_map, List.filter_filterMap]
  rfl

theorem present_keep (inlier : ℚ → Bool) : (s.keep inlier).present = s.present.filter inlier :=
  filter_reduceOption inlier s.answers

theorem positive_eq : s.positive = s.present.filter (0 < ·) := by
  rw [SourceRates.present, List.reduceOption, List.filter_filterMap]
  rfl

theorem parts_eq : s.parts = s.present.map (fun v => (1 / 4, v)) := by
  have weights : s.parts = (s.answers.map (Prod.mk (1 / 4))).filterMap
      (fun p => p.2.map (fun v => ((p.1 : ℚ), v))) :=
    rfl
  rw [weights, SourceRates.present, List.reduceOption, List.filterMap_map, List.map_filterMap]
  rfl

theorem compositeRate_eq : compositeRate s = mean s.present := by
  rw [compositeRate, parts_eq]
  by_cases empty : s.present = []
  · simp [empty, mean]
  · have positive : (s.present.length : ℚ) ≠ 0 := by
      exact_mod_cast (List.length_pos_iff.mpr empty).ne'
    rw [if_neg (by simpa using empty)]
    simp only [List.map_map, Function.comp_def, List.map_const', List.sum_replicate, nsmul_eq_mul]
    rw [List.sum_map_mul_left, List.map_id', mean]
    field_simp

theorem filter_kept : s.present.filter (fun r => s.kept.contains r) = s.kept := by
  obtain ⟨inlier, known⟩ : ∃ inlier, s.kept = s.positive.filter inlier := ⟨_, rfl⟩
  rw [positive_eq, List.filter_filter] at known
  refine (List.filter_congr fun r member => ?_).trans known.symm
  rw [known, List.contains_eq_mem, Bool.eq_iff_iff, decide_eq_true_eq, List.mem_filter]
  exact ⟨And.right, fun kept => ⟨member, kept⟩⟩

/-- The answers that the composite is the mean of. -/
def SourceRates.averaged (s : SourceRates) : List ℚ :=
  if s.kept.length < s.positive.length ∧ 0 < s.kept.length then s.kept else s.present

theorem compositeOf_eq_mean : compositeOf s = mean s.averaged := by
  rw [compositeOf, SourceRates.averaged]
  change (if s.kept.length < s.positive.length ∧ 0 < s.kept.length then
    compositeRate (s.keep (fun r => s.kept.contains r)) else compositeRate s) = _
  rw [compositeRate_eq, compositeRate_eq, present_keep, filter_kept]
  split <;> rfl

-- The median

theorem median_perm {values values' : List ℚ} (same : values.Perm values')
    : median values = median values' := by
  have sorted : values.insertionSort (· ≤ ·) = values'.insertionSort (· ≤ ·) :=
    (((List.perm_insertionSort _ values).trans same).trans
      (List.perm_insertionSort _ values').symm).eq_of_pairwise'
      (List.pairwise_insertionSort _ _) (List.pairwise_insertionSort _ _)
  rw [median, median, sorted, same.length_eq]

theorem median_pos {values : List ℚ} (positive : ∀ v ∈ values, 0 < v) (nonempty : values ≠ [])
    : 0 < median values := by
  have length := List.length_pos_iff.mpr nonempty
  have read : ∀ k < values.length, 0 < (values.insertionSort (· ≤ ·)).getD k 0 := by
    intro k bound
    have bound : k < (values.insertionSort (· ≤ ·)).length := by rwa [List.length_insertionSort]
    rw [List.getD_eq_getElem _ _ bound]
    exact positive _ ((List.perm_insertionSort _ _).mem_iff.mp (List.getElem_mem bound))
  have middle := read (values.length / 2) (by omega)
  have before := read (values.length / 2 - 1) (by omega)
  rw [median, if_neg length.ne']
  dsimp only
  split
  · exact middle
  · linarith

theorem pos_of_mem_positive {r : ℚ} (member : r ∈ s.positive) : 0 < r := by
  rw [positive_eq] at member
  simpa using (List.mem_filter.mp member).2

theorem near_of_mem_kept {r : ℚ} (member : r ∈ s.kept)
    : 97 / 100 * median s.positive ≤ r ∧ r ≤ 103 / 100 * median s.positive := by
  obtain ⟨inPositive, near⟩ := List.mem_filter.mp member
  have positive := median_pos (fun v => pos_of_mem_positive) (List.ne_nil_of_mem inPositive)
  have near : |r - median s.positive| ≤ 3 / 100 * median s.positive := by
    simp only [decide_eq_true_eq, if_neg positive.ne', OUTLIER_DEVIATION] at near
    exact (div_le_iff₀ positive).mp near
  obtain ⟨below, above⟩ := abs_le.mp near
  constructor <;> linarith

-- The law of the composite

/-- The positive answers that the composite should lie between. -/
def SourceRates.trusted (s : SourceRates) : List ℚ :=
  if s.kept = [] then s.positive else s.kept

structure CompositeLaw (s : SourceRates) : Prop where
  inHull : InHull s.trusted (compositeOf s)
  symmetric : ∀ s' : SourceRates, s'.answers.Perm s.answers → compositeOf s' = compositeOf s

/-- No answer is zero or negative, or the outlier test drops some of the positive answers and not
all, or it drops them all and the other answers fall short of a positive one by no more than the
positive ones exceed it.
-/
def SourceRates.Sound (s : SourceRates) : Prop :=
  s.nonPositive = []
  ∨ (s.kept ≠ [] ∧ s.kept.length < s.positive.length)
  ∨ (s.kept = [] ∧ ∃ low ∈ s.positive,
      (s.nonPositive.map (low - ·)).sum ≤ (s.positive.map (· - low)).sum)

theorem compositeOf_perm (same : s'.answers.Perm s.answers) : compositeOf s' = compositeOf s := by
  have present : s'.present.Perm s.present := same.filterMap id
  have positive : s'.positive.Perm s.positive := by
    rw [positive_eq, positive_eq]
    exact present.filter _
  have kept : s'.kept.Perm s.kept := by
    rw [SourceRates.kept, SourceRates.kept, excludeOutliers, excludeOutliers, median_perm positive]
    exact positive.filter _
  rw [compositeOf_eq_mean, compositeOf_eq_mean, SourceRates.averaged, SourceRates.averaged,
    kept.length_eq, positive.length_eq]
  refine mean_perm ?_
  split
  · exact kept
  · exact present

theorem present_perm : (s.positive ++ s.nonPositive).Perm s.present := by
  rw [positive_eq, SourceRates.nonPositive]
  simpa [← not_lt] using List.filter_append_perm (fun r : ℚ => decide (0 < r)) s.present

theorem present_ne_nil (some : s.positive ≠ []) : s.present ≠ [] := by
  intro empty
  have length := (@present_perm s).length_eq
  simp_all

/-- Without invalid answers, and where outliers are dropped, only trusted answers enter the
composite.
-/
theorem averaged_perm (valid : s.nonPositive = [] ∨ s.kept ≠ [] ∧ s.kept.length < s.positive.length)
    : s.averaged.Perm s.trusted := by
  rw [SourceRates.averaged, SourceRates.trusted]
  by_cases dropped : s.kept ≠ [] ∧ s.kept.length < s.positive.length
  · rw [if_pos ⟨dropped.2, List.length_pos_iff.mpr dropped.1⟩, if_neg dropped.1]
  · have none := valid.resolve_right dropped
    have present : s.present.Perm s.positive := by
      simpa [none] using (@present_perm s).symm
    rw [if_neg fun both => dropped ⟨List.length_pos_iff.mp both.2, both.1⟩]
    split
    · exact present
    · rename_i some
      have all : s.kept = s.positive :=
        List.filter_sublist.eq_of_length_le (not_lt.mp fun fewer => dropped ⟨some, fewer⟩)
      rwa [all]

/-- The mean of all answers reaches a positive one exactly when the invalid answers do not weigh
more.
-/
theorem inHull_present_iff (some : s.positive ≠ [])
    : InHull s.positive (mean s.present) ↔ ∃ low ∈ s.positive,
        (s.nonPositive.map (low - ·)).sum ≤ (s.positive.map (· - low)).sum := by
  have balance : ∀ low : ℚ, low ≤ mean s.present
      ↔ (s.nonPositive.map (low - ·)).sum ≤ (s.positive.map (· - low)).sum := by
    intro low
    have split : (s.present.map (· - low)).sum
        = (s.positive.map (· - low)).sum - (s.nonPositive.map (low - ·)).sum := by
      have flipped : s.nonPositive.map (low - ·) = (s.nonPositive.map (· - low)).map (- ·) := by
        simp [Function.comp_def]
      rw [← (present_perm.map _).sum_eq, List.map_append, List.sum_append, flipped, ← List.sum_neg,
        sub_neg_eq_add]
    rw [le_mean_iff (present_ne_nil some), split, sub_nonneg]
  constructor
  · rintro ⟨⟨low, member, below⟩, -⟩
    exact ⟨low, member, (balance low).mp below⟩
  · rintro ⟨low, member, bounded⟩
    refine ⟨⟨low, member, (balance low).mpr bounded⟩, ?_⟩
    obtain ⟨v, came, above⟩ := (inHull_mean (present_ne_nil some)).high
    rcases List.mem_append.mp (present_perm.mem_iff.mpr came) with positive | invalid
    · exact ⟨v, positive, above⟩
    · have : v ≤ 0 := by simpa using (List.mem_filter.mp invalid).2
      exact ⟨low, member, by linarith [pos_of_mem_positive member]⟩

/-- When no positive answer is an outlier, an invalid answer takes the composite below them all: at
most three answers near the median are spread over four.
-/
theorem mean_lt_of_kept_all (all : s.kept = s.positive) (invalid : s.nonPositive ≠ []) {low : ℚ}
    (member : low ∈ s.positive)
    : mean s.present < low := by
  have middle := median_pos (fun v => pos_of_mem_positive) (List.ne_nil_of_mem member)
  have near : ∀ r ∈ s.positive,
    97 / 100 * median s.positive ≤ r ∧ r ≤ 103 / 100 * median s.positive :=
    fun r member => near_of_mem_kept (all ▸ member)
  have above := List.sum_le_card_nsmul s.positive _ fun r member => (near r member).2
  have below : s.nonPositive.sum ≤ s.nonPositive.length • (0 : ℚ) :=
    List.sum_le_card_nsmul _ _ fun r member => by simpa using (List.mem_filter.mp member).2
  have total : s.present.sum = s.positive.sum + s.nonPositive.sum := by
    rw [← present_perm.sum_eq, List.sum_append]
  have count : s.present.length = s.positive.length + s.nonPositive.length := by
    rw [← present_perm.length_eq, List.length_append]
  have sources : s.present.length ≤ 4 := List.length_filterMap_le _ _
  have one := List.length_pos_iff.mpr invalid
  have few : (s.positive.length : ℚ) ≤ 3 := by
    exact_mod_cast (show s.positive.length ≤ 3 by omega)
  have more : (s.positive.length : ℚ) + 1 ≤ s.present.length := by
    exact_mod_cast (show s.positive.length + 1 ≤ s.present.length by omega)
  have positive : (0 : ℚ) < s.present.length := by
    have : (0 : ℚ) ≤ s.positive.length := Nat.cast_nonneg _
    linarith
  rw [mean, div_lt_iff₀ positive]
  simp only [nsmul_eq_mul, mul_zero] at above below
  calc s.present.sum ≤ s.positive.length * (103 / 100 * median s.positive) := by linarith
    _ < 97 / 100 * median s.positive * (s.positive.length + 1) := by nlinarith
    _ ≤ 97 / 100 * median s.positive * s.present.length := by gcongr
    _ ≤ low * s.present.length := by
        gcongr
        exact (near low member).1

theorem trusted_ne_nil (some : s.positive ≠ []) : s.trusted ≠ [] := by
  rw [SourceRates.trusted]
  split
  · exact some
  · assumption

/-- In exact arithmetic the composite lies between the trusted answers exactly when the answers are
sound, and it never depends on which source gave which.
-/
theorem composite_law_iff (s : SourceRates) (some : s.positive ≠ [])
    : CompositeLaw s ↔ s.Sound := by
  have law : CompositeLaw s ↔ InHull s.trusted (mean s.averaged) := by
    rw [← compositeOf_eq_mean]
    exact ⟨CompositeLaw.inHull, fun inHull => ⟨inHull, fun _ => compositeOf_perm⟩⟩
  rw [law]
  by_cases valid : s.nonPositive = [] ∨ s.kept ≠ [] ∧ s.kept.length < s.positive.length
  · refine iff_of_true ?_ (valid.imp_right .inl)
    rw [mean_perm (averaged_perm valid)]
    exact inHull_mean (trusted_ne_nil some)
  · obtain ⟨invalid, notDropped⟩ := not_or.mp valid
    have averaged : s.averaged = s.present :=
      if_neg fun both => notDropped ⟨List.length_pos_iff.mp both.2, both.1⟩
    rw [averaged, SourceRates.Sound, or_iff_right invalid, or_iff_right notDropped]
    by_cases none : s.kept = []
    · rw [SourceRates.trusted, if_pos none, inHull_present_iff some, and_iff_right none]
    · have all : s.kept = s.positive :=
        List.filter_sublist.eq_of_length_le (not_lt.mp fun fewer => notDropped ⟨none, fewer⟩)
      refine iff_of_false ?_ fun dropped => none dropped.1
      rw [SourceRates.trusted, if_neg none, all]
      rintro ⟨⟨low, member, below⟩, -⟩
      exact absurd below (not_le.mpr (mean_lt_of_kept_all all invalid member))

end

def zeroAnswer : SourceRates where
  centralBankRate := some 0
  fintechRate := some 1
  forexRate := none
  worldBankRate := none

def spreadAnswers : SourceRates where
  centralBankRate := some 0
  fintechRate := some 1
  forexRate := some 4
  worldBankRate := none

/-- The composite of a rate and a zero is below the rate. -/
theorem zero_answer_leaves_hull
    : zeroAnswer.positive = [1] ∧ compositeOf zeroAnswer = 1 / 2 ∧ ¬ CompositeLaw zeroAnswer := by
  have positive : zeroAnswer.positive = [1] := by decide +kernel
  have kept : zeroAnswer.kept = [1] := by decide +kernel
  have composite : compositeOf zeroAnswer = 1 / 2 := by decide +kernel
  refine ⟨positive, composite, fun law => ?_⟩
  obtain ⟨low, member, below⟩ := law.inHull.low
  rw [SourceRates.trusted, kept, if_neg (List.cons_ne_nil _ _), List.mem_singleton] at member
  rw [member, composite] at below
  norm_num at below

/-- Without any inlier the zero pulls the mean down, but not below the lower answer. -/
theorem spread_answers_law : CompositeLaw spreadAnswers := by
  refine (composite_law_iff spreadAnswers (by decide +kernel)).mpr
    (.inr (.inr ⟨by decide +kernel, 1, ?_, ?_⟩))
  · decide +kernel
  · decide +kernel

end AcbuBackend.Rates

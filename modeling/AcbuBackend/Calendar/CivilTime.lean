import Mathlib.Algebra.Order.Group.Int
import Mathlib.Algebra.Order.Group.Unbundled.Basic
import Mathlib.Order.SuccPred.Basic
import Mathlib.Tactic.SplitIfs

/-! The proleptic Gregorian calendar as a numbering of days, and the instant at which a local day
begins. Day 0 is 1 January 1970; a date of the calendar is read off a day number and makes it up
again. Instants and offsets are in seconds. The offset of a zone changes by less than a day, and not
twice within two days. A local time is looked for by correcting a guess by what the clock shows
there.
-/

namespace AcbuBackend.Calendar

-- Years

def dayFromYear (year : ℤ) : ℤ :=
  365 * (year - 1970) + (year - 1969) / 4 - (year - 1901) / 100 + (year - 1601) / 400

/-- Whether a year has a 29 February, as a number of days. -/
def leapDay (year : ℤ) : ℤ :=
  if year % 4 = 0 ∧ (year % 100 ≠ 0 ∨ year % 400 = 0) then 1 else 0

/-- The year a day is in: the mean length of a year gives it up to one. -/
def yearFromDay (day : ℤ) : ℤ :=
  let year := day * 400 / 146097 + 1970
  if day < dayFromYear year then year - 1
  else if dayFromYear (year + 1) ≤ day then year + 1
  else year

theorem dayFromYear_succ (year : ℤ)
    : dayFromYear (year + 1) = dayFromYear year + 365 + leapDay year := by
  unfold dayFromYear leapDay
  split <;> omega

theorem leapDay_cases (year : ℤ) : leapDay year = 0 ∨ leapDay year = 1 := by
  unfold leapDay
  split
  · exact .inr rfl
  · exact .inl rfl

theorem dayFromYear_strictMono {year year' : ℤ} (earlier : year < year')
    : dayFromYear year + 365 ≤ dayFromYear year' := by
  unfold dayFromYear
  omega

theorem dayFromYear_mono {year year' : ℤ} (earlier : year ≤ year')
    : dayFromYear year ≤ dayFromYear year' := by
  unfold dayFromYear
  omega

theorem yearFromDay_spec (day : ℤ)
    : dayFromYear (yearFromDay day) ≤ day ∧ day < dayFromYear (yearFromDay day + 1) := by
  have estimate : ∀ year, 400 * dayFromYear year ≤ 146097 * (year - 1970) + 1000
      ∧ 146097 * (year - 1970) ≤ 400 * dayFromYear year + 1000 := by
    intro year
    unfold dayFromYear
    omega
  have below := estimate (day * 400 / 146097 + 1969)
  have above := estimate (day * 400 / 146097 + 1972)
  unfold yearFromDay
  simp only
  split
  · refine ⟨?_, by simpa using ‹_›⟩
    rw [show day * 400 / 146097 + 1970 - 1 = day * 400 / 146097 + 1969 by omega]
    omega
  · split
    · refine ⟨‹_›, ?_⟩
      rw [show day * 400 / 146097 + 1970 + 1 + 1 = day * 400 / 146097 + 1972 by omega]
      omega
    · omega

theorem le_yearFromDay_iff {year day : ℤ} : year ≤ yearFromDay day ↔ dayFromYear year ≤ day := by
  obtain ⟨first, last⟩ := yearFromDay_spec day
  constructor
  · exact fun within => (dayFromYear_mono within).trans first
  · intro within
    by_contra later
    have := dayFromYear_mono (show yearFromDay day + 1 ≤ year by omega)
    omega

-- Months and dates

/-- The days of a year before a month, counted from zero. -/
def monthStart (leap month : ℤ) : ℤ :=
  [0, 31, 59, 90, 120, 151, 181, 212, 243, 273, 304].getD month.toNat 334
  + if 2 ≤ month then leap else 0

/-- The months, the last one first. -/
def months : List ℤ :=
  [11, 10, 9, 8, 7, 6, 5, 4, 3, 2, 1, 0]

/-- The month of a day of the year: the last one that has started. -/
def monthFromDay (leap day : ℤ) : ℤ :=
  (months.find? (fun month => monthStart leap month ≤ day)).getD 0

theorem monthFromDay_spec (leap : ℤ) {day : ℤ} (positive : 0 ≤ day)
    : 0 ≤ monthFromDay leap day ∧ monthFromDay leap day ≤ 11
      ∧ monthStart leap (monthFromDay leap day) ≤ day := by
  unfold monthFromDay
  cases found : months.find? (fun month => monthStart leap month ≤ day) with
  | none => simpa [monthStart] using positive
  | some month =>
      have listed := List.mem_of_find?_eq_some found
      have started := List.find?_some found
      simp only [months, List.mem_cons, List.not_mem_nil, or_false] at listed
      refine ⟨?_, ?_, by simpa using started⟩
      · rw [Option.getD_some]
        omega
      · rw [Option.getD_some]
        omega

theorem monthStart_bounds {month : ℤ} (leap : ℤ) (positive : 0 ≤ month) (year : month ≤ 11)
    (leapDay : leap = 0 ∨ leap = 1)
    : 0 ≤ monthStart leap month ∧ monthStart leap month ≤ monthStart 0 month + 1
      ∧ monthStart 0 month ≤ monthStart leap month := by
  have : month = 0 ∨ month = 1 ∨ month = 2 ∨ month = 3 ∨ month = 4 ∨ month = 5 ∨ month = 6
      ∨ month = 7 ∨ month = 8 ∨ month = 9 ∨ month = 10 ∨ month = 11 := by
    omega
  rcases this with rfl | rfl | rfl | rfl | rfl | rfl | rfl | rfl | rfl | rfl | rfl | rfl <;>
    simp [monthStart] <;> omega

/-- A date; its month is counted from one. -/
structure CivilDate where
  year : ℤ
  month : ℤ
  day : ℤ
deriving DecidableEq

def civilFromDay (day : ℤ) : CivilDate :=
  let year := yearFromDay day
  let dayOfYear := day - dayFromYear year
  let month := monthFromDay (leapDay year) dayOfYear
  { year, month := month + 1, day := dayOfYear - monthStart (leapDay year) month + 1 }

/-- The day of a date. Its month is counted from zero, and may be outside of the year. -/
def dayFromCivil (year month day : ℤ) : ℤ :=
  dayFromYear (year + month / 12) + monthStart (leapDay (year + month / 12)) (month % 12) + day - 1

theorem dayFromCivil_civilFromDay (day : ℤ)
    : dayFromCivil (civilFromDay day).year ((civilFromDay day).month - 1) (civilFromDay day).day
      = day := by
  obtain ⟨first, -⟩ := yearFromDay_spec day
  obtain ⟨low, high, -⟩ :=
    monthFromDay_spec (leapDay (yearFromDay day)) (sub_nonneg.mpr first)
  simp only [dayFromCivil, civilFromDay, add_sub_cancel_right]
  rw [Int.ediv_eq_zero_of_lt low (by omega), Int.emod_eq_of_lt low (by omega), add_zero]
  omega

example : civilFromDay 19782 = { year := 2024, month := 2, day := 29 } := by decide

theorem dayFromCivil_moved (year day : ℤ)
    : dayFromYear year ≤ dayFromCivil year ((civilFromDay day).month - 1) (civilFromDay day).day
      ∧ dayFromCivil year ((civilFromDay day).month - 1) (civilFromDay day).day
        ≤ dayFromYear year + 366 := by
  obtain ⟨first, last⟩ := yearFromDay_spec day
  rw [dayFromYear_succ] at last
  obtain ⟨low, high, started⟩ :=
    monthFromDay_spec (leapDay (yearFromDay day)) (sub_nonneg.mpr first)
  obtain ⟨-, mine, mine'⟩ := monthStart_bounds (leapDay (yearFromDay day)) low high
    (leapDay_cases _)
  obtain ⟨nonneg, other, other'⟩ := monthStart_bounds (leapDay year) low high (leapDay_cases _)
  simp only [dayFromCivil, civilFromDay, add_sub_cancel_right]
  rw [Int.ediv_eq_zero_of_lt low (by omega), Int.emod_eq_of_lt low (by omega), add_zero]
  rcases leapDay_cases (yearFromDay day) with leap | leap <;> omega

-- Time zones

/-- A time zone: how far its clocks are ahead at an instant. -/
structure Zone where
  offset : ℤ → ℤ
  bounded : ∀ t, -86400 < offset t ∧ offset t < 86400
  small : ∀ t, -86400 < offset t - offset (t - 1) ∧ offset t - offset (t - 1) < 86400
  isolated : ∀ s t, s < t → offset s ≠ offset (s - 1) → offset t ≠ offset (t - 1) →
    s + 172800 ≤ t

namespace Zone

def switching (change before after : ℤ) (before_bounded : -43200 ≤ before ∧ before < 43200)
    (after_bounded : -43200 ≤ after ∧ after < 43200)
    : Zone where
  offset t := if t < change then before else after
  bounded t := by split <;> omega
  small t := by split <;> split <;> omega
  isolated s t earlier first second := by
    split_ifs at first second <;> omega

variable (zone : Zone)

/-- What the clocks of the zone show. -/
def wall (t : ℤ) : ℤ :=
  t + zone.offset t

def localDay (t : ℤ) : ℤ :=
  zone.wall t / 86400

/-- The first instant of a local day. -/
def IsFirst (day t : ℤ) : Prop :=
  zone.localDay t = day ∧ ∀ u, zone.localDay u = day → t ≤ u

/-- The guess, moved by what the clock is wrong there. -/
def correct (target guess : ℤ) : ℤ :=
  guess + (target - zone.wall guess)

theorem correct_eq (target guess : ℤ) : zone.correct target guess = target - zone.offset guess := by
  unfold correct wall
  omega

/-- The target read as UTC, corrected three times. -/
def corrected (target : ℤ) : ℤ :=
  zone.correct target (zone.correct target (zone.correct target target))

/-- The midnight happens once; or twice, or it is skipped with the change at midnight, and the
offset at midnight UTC is the one before the change.
-/
def Settles (midnight : ℤ) : Prop :=
  (∃ t, zone.wall t = midnight ∧ ∀ u, zone.wall u = midnight → u = t)
  ∨ (∃ t, zone.wall t = midnight ∧ (∀ u, zone.wall u = midnight → t ≤ u)
      ∧ zone.offset midnight = zone.offset t)
  ∨ ∃ t, zone.wall (t - 1) = midnight - 1 ∧ midnight < zone.wall t
      ∧ zone.offset midnight = zone.offset (t - 1)

-- The days around a midnight

theorem offset_eq_of_unchanged {a b : ℤ}
    (unchanged : ∀ t, a < t → t ≤ b → zone.offset t = zone.offset (t - 1)) (t : ℤ) (from_a : a ≤ t)
    (to_b : t ≤ b)
    : zone.offset t = zone.offset a := by
  induction t, from_a using Int.leInduction with
  | base => rfl
  | succ t later ih =>
      rw [unchanged (t + 1) (by omega) to_b, add_sub_cancel_right]
      exact ih (by omega)

/-- Whether the offset is `before` up to `change` and `after` from there, around a midnight. -/
structure Changes (midnight change before after : ℤ) : Prop where
  near : midnight - 86400 < change ∧ change ≤ midnight + 86400
  before_bounded : -86400 < before ∧ before < 86400
  after_bounded : -86400 < after ∧ after < 86400
  small : -86400 < after - before ∧ after - before < 86400
  offset : ∀ t, midnight - 86400 ≤ t → t < midnight + 86400 →
    zone.offset t = if t < change then before else after

theorem exists_changes (midnight : ℤ)
    : ∃ change before after, zone.Changes midnight change before after := by
  by_cases changes : ∃ s, midnight - 86400 < s ∧ s < midnight + 86400
      ∧ zone.offset s ≠ zone.offset (s - 1)
  · obtain ⟨change, late, early, change_offset⟩ := changes
    have only : ∀ t, midnight - 86400 < t → t < midnight + 86400 → t ≠ change →
        zone.offset t = zone.offset (t - 1) := by
      intro t above below other
      by_contra changed
      rcases lt_or_gt_of_ne other with earlier | later
      · have := zone.isolated t change earlier changed change_offset
        omega
      · have := zone.isolated change t later change_offset changed
        omega
    refine ⟨change, zone.offset (change - 1), zone.offset change, ⟨late, early.le⟩,
      zone.bounded _, zone.bounded _, zone.small change, fun t above below => ?_⟩
    split
    · rename_i earlier
      have same := fun u => @offset_eq_of_unchanged zone (midnight - 86400) (change - 1)
        (fun t above below => only t above (by omega) (by omega)) u
      rw [same t above (by omega), same (change - 1) (by omega) le_rfl]
    · rename_i later
      exact offset_eq_of_unchanged zone (b := midnight + 86399)
        (fun t above below => only t (by omega) (by omega) (by omega)) t (by omega) (by omega)
  · refine ⟨midnight + 86400, zone.offset (midnight - 86400), zone.offset (midnight - 86400),
      by omega, zone.bounded _, zone.bounded _, by omega, fun t above below => ?_⟩
    rw [if_pos below]
    refine offset_eq_of_unchanged zone (b := midnight + 86399) (fun t above below => ?_) t above
      (by omega)
    by_contra changed
    exact changes ⟨t, above, by omega, changed⟩

variable {zone} {day change before after : ℤ}

theorem inside_of_localDay {t : ℤ} (here : zone.localDay t = day)
    : 86400 * day ≤ zone.wall t ∧ zone.wall t < 86400 * day + 86400
      ∧ 86400 * day - 86400 < t ∧ t < 86400 * day + 172800 := by
  have bounded := zone.bounded t
  unfold localDay at here
  unfold wall at *
  omega

/-- The first instant of a day: its midnight on the old clock, else on the new clock, but not before
the change.
-/
def firstInstant (midnight change before after : ℤ) : ℤ :=
  if midnight - before < change then midnight - before else max (midnight - after) change

theorem Changes.isFirst (h : zone.Changes (86400 * day) change before after)
    : zone.IsFirst day (firstInstant (86400 * day) change before after) := by
  obtain ⟨⟨_, _⟩, ⟨_, _⟩, ⟨_, _⟩, ⟨_, _⟩, offset⟩ := h
  have located : 86400 * day - 86400 ≤ firstInstant (86400 * day) change before after
      ∧ firstInstant (86400 * day) change before after < 86400 * day + 86400 := by
    unfold firstInstant
    split <;> omega
  constructor
  · unfold localDay wall
    rw [offset _ located.1 located.2]
    unfold firstInstant
    split_ifs <;> omega
  · intro u here
    by_contra earlier
    obtain ⟨shown, -, late, -⟩ := inside_of_localDay here
    unfold wall at shown
    rw [offset u (by omega) (by omega)] at shown
    unfold firstInstant at earlier
    split at shown <;> split at earlier <;> omega

theorem IsFirst.unique {t u : ℤ} (h : zone.IsFirst day t) (h' : zone.IsFirst day u) : t = u :=
  le_antisymm (h.2 u h'.1) (h'.2 t h.1)

theorem Changes.correct_eq {midnight : ℤ} (h : zone.Changes midnight change before after)
    (guess : ℤ) (late : midnight - 86400 ≤ guess) (early : guess < midnight + 86400)
    : zone.correct midnight guess
      = if guess < change then midnight - before else midnight - after := by
  rw [Zone.correct_eq, h.offset guess late early]
  split <;> rfl

theorem Changes.wall_eq {midnight t : ℤ} (h : zone.Changes midnight change before after)
    (late : midnight - 86400 ≤ t) (early : t < midnight + 86400)
    : zone.wall t = t + if t < change then before else after := by
  rw [wall, h.offset t late early]

theorem near_correct (zone : Zone) {midnight guess : ℤ} (late : midnight - 86400 ≤ guess)
    (early : guess < midnight + 86400)
    : midnight - 86400 < zone.correct midnight guess
      ∧ zone.correct midnight guess < midnight + 86400
      ∧ midnight - 86400 < zone.wall (zone.correct midnight guess)
      ∧ zone.wall (zone.correct midnight guess) < midnight + 86400 := by
  obtain ⟨change, before, after, h⟩ := zone.exists_changes midnight
  obtain ⟨_, _⟩ := h.before_bounded
  obtain ⟨_, _⟩ := h.after_bounded
  obtain ⟨_, _⟩ := h.small
  have read := h.correct_eq guess late early
  have shown := h.wall_eq (t := zone.correct midnight guess) (by rw [read]; split <;> omega)
    (by rw [read]; split <;> omega)
  rw [shown, read]
  split_ifs <;> omega

/-- On clocks that are ahead, and are not set back by the first correction, neither does the second
one set them back.
-/
theorem offset_le_of_le (zone : Zone) {midnight : ℤ} (ahead : 0 ≤ zone.offset midnight)
    (kept : zone.offset midnight ≤ zone.offset (zone.correct midnight midnight))
    : zone.offset (zone.correct midnight midnight)
      ≤ zone.offset (zone.correct midnight (zone.correct midnight midnight)) := by
  obtain ⟨change, before, after, h⟩ := zone.exists_changes midnight
  obtain ⟨_, _⟩ := h.before_bounded
  obtain ⟨_, _⟩ := h.after_bounded
  have first := h.correct_eq midnight (by omega) (by omega)
  obtain ⟨near, near', -⟩ := @near_correct zone midnight midnight (by omega) (by omega)
  have second := h.correct_eq (zone.correct midnight midnight) near.le near'
  obtain ⟨far, far', -⟩ :=
    @near_correct zone midnight (zone.correct midnight midnight) near.le near'
  rw [h.offset midnight (by omega) (by omega)] at ahead kept
  rw [h.offset (zone.correct midnight midnight) near.le near'] at kept ⊢
  rw [h.offset (zone.correct midnight (zone.correct midnight midnight)) far.le far', second]
  rw [first] at kept ⊢
  split_ifs at ahead kept ⊢ <;> omega

theorem Changes.corrected_eq_firstInstant_iff {midnight : ℤ}
    (h : zone.Changes midnight change before after)
    : zone.corrected midnight = firstInstant midnight change before after
      ↔ midnight - before < change ∧ (midnight < change ∨ midnight - after < change)
        ∨ change ≤ midnight - before ∧ change ≤ midnight - after
        ∨ midnight - before = change ∧ midnight - after < change ∧ midnight < change := by
  obtain ⟨_, _⟩ := h.before_bounded
  obtain ⟨_, _⟩ := h.after_bounded
  have first := h.correct_eq midnight (by omega) (by omega)
  have second := h.correct_eq (zone.correct midnight midnight)
    (by rw [first]; split <;> omega) (by rw [first]; split <;> omega)
  have third := h.correct_eq (zone.correct midnight (zone.correct midnight midnight))
    (by rw [second]; split <;> omega) (by rw [second]; split <;> omega)
  unfold corrected firstInstant
  rw [third, second, first]
  split_ifs <;> omega

theorem Changes.of_wall_eq {midnight t : ℤ} (h : zone.Changes midnight change before after)
    (shown : zone.wall t = midnight)
    : t = midnight - before ∧ t < change ∨ t = midnight - after ∧ change ≤ t := by
  have bounded := zone.bounded t
  have read := shown
  unfold wall at read
  rw [h.wall_eq (by omega) (by omega)] at shown
  split at shown <;> omega

theorem Changes.wall_before {midnight : ℤ} (h : zone.Changes midnight change before after)
    (earlier : midnight - before < change)
    : zone.wall (midnight - before) = midnight
      ∧ zone.offset (midnight - before) = before := by
  obtain ⟨_, _⟩ := h.before_bounded
  have read := h.offset (midnight - before) (by omega) (by omega)
  rw [if_pos earlier] at read
  exact ⟨by rw [wall, read, sub_add_cancel], read⟩

theorem Changes.wall_after {midnight : ℤ} (h : zone.Changes midnight change before after)
    (later : change ≤ midnight - after)
    : zone.wall (midnight - after) = midnight := by
  obtain ⟨_, _⟩ := h.after_bounded
  rw [wall, h.offset (midnight - after) (by omega) (by omega), if_neg (by omega), sub_add_cancel]

theorem Changes.settles_iff {midnight : ℤ} (h : zone.Changes midnight change before after)
    : zone.Settles midnight
      ↔ midnight - before < change ∧ (midnight < change ∨ midnight - after < change)
        ∨ change ≤ midnight - before ∧ change ≤ midnight - after
        ∨ midnight - before = change ∧ midnight - after < change ∧ midnight < change := by
  have read := h.offset midnight (by omega) (by omega)
  constructor
  · rintro (⟨t, shown, unique⟩ | ⟨t, shown, least, same⟩ | ⟨t, last, skipped, same⟩)
    · by_cases earlier : midnight - before < change
      · by_cases later : change ≤ midnight - after
        · have first := unique _ (h.wall_before earlier).1
          have second := unique _ (h.wall_after later)
          omega
        · omega
      · have := h.of_wall_eq shown
        omega
    · by_cases earlier : midnight - before < change
      · have := least _ (h.wall_before earlier).1
        rcases h.of_wall_eq shown with ⟨rfl, -⟩ | ⟨rfl, later⟩
        · rw [read, (h.wall_before earlier).2] at same
          split at same <;> omega
        · omega
      · have := h.of_wall_eq shown
        omega
    · have bounded := zone.bounded (t - 1)
      have shown := last
      unfold wall at shown
      rw [h.wall_eq (by omega) (by omega)] at last skipped
      rw [read, h.offset (t - 1) (by omega) (by omega)] at same
      split at last <;> split at skipped <;> split_ifs at same <;> omega
  · rintro (⟨earlier, settled⟩ | ⟨later, shown⟩ | ⟨rfl, skipped, early⟩)
    · obtain ⟨shown, old⟩ := h.wall_before earlier
      rcases settled with early | once
      · refine .inr (.inl ⟨midnight - before, shown, fun u here => ?_, ?_⟩)
        · have := h.of_wall_eq here
          omega
        · rw [old, read, if_pos early]
      · refine .inl ⟨midnight - before, shown, fun u here => ?_⟩
        have := h.of_wall_eq here
        omega
    · refine .inl ⟨midnight - after, h.wall_after shown, fun u here => ?_⟩
      have := h.of_wall_eq here
      omega
    · obtain ⟨_, _⟩ := h.before_bounded
      refine .inr (.inr ⟨midnight - before, ?_, ?_, ?_⟩)
      · rw [h.wall_eq (by omega) (by omega), if_pos (by omega)]
        omega
      · rw [h.wall_eq (by omega) (by omega), if_neg (by omega)]
        omega
      · rw [read, if_pos early, h.offset _ (by omega) (by omega), if_pos (by omega)]

theorem isFirst_corrected_iff (zone : Zone) (day : ℤ)
    : zone.IsFirst day (zone.corrected (86400 * day)) ↔ zone.Settles (86400 * day) := by
  obtain ⟨change, before, after, changes⟩ := zone.exists_changes (86400 * day)
  rw [changes.settles_iff, ← changes.corrected_eq_firstInstant_iff]
  constructor
  · exact fun first => first.unique changes.isFirst
  · exact fun same => same ▸ changes.isFirst

end Zone

end AcbuBackend.Calendar

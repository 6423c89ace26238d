import AcbuBackend.Calendar.CivilTime

/-! Business days in time zones.
`Intl` realises the offset functions of the zones. It formats a year as the year of its era, and
`Date.UTC` takes a year of two digits as one of the 20th century.
-/

namespace AcbuBackend.Dates

open Calendar

-- Dates

/-- The instants of a `Date`, in milliseconds. -/
structure Instant where
  ms : ℤ
  inRange : -8640000000000000 ≤ ms ∧ ms ≤ 8640000000000000

/-- A `Date`; `none` is an invalid one. -/
abbrev JsDate := Option Instant

/-- `new Date(value)`, where `none` is NaN. -/
def newDate (value : Option ℤ) : JsDate :=
  value.bind (fun ms =>
    if inRange : -8640000000000000 ≤ ms ∧ ms ≤ 8640000000000000 then some ⟨ms, inRange⟩
    else none)

/-- The year that `Date.UTC` takes a number for. -/
def fullYear (year : ℤ) : ℤ :=
  if 0 ≤ year ∧ year ≤ 99 then 1900 + year else year

/-- `Date.UTC`; the month is counted from zero. -/
def dateUTC (year month day hour minute second : ℤ) : Option ℤ :=
  (newDate (some (1000 * (86400 * dayFromCivil (fullYear year) month day
    + 3600 * hour + 60 * minute + second)))).map Instant.ms

-- Time zones

/-- A `RangeError`: of a time zone, or of an invalid date. -/
inductive DateError
  | invalidTimeZone
  | invalidTime

/-- The zones that `Intl` knows, and the one of the business. -/
structure TimeZones where
  zone? : String → Option Zone
  businessTimeZone : String

/-- `IANA_TIMEZONE_PATTERN`. -/
def matchesPattern (timeZone : String) : Bool :=
  timeZone ≠ ""
  && timeZone.toList.all (fun c => c.isAlphanum || c = '_' || c = '+' || c = '/' || c = '-')

def isValidTimeZone (zones : TimeZones) (timeZone : String) : Bool :=
  matchesPattern timeZone && (zones.zone? timeZone).isSome

/-- The preferred zone where it is valid, else the one of the business. -/
def resolveTimeZone (zones : TimeZones) (preferred : Option String) : String :=
  (preferred.filter (fun timeZone => timeZone ≠ "" && isValidTimeZone zones timeZone)).getD
    zones.businessTimeZone

structure CalendarParts where
  year : ℤ
  month : ℤ
  day : ℤ

structure ZonedDateParts extends CalendarParts where
  hour : ℤ
  minute : ℤ
  second : ℤ

/-- The year of the era, without the era. -/
def formattedYear (year : ℤ) : ℤ :=
  if year ≤ 0 then 1 - year else year

/-- What is read of a formatted wall time. -/
def partsOfWall (wall : ℤ) : ZonedDateParts :=
  let date := civilFromDay (wall / 86400)
  { year := formattedYear date.year
    month := date.month
    day := date.day
    hour := wall % 86400 / 3600
    minute := wall % 3600 / 60
    second := wall % 60 }

def getZonedParts (zones : TimeZones) (date : JsDate) (timeZone : String)
    : Except DateError ZonedDateParts :=
  match zones.zone? timeZone, date with
  | none, _ => .error .invalidTimeZone
  | some _, none => .error .invalidTime
  | some zone, some date => .ok (partsOfWall (zone.wall (date.ms / 1000)))

/-- `none` where the date is invalid: its parts are NaN. -/
def addCalendarDays (parts : CalendarParts) (days : ℤ) : Option CalendarParts :=
  (dateUTC parts.year (parts.month - 1) (parts.day + days) 0 0 0).map (fun shifted =>
    let date := civilFromDay (shifted / 86400000)
    { year := date.year, month := date.month, day := date.day })

/-- The attempts that are left. What is computed with NaN is NaN. -/
def correctGuess (zones : TimeZones) (timeZone : String) (desiredMs : Option ℤ)
    : Nat → Option ℤ → Except DateError (Option ℤ)
  | 0, guessMs => .ok guessMs
  | attempts + 1, guessMs => do
      let zoned ← getZonedParts zones (newDate guessMs) timeZone
      let actualMs :=
        dateUTC zoned.year (zoned.month - 1) zoned.day zoned.hour zoned.minute zoned.second
      correctGuess zones timeZone desiredMs attempts
        (guessMs.bind (fun guess => desiredMs.bind (fun desired =>
          actualMs.map (fun actual => guess + (desired - actual)))))

def zonedDateTimeToUtc (zones : TimeZones) (calendar : Option CalendarParts)
    (hour minute second : ℤ) (timeZone : String)
    : Except DateError JsDate := do
  let desiredMs :=
    calendar.bind (fun date => dateUTC date.year (date.month - 1) date.day hour minute second)
  let guessMs ← correctGuess zones timeZone desiredMs 3 desiredMs
  return newDate guessMs

def getStartOfZonedDay (zones : TimeZones) (date : JsDate) (timeZone : Option String)
    : Except DateError JsDate := do
  let tz := resolveTimeZone zones timeZone
  let parts ← getZonedParts zones date tz
  zonedDateTimeToUtc zones (some parts.toCalendarParts) 0 0 0 tz

/-- Next midnight strictly after `from_` in the given timezone. -/
def getNextDailyMidnight (zones : TimeZones) (from_ : JsDate) (timeZone : Option String)
    : Except DateError JsDate := do
  let tz := resolveTimeZone zones timeZone
  let parts ← getZonedParts zones from_ tz
  let tomorrow := addCalendarDays parts.toCalendarParts 1
  zonedDateTimeToUtc zones tomorrow 0 0 0 tz

-- Formatted dates

/-- The day that `Date.UTC` makes of the formatted date of a day. -/
def utcDay (day : ℤ) : ℤ :=
  dayFromCivil (fullYear (formattedYear (civilFromDay day).year)) ((civilFromDay day).month - 1)
    (civilFromDay day).day

theorem fullYear_formattedYear_of_le {year : ℤ} (old : year ≤ -99)
    : fullYear (formattedYear year) = 1 - year := by
  unfold fullYear formattedYear
  split_ifs <;> omega

theorem fullYear_formattedYear_of_lt {year : ℤ} (recent : -99 < year) (early : year < 100)
    : 1900 ≤ fullYear (formattedYear year) := by
  unfold fullYear formattedYear
  split_ifs <;> omega

theorem utcDay_bounds (day : ℤ)
    : dayFromYear (fullYear (formattedYear (yearFromDay day))) ≤ utcDay day :=
  (dayFromCivil_moved _ day).1

theorem utcDay_eq {day : ℤ} (late : dayFromYear 100 ≤ day) : utcDay day = day := by
  have year := le_yearFromDay_iff.mpr late
  have same : fullYear (formattedYear (civilFromDay day).year) = (civilFromDay day).year := by
    change fullYear (formattedYear (yearFromDay day)) = yearFromDay day
    unfold fullYear formattedYear
    rw [if_neg (by omega), if_neg (by omega)]
  rw [utcDay, same]
  exact dayFromCivil_civilFromDay day

theorem utcDay_early {day : ℤ} (early : day < dayFromYear 100)
    : dayFromYear 100 ≤ utcDay day ∧ day + 2 ≤ utcDay day
      ∧ (utcDay day = dayFromYear 100 → dayFromYear (-99) ≤ day) := by
  have year : yearFromDay day < 100 := by
    by_contra late
    exact absurd (le_yearFromDay_iff.mp (not_lt.mp late)) (by omega)
  have within := (yearFromDay_spec day).2
  have read := utcDay_bounds day
  by_cases ancient : yearFromDay day ≤ -99
  · rw [fullYear_formattedYear_of_le ancient] at read
    have first := dayFromYear_mono (show 100 ≤ 1 - yearFromDay day by omega)
    have last := dayFromYear_strictMono (show yearFromDay day + 1 < 100 by omega)
    refine ⟨first.trans read, by omega, fun same => ?_⟩
    by_contra before
    have older : yearFromDay day < -99 := by
      by_contra same_year
      exact before (le_yearFromDay_iff.mp (not_lt.mp same_year))
    have := dayFromYear_strictMono (show 100 < 1 - yearFromDay day by omega)
    omega
  · have first : dayFromYear 1900 ≤ utcDay day :=
      (dayFromYear_mono (fullYear_formattedYear_of_lt (by omega) year)).trans read
    have between := dayFromYear_strictMono (show (100 : ℤ) < 1900 by omega)
    have last := dayFromYear_mono (show yearFromDay day + 1 ≤ 100 by omega)
    refine ⟨by omega, by omega, fun same => by omega⟩

theorem utcDay_last {day : ℤ} (late : dayFromYear 99 ≤ day) (early : day < dayFromYear 100)
    : dayFromYear 1999 ≤ utcDay day := by
  have year : yearFromDay day = 99 := by
    have := le_yearFromDay_iff.mpr late
    by_contra other
    exact absurd (le_yearFromDay_iff.mp (show 100 ≤ yearFromDay day by omega)) (by omega)
  have read := utcDay_bounds day
  rwa [year] at read

theorem utcDay_ancient {day : ℤ} (ancient : day < dayFromYear (-900))
    : dayFromYear 900 ≤ utcDay day := by
  have year : yearFromDay day < -900 := by
    by_contra late
    exact absurd (le_yearFromDay_iff.mp (not_lt.mp late)) (by omega)
  refine le_trans (dayFromYear_mono ?_) (utcDay_bounds day)
  rw [fullYear_formattedYear_of_le (by omega)]
  omega

/-- The wall time that is read, in seconds of `Date.UTC`. -/
def utcOfWall (wall : ℤ) : ℤ :=
  86400 * utcDay (wall / 86400) + wall % 86400

theorem dateUTC_partsOfWall (wall : ℤ)
    : dateUTC (partsOfWall wall).year ((partsOfWall wall).month - 1) (partsOfWall wall).day
        (partsOfWall wall).hour (partsOfWall wall).minute (partsOfWall wall).second
      = (newDate (some (1000 * utcOfWall wall))).map Instant.ms := by
  have time : 3600 * (wall % 86400 / 3600) + 60 * (wall % 3600 / 60) + wall % 60
      = wall % 86400 := by
    omega
  unfold dateUTC utcOfWall
  rw [← time]
  simp only [partsOfWall, utcDay, add_assoc]

theorem newDate_seconds (seconds : ℤ)
    : (newDate (some (1000 * seconds))).map Instant.ms
      = if -8640000000000 ≤ seconds ∧ seconds ≤ 8640000000000 then some (1000 * seconds)
        else none := by
  unfold newDate
  simp only [Option.bind_some]
  split_ifs <;> first | rfl | omega

-- Attempts

section

variable {zones : TimeZones} {timeZone : String} {zone : Zone} {target guess : ℤ} {attempts : Nat}
  {result : Option ℤ}

theorem newDate_of_inRange (inRange : -8640000000000 ≤ guess ∧ guess ≤ 8640000000000)
    : newDate (some (1000 * guess)) = some ⟨1000 * guess, by omega⟩ := by
  unfold newDate
  rw [Option.bind_some, dif_pos (by omega)]

theorem newDate_of_outside (outside : ¬ (-8640000000000 ≤ guess ∧ guess ≤ 8640000000000))
    : newDate (some (1000 * guess)) = none := by
  unfold newDate
  rw [Option.bind_some, dif_neg (by omega)]

theorem eq_of_newDate {value : Option ℤ} {date : Instant} (valid : newDate value = some date)
    : value = some date.ms := by
  obtain ⟨ms, rfl, made⟩ := Option.bind_eq_some_iff.mp valid
  split at made
  · obtain rfl := Option.some.inj made
    rfl
  · cases made

theorem correctGuess_none {desired : Option ℤ}
    (returned : correctGuess zones timeZone desired attempts none = .ok result)
    : result = none := by
  cases attempts with
  | zero => exact (Except.ok.inj returned).symm
  | succ attempts =>
      unfold correctGuess getZonedParts at returned
      cases found : zones.zone? timeZone with
      | none =>
          rw [found] at returned
          cases returned
      | some zone =>
          rw [found] at returned
          cases returned

theorem correctGuess_outside {desired : Option ℤ}
    (outside : ¬ (-8640000000000 ≤ guess ∧ guess ≤ 8640000000000))
    : correctGuess zones timeZone desired (attempts + 1) (some (1000 * guess)) ≠ .ok result := by
  unfold correctGuess getZonedParts
  rw [newDate_of_outside outside]
  cases zones.zone? timeZone <;> exact fun returned => by cases returned

theorem correctGuess_succ (found : zones.zone? timeZone = some zone)
    (inRange : -8640000000000 ≤ guess ∧ guess ≤ 8640000000000)
    : correctGuess zones timeZone (some (1000 * target)) (attempts + 1) (some (1000 * guess))
      = correctGuess zones timeZone (some (1000 * target)) attempts
          (if -8640000000000 ≤ utcOfWall (zone.wall guess)
              ∧ utcOfWall (zone.wall guess) ≤ 8640000000000
            then some (1000 * (guess + (target - utcOfWall (zone.wall guess)))) else none) := by
  have read : getZonedParts zones (newDate (some (1000 * guess))) timeZone
      = .ok (partsOfWall (zone.wall guess)) := by
    rw [newDate_of_inRange inRange]
    simp [getZonedParts, found]
  rw [correctGuess, read]
  change correctGuess _ _ _ _ _ = _
  rw [dateUTC_partsOfWall, newDate_seconds]
  split
  · simp only [Option.bind_some, Option.map_some]
    rw [show 1000 * guess + (1000 * target - 1000 * utcOfWall (zone.wall guess))
      = 1000 * (guess + (target - utcOfWall (zone.wall guess))) by omega]
  · rfl

theorem utcOfWall_eq {wall : ℤ} (late : 86400 * dayFromYear 100 ≤ wall)
    : utcOfWall wall = wall := by
  unfold utcOfWall
  rw [utcDay_eq (by omega)]
  omega

theorem correctGuess_tracks (found : zones.zone? timeZone = some zone)
    (inRange : -8640000000000 ≤ guess ∧ guess ≤ 8640000000000)
    (late : 86400 * dayFromYear 100 ≤ zone.wall guess)
    (early : zone.wall guess ≤ 8640000000000)
    : correctGuess zones timeZone (some (1000 * target)) (attempts + 1) (some (1000 * guess))
      = correctGuess zones timeZone (some (1000 * target)) attempts
          (some (1000 * zone.correct target guess)) := by
  rw [correctGuess_succ found inRange, utcOfWall_eq late,
    if_pos (by unfold dayFromYear at late; omega)]
  rfl

theorem correctGuess_lost (found : zones.zone? timeZone = some zone)
    (old : target ≤ 86400 * dayFromYear 100) (lost : guess ≤ 86400 * dayFromYear (-1000))
    (returned : correctGuess zones timeZone (some (1000 * target)) attempts (some (1000 * guess))
      = .ok result)
    {ms : ℤ} (valid : result = some ms)
    : ms ≤ 1000 * (86400 * dayFromYear (-1000)) := by
  induction attempts generalizing guess with
  | zero =>
      obtain rfl := Except.ok.inj returned
      obtain rfl := Option.some.inj valid
      omega
  | succ attempts ih =>
      by_cases inRange : -8640000000000 ≤ guess ∧ guess ≤ 8640000000000
      · rw [correctGuess_succ found inRange] at returned
        split at returned
        · refine ih ?_ returned
          have bounded := zone.bounded guess
          have ancient : zone.wall guess / 86400 < dayFromYear (-900) := by
            have := dayFromYear_strictMono (show (-1000 : ℤ) < -900 by omega)
            unfold Zone.wall
            omega
          have read := utcDay_ancient ancient
          have later := dayFromYear_mono (show (100 : ℤ) ≤ 900 by omega)
          unfold utcOfWall
          omega
        · rw [correctGuess_none returned] at valid
          cases valid
      · exact absurd returned (correctGuess_outside inRange)

theorem correctGuess_strays (found : zones.zone? timeZone = some zone)
    (late : 86400 * dayFromYear 100 - 86400 ≤ zone.wall guess)
    (early : zone.wall guess < 86400 * dayFromYear 100)
    (returned : correctGuess zones timeZone (some (1000 * (86400 * dayFromYear 100))) (attempts + 1)
      (some (1000 * guess)) = .ok result)
    {ms : ℤ} (valid : result = some ms)
    : ms ≤ 1000 * (86400 * dayFromYear (-1000)) := by
  have bounded := zone.bounded guess
  have read : dayFromYear 1999 ≤ utcDay (zone.wall guess / 86400) := by
    have := dayFromYear_strictMono (show (99 : ℤ) < 100 by omega)
    exact utcDay_last (by omega) (by omega)
  have near : guess < 86400 * dayFromYear 100 + 86400 := by
    unfold Zone.wall at early
    omega
  by_cases inRange : -8640000000000 ≤ guess ∧ guess ≤ 8640000000000
  · rw [correctGuess_succ found inRange] at returned
    split at returned
    · refine correctGuess_lost found le_rfl ?_ returned valid
      unfold utcOfWall
      have far : 2 * dayFromYear 100 + 1 - dayFromYear 1999 ≤ dayFromYear (-1000) := by decide
      omega
    · rw [correctGuess_none returned] at valid
      cases valid
  · exact absurd returned (correctGuess_outside inRange)

-- Midnights

/-- The dates that are read on the way to a midnight are from the year 100 on, and dates. -/
def InReach (zone : Zone) (day : ℤ) : Prop :=
  (dayFromYear 100 < day
    ∨ day = dayFromYear 100 ∧ 0 ≤ zone.offset (86400 * day)
      ∧ zone.offset (86400 * day)
        ≤ zone.offset (86400 * day - zone.offset (86400 * day)))
  ∧ (day < 100000000 ∨ day = 100000000 ∧ zone.offset (86400 * day) = 0)

variable {day : ℤ}

theorem InReach.readings (reach : InReach zone day) {guess : ℤ}
    (read : guess = 86400 * day ∨ guess = zone.correct (86400 * day) (86400 * day)
      ∨ guess = zone.correct (86400 * day) (zone.correct (86400 * day) (86400 * day)))
    : (-8640000000000 ≤ guess ∧ guess ≤ 8640000000000)
      ∧ 86400 * dayFromYear 100 ≤ zone.wall guess ∧ zone.wall guess ≤ 8640000000000 := by
  have year : dayFromYear 100 = -683003 := rfl
  have bounded := zone.bounded (86400 * day)
  have near := @Zone.near_correct zone (86400 * day) (86400 * day) (by omega) (by omega)
  have near' := @Zone.near_correct zone (86400 * day) _ near.1.le near.2.1
  have first := zone.correct_eq (86400 * day) (86400 * day)
  have second := zone.correct_eq (86400 * day) (zone.correct (86400 * day) (86400 * day))
  have kept := @Zone.offset_le_of_le zone (86400 * day)
  obtain ⟨late, early⟩ := reach
  rw [← first] at late
  rcases early with early | ⟨last, utc⟩
  · unfold Zone.wall at near near' ⊢
    rcases read with rfl | rfl | rfl <;> omega
  · rw [utc, sub_zero] at first
    rw [first, utc, sub_zero] at second
    rw [first, second] at read
    obtain rfl : guess = 86400 * day := by omega
    rw [Zone.wall, utc]
    omega

theorem correctGuess_of_inReach (found : zones.zone? timeZone = some zone)
    (reach : InReach zone day)
    : correctGuess zones timeZone (some (1000 * (86400 * day))) 3 (some (1000 * (86400 * day)))
      = .ok (some (1000 * zone.corrected (86400 * day))) := by
  obtain ⟨inRange, late, early⟩ := reach.readings (.inl rfl)
  obtain ⟨inRange', late', early'⟩ := reach.readings (.inr (.inl rfl))
  obtain ⟨inRange'', late'', early''⟩ := reach.readings (.inr (.inr rfl))
  rw [correctGuess_tracks found inRange late early, correctGuess_tracks found inRange' late' early',
    correctGuess_tracks found inRange'' late'' early'']
  rfl

theorem correctGuess_of_not_inReach (found : zones.zone? timeZone = some zone)
    (reach : ¬ InReach zone day) (recent : dayFromYear 100 ≤ day) (early : day ≤ 100000000)
    (returned : correctGuess zones timeZone (some (1000 * (86400 * day))) 3
      (some (1000 * (86400 * day))) = .ok result)
    {ms : ℤ} (valid : result = some ms)
    : day = dayFromYear 100 ∧ ms ≤ 1000 * (86400 * dayFromYear (-1000)) := by
  have year : dayFromYear 100 = -683003 := rfl
  have bounded := zone.bounded (86400 * day)
  have inRange : -8640000000000 ≤ 86400 * day ∧ 86400 * day ≤ 8640000000000 := by omega
  have near := @Zone.near_correct zone (86400 * day) (86400 * day) (by omega) (by omega)
  have first := zone.correct_eq (86400 * day) (86400 * day)
  by_cases last : day = 100000000
  · subst last
    rcases lt_trichotomy (zone.offset (86400 * 100000000)) 0 with behind | utc | ahead
    · rw [correctGuess_tracks found inRange (by unfold Zone.wall; omega)
        (by unfold Zone.wall; omega)] at returned
      exact absurd returned (correctGuess_outside (by omega))
    · exact absurd ⟨.inl (by omega), .inr ⟨rfl, utc⟩⟩ reach
    · rw [correctGuess_succ found inRange, utcOfWall_eq (by unfold Zone.wall; omega),
        if_neg (by unfold Zone.wall; omega)] at returned
      rw [correctGuess_none returned] at valid
      cases valid
  · have start : day = dayFromYear 100 := by
      by_contra later
      exact reach ⟨.inl (by omega), .inl (by omega)⟩
    refine ⟨start, ?_⟩
    subst start
    by_cases behind : zone.offset (86400 * dayFromYear 100) < 0
    · exact correctGuess_strays found (by unfold Zone.wall; omega) (by unfold Zone.wall; omega)
        returned valid
    · have set_back : ¬ zone.offset (86400 * dayFromYear 100)
          ≤ zone.offset (86400 * dayFromYear 100 - zone.offset (86400 * dayFromYear 100)) :=
        fun kept => reach ⟨.inr ⟨rfl, by omega, kept⟩, .inl (by omega)⟩
      rw [← first] at set_back
      rw [correctGuess_tracks found inRange (by unfold Zone.wall; omega)
        (by unfold Zone.wall; omega)] at returned
      unfold Zone.wall at near
      exact correctGuess_strays found (by unfold Zone.wall; omega) (by unfold Zone.wall; omega)
        returned valid

theorem InReach.corrected_inRange (reach : InReach zone day)
    : (-8640000000000 ≤ zone.corrected (86400 * day) ∧ zone.corrected (86400 * day) ≤ 8640000000000)
      ∧ day - 1 ≤ zone.localDay (zone.corrected (86400 * day)) := by
  have year : dayFromYear 100 = -683003 := rfl
  have near := @Zone.near_correct zone (86400 * day) (86400 * day) (by omega) (by omega)
  have near' := @Zone.near_correct zone (86400 * day) _ near.1.le near.2.1
  have near'' := @Zone.near_correct zone (86400 * day) _ near'.1.le near'.2.1
  refine ⟨?_, by unfold Zone.localDay Zone.corrected; omega⟩
  obtain ⟨late, early | ⟨last, utc⟩⟩ := reach
  · unfold Zone.corrected
    omega
  · have fixed : zone.correct (86400 * day) (86400 * day) = 86400 * day := by
      rw [Zone.correct_eq, utc, sub_zero]
    unfold Zone.corrected
    rw [fixed, fixed, fixed]
    omega

-- The first instant of a day

/-- The local day of an instant in milliseconds. -/
def zonedDay (zone : Zone) (ms : ℤ) : ℤ :=
  zone.localDay (ms / 1000)

/-- The first instant of a local day, in milliseconds. -/
def IsFirstMs (zone : Zone) (day ms : ℤ) : Prop :=
  zonedDay zone ms = day ∧ ∀ u, zonedDay zone u = day → ms ≤ u

theorem isFirstMs_iff {seconds : ℤ}
    : IsFirstMs zone day (1000 * seconds) ↔ zone.IsFirst day seconds := by
  unfold IsFirstMs zonedDay Zone.IsFirst
  rw [show 1000 * seconds / 1000 = seconds by omega]
  refine and_congr_right fun _ => ⟨fun least u here => ?_, fun least u here => ?_⟩
  · have := least (1000 * u) (by rwa [show 1000 * u / 1000 = u by omega])
    omega
  · have := least (u / 1000) here
    omega

/-- The result is the first instant of the local day. -/
def StartsDay (zone : Zone) (day : ℤ) (result : Except DateError JsDate) : Prop :=
  ∃ start, result = .ok (some start) ∧ IsFirstMs zone day start.ms

/-- What `Date.UTC` makes of a calendar date at midnight. -/
def utcMidnight (calendar : Option CalendarParts) : Option ℤ :=
  calendar.bind (fun date => dateUTC date.year (date.month - 1) date.day 0 0 0)

theorem startsDay_iff {calendar : Option CalendarParts} (target : ℤ)
    (found : zones.zone? timeZone = some zone)
    (desired : utcMidnight calendar = (newDate (some (1000 * (86400 * target)))).map Instant.ms)
    (recent : dayFromYear 100 ≤ target)
    (other : target ≠ day → day + 2 ≤ target
      ∧ (target = dayFromYear 100 → dayFromYear (-99) ≤ day))
    : StartsDay zone day (zonedDateTimeToUtc zones calendar 0 0 0 timeZone)
      ↔ target = day ∧ InReach zone day ∧ zone.Settles (86400 * day) := by
  have unfolded : zonedDateTimeToUtc zones calendar 0 0 0 timeZone
      = (correctGuess zones timeZone (utcMidnight calendar) 3 (utcMidnight calendar)).map newDate :=
    rfl
  rw [newDate_seconds] at desired
  by_cases reach : InReach zone target
  · have inRange : -8640000000000 ≤ 86400 * target ∧ 86400 * target ≤ 8640000000000 :=
      (reach.readings (.inl rfl)).1
    obtain ⟨date, near⟩ := reach.corrected_inRange
    rw [if_pos inRange] at desired
    rw [desired, correctGuess_of_inReach found reach] at unfolded
    have ended : zonedDateTimeToUtc zones calendar 0 0 0 timeZone
        = .ok (some ⟨1000 * zone.corrected (86400 * target), by omega⟩) :=
      unfolded.trans (congrArg Except.ok (newDate_of_inRange date))
    unfold StartsDay
    rw [ended]
    constructor
    · rintro ⟨start, same, first⟩
      obtain rfl := Option.some.inj (Except.ok.inj same)
      have first := isFirstMs_iff.mp first
      obtain rfl : target = day := by
        by_contra different
        have := (other different).1
        have := first.1
        omega
      exact ⟨rfl, reach, (Zone.isFirst_corrected_iff zone target).mp first⟩
    · rintro ⟨rfl, -, settles⟩
      exact ⟨_, rfl, isFirstMs_iff.mpr ((Zone.isFirst_corrected_iff zone target).mpr settles)⟩
  · refine ⟨?_, fun ⟨same, mine, _⟩ => absurd (same ▸ mine) reach⟩
    rintro ⟨start, ended, first⟩
    rw [unfolded, desired] at ended
    cases returned : correctGuess zones timeZone
        (if -8640000000000 ≤ 86400 * target ∧ 86400 * target ≤ 8640000000000
          then some (1000 * (86400 * target)) else none) 3
        (if -8640000000000 ≤ 86400 * target ∧ 86400 * target ≤ 8640000000000
          then some (1000 * (86400 * target)) else none) with
    | error error =>
        rw [returned] at ended
        cases ended
    | ok guess =>
        rw [returned] at ended
        have valid := eq_of_newDate (Except.ok.inj ended)
        split at returned
        · obtain ⟨start_of_year, lost⟩ :=
            correctGuess_of_not_inReach found reach recent (by omega) returned valid
          have bounded := zone.bounded (start.ms / 1000)
          have here := first.1
          have long_ago : dayFromYear (-99) ≤ day := by
            by_cases same : target = day
            · have := dayFromYear_mono (show (-99 : ℤ) ≤ 100 by omega)
              omega
            · exact (other same).2 start_of_year
          have := dayFromYear_strictMono (show (-1000 : ℤ) < -99 by omega)
          unfold zonedDay Zone.localDay Zone.wall at here
          omega
        · rw [correctGuess_none returned] at valid
          cases valid

theorem utcMidnight_partsOfWall (wall : ℤ)
    : utcMidnight (some (partsOfWall wall).toCalendarParts)
      = (newDate (some (1000 * (86400 * utcDay (wall / 86400))))).map Instant.ms := by
  simp [utcMidnight, dateUTC, partsOfWall, utcDay]

theorem utcMidnight_civilFromDay (recent : dayFromYear 100 ≤ day)
    : utcMidnight (some ⟨(civilFromDay day).year, (civilFromDay day).month, (civilFromDay day).day⟩)
      = (newDate (some (1000 * (86400 * day)))).map Instant.ms := by
  have year : 100 ≤ (civilFromDay day).year := le_yearFromDay_iff.mpr recent
  have full : fullYear (civilFromDay day).year = (civilFromDay day).year := if_neg (by omega)
  simp [utcMidnight, dateUTC, full, dayFromCivil_civilFromDay]

theorem utcMidnight_addCalendarDays (wall : ℤ)
    : utcMidnight (addCalendarDays (partsOfWall wall).toCalendarParts 1)
      = (newDate (some (1000 * (86400 * (utcDay (wall / 86400) + 1))))).map Instant.ms := by
  have next : dateUTC (partsOfWall wall).year ((partsOfWall wall).month - 1)
      ((partsOfWall wall).day + 1) 0 0 0
      = (newDate (some (1000 * (86400 * (utcDay (wall / 86400) + 1))))).map Instant.ms := by
    have added : ∀ year month day, dayFromCivil year month (day + 1)
        = dayFromCivil year month day + 1 := by
      intro year month day
      unfold dayFromCivil
      omega
    simp [dateUTC, partsOfWall, utcDay, added]
  have recent : dayFromYear 100 ≤ utcDay (wall / 86400) := by
    by_cases late : dayFromYear 100 ≤ wall / 86400
    · rwa [utcDay_eq late]
    · exact (utcDay_early (not_le.mp late)).1
  have shifted : 1000 * (86400 * (utcDay (wall / 86400) + 1)) / 86400000
      = utcDay (wall / 86400) + 1 := by
    omega
  unfold addCalendarDays
  rw [next, newDate_seconds]
  split
  · rename_i inRange
    rw [Option.map_some]
    simp only [shifted]
    rw [utcMidnight_civilFromDay (by omega), newDate_seconds, if_pos inRange]
  · rfl

-- Today's and tomorrow's midnight

/-- The result is the first instant of the following local day, and after `ms`. -/
def NextMidnight (zone : Zone) (ms : ℤ) (result : Except DateError JsDate) : Prop :=
  ∃ next, result = .ok (some next) ∧ ms < next.ms ∧ IsFirstMs zone (zonedDay zone ms + 1) next.ms

/-- Both midnights settle and are within reach, and the following day has not begun before. -/
structure MidnightsFound (zone : Zone) (ms : ℤ) : Prop where
  reach : InReach zone (zonedDay zone ms)
  today : zone.Settles (86400 * zonedDay zone ms)
  reach' : InReach zone (zonedDay zone ms + 1)
  tomorrow : zone.Settles (86400 * (zonedDay zone ms + 1))
  ahead : ∀ u, zonedDay zone u = zonedDay zone ms + 1 → ms < u

variable {date : Instant} {preferred : Option String}

theorem getZonedParts_eq (found : zones.zone? timeZone = some zone)
    : getZonedParts zones (some date) timeZone
      = .ok (partsOfWall (zone.wall (date.ms / 1000))) := by
  simp [getZonedParts, found]

theorem getStartOfZonedDay_eq (found : zones.zone? (resolveTimeZone zones preferred) = some zone)
    : getStartOfZonedDay zones (some date) preferred
      = zonedDateTimeToUtc zones (some (partsOfWall (zone.wall (date.ms / 1000))).toCalendarParts)
          0 0 0 (resolveTimeZone zones preferred) := by
  unfold getStartOfZonedDay
  simp only
  rw [getZonedParts_eq found]
  rfl

theorem getNextDailyMidnight_eq (found : zones.zone? (resolveTimeZone zones preferred) = some zone)
    : getNextDailyMidnight zones (some date) preferred
      = zonedDateTimeToUtc zones
          (addCalendarDays (partsOfWall (zone.wall (date.ms / 1000))).toCalendarParts 1)
          0 0 0 (resolveTimeZone zones preferred) := by
  unfold getNextDailyMidnight
  simp only
  rw [getZonedParts_eq found]
  rfl

theorem recent_of_inReach (reach : InReach zone day) : dayFromYear 100 ≤ day := by
  rcases reach.1 with late | ⟨rfl, -⟩
  · exact late.le
  · exact le_rfl

theorem startsDay_getStartOfZonedDay
    (found : zones.zone? (resolveTimeZone zones preferred) = some zone)
    : StartsDay zone (zonedDay zone date.ms) (getStartOfZonedDay zones (some date) preferred)
      ↔ InReach zone (zonedDay zone date.ms) ∧ zone.Settles (86400 * zonedDay zone date.ms) := by
  rw [getStartOfZonedDay_eq found]
  by_cases late : dayFromYear 100 ≤ zonedDay zone date.ms
  · rw [startsDay_iff (utcDay (zonedDay zone date.ms)) found
      (utcMidnight_partsOfWall _) (by rwa [utcDay_eq late])
      (fun different => absurd (utcDay_eq late) different)]
    exact and_iff_right (utcDay_eq late)
  · obtain ⟨recent, later, old⟩ := utcDay_early (not_le.mp late)
    rw [startsDay_iff _ found (utcMidnight_partsOfWall _) recent (fun _ => ⟨later, old⟩)]
    exact iff_of_false (fun found => late (recent_of_inReach found.2.1))
      (fun found => late (recent_of_inReach found.1))

theorem startsDay_getNextDailyMidnight
    (found : zones.zone? (resolveTimeZone zones preferred) = some zone)
    (recent : dayFromYear 100 ≤ zonedDay zone date.ms)
    : StartsDay zone (zonedDay zone date.ms + 1) (getNextDailyMidnight zones (some date) preferred)
      ↔ InReach zone (zonedDay zone date.ms + 1)
        ∧ zone.Settles (86400 * (zonedDay zone date.ms + 1)) := by
  have same : utcDay (zonedDay zone date.ms) + 1 = zonedDay zone date.ms + 1 := by
    rw [utcDay_eq recent]
  rw [getNextDailyMidnight_eq found,
    startsDay_iff (utcDay (zonedDay zone date.ms) + 1) found
      (utcMidnight_addCalendarDays _) (by omega) (fun different => absurd same different)]
  exact and_iff_right same

end

/-- Today's first instant and tomorrow's are found exactly where both midnights settle, within
reach, and tomorrow has not begun before.
-/
theorem zonedMidnights_iff (zones : TimeZones) (date : Instant) (preferred : Option String)
    (zone : Zone) (found : zones.zone? (resolveTimeZone zones preferred) = some zone)
    : StartsDay zone (zonedDay zone date.ms) (getStartOfZonedDay zones (some date) preferred)
        ∧ NextMidnight zone date.ms (getNextDailyMidnight zones (some date) preferred)
      ↔ MidnightsFound zone date.ms := by
  rw [startsDay_getStartOfZonedDay found]
  constructor
  · rintro ⟨⟨reach, today⟩, next, ended, later, first⟩
    obtain ⟨reach', tomorrow⟩ :=
      (startsDay_getNextDailyMidnight found (recent_of_inReach reach)).mp ⟨next, ended, first⟩
    exact ⟨reach, today, reach', tomorrow, fun u here => later.trans_le (first.2 u here)⟩
  · rintro ⟨reach, today, reach', tomorrow, ahead⟩
    obtain ⟨next, ended, first⟩ :=
      (startsDay_getNextDailyMidnight found (recent_of_inReach reach)).mpr ⟨reach', tomorrow⟩
    exact ⟨⟨reach, today⟩, next, ended, ahead next.ms first.1, first⟩

-- A morning in Lagos, and a late evening in Cairo

def lagos : Zone :=
  .switching 0 3600 3600 (by omega) (by omega)

/-- On 26 April 2024 the clocks go forward at midnight, from two hours ahead to three. -/
def cairo : Zone :=
  .switching 1714082400 7200 10800 (by omega) (by omega)

def sampleZones : TimeZones where
  zone? timeZone :=
    if timeZone = "Africa/Lagos" then some lagos
    else if timeZone = "Africa/Cairo" then some cairo
    else none
  businessTimeZone := "Africa/Lagos"

/-- 9:00 on 15 May 2026, in Lagos. -/
def morning : Instant where
  ms := 1778832000000
  inRange := by omega

/-- Today's midnight and tomorrow's in Lagos. -/
theorem zonedMidnights_lagos
    : StartsDay lagos 20588 (getStartOfZonedDay sampleZones (some morning) none)
      ∧ NextMidnight lagos morning.ms (getNextDailyMidnight sampleZones (some morning) none) := by
  have wall : ∀ t, lagos.wall t = t + 3600 := fun t => congrArg (t + ·) (ite_self 3600)
  have settles : ∀ midnight, lagos.Settles midnight := fun midnight =>
    .inl ⟨midnight - 3600, by rw [wall]; omega, fun u here => by rw [wall] at here; omega⟩
  have reach : ∀ day, dayFromYear 100 < day → day < 100000000 → InReach lagos day :=
    fun day late early => ⟨.inl late, .inl early⟩
  refine (zonedMidnights_iff sampleZones morning none lagos rfl).mpr
    ⟨reach _ (by decide) (by decide), settles _, reach _ (by decide) (by decide), settles _, ?_⟩
  intro u here
  have today : zonedDay lagos morning.ms = 20588 := rfl
  rw [today] at here
  unfold zonedDay Zone.localDay at here
  rw [wall] at here
  change 1778832000000 < u
  omega

/-- 23:30 on 25 April 2024, in Cairo. -/
def lateEvening : Instant where
  ms := 1714080600000
  inRange := by omega

/-- Half an hour before midnight the next midnight is found half an hour ago. -/
theorem not_zonedMidnights_cairo
    : (∃ next, getNextDailyMidnight sampleZones (some lateEvening) (some "Africa/Cairo")
          = .ok (some next) ∧ next.ms = lateEvening.ms - 1800000)
      ∧ ¬ (StartsDay cairo (zonedDay cairo lateEvening.ms)
            (getStartOfZonedDay sampleZones (some lateEvening) (some "Africa/Cairo"))
          ∧ NextMidnight cairo lateEvening.ms
            (getNextDailyMidnight sampleZones (some lateEvening) (some "Africa/Cairo"))) := by
  have found : getNextDailyMidnight sampleZones (some lateEvening) (some "Africa/Cairo")
      = .ok (some ⟨1714078800000, by omega⟩) := by
    rfl
  refine ⟨⟨_, found, rfl⟩, ?_⟩
  rintro ⟨-, next, ended, later, -⟩
  rw [found] at ended
  obtain rfl := Option.some.inj (Except.ok.inj ended)
  exact absurd later (by decide)

end AcbuBackend.Dates

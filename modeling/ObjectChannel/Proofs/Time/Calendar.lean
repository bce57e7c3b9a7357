/-
The calendar read forwards and backwards: the date that lies so many days after the start of 1970 lies so
many days after it, and the time that is made of seconds and microseconds denotes them.
-/
import ObjectChannel.Time.Calendar

namespace ObjectChannel.Time

/-- Of four hundred years that begin in March, the days before the year that a day lies in are not more
than the days before that day, and no more than a leap year's are left. The estimate of the year counts a
leap day every four years, without those of the full centuries. -/
theorem yearOfEra_bounds {day year : Nat} (hday : day < 146097)
    (hyear : year = (day - day / 1460 + day / 36524 - day / 146096) / 365) :
    year < 400 ∧ 365 * year + year / 4 - year / 100 ≤ day ∧
      day ≤ 365 * year + year / 4 - year / 100 + 365 := by
  by_cases hlast : day = 146096
  · subst hlast hyear
    decide
  have hera : day / 146096 = 0 := by omega
  have hcenturies : day / 36524 = 0 ∨ day / 36524 = 1 ∨ day / 36524 = 2 ∨ day / 36524 = 3 := by omega
  have hcentury : day / 36524 = year / 100 := by
    rcases hcenturies with h | h | h | h <;> omega
  have hleap : day / 1460 = year / 4 ∨ day / 1460 = year / 4 + 1 := by
    rcases hcenturies with h | h | h | h <;> omega
  rcases hcenturies with h | h | h | h <;> omega

/-- The parts of the date that `dateFromDays` finds, with what they are chosen by. -/
theorem dateFromDays_parts (days : Int) :
    ∃ (era : Int) (year dayOfYear fromMarch : Nat),
      days + 719468 = era * 146097 + (365 * year + year / 4 - year / 100 + dayOfYear : Nat) ∧
      year < 400 ∧ dayOfYear ≤ 365 ∧ 365 * year + year / 4 - year / 100 + dayOfYear < 146097 ∧
      fromMarch = (5 * dayOfYear + 2) / 153 ∧
      dateFromDays days =
        (if fromMarch < 10 then (year + era * 400, fromMarch + 3, dayOfYear - (153 * fromMarch + 2) / 5 + 1)
          else (year + era * 400 + 1, fromMarch - 9, dayOfYear - (153 * fromMarch + 2) / 5 + 1)) := by
  obtain ⟨era, hera⟩ : ∃ era, (days + 719468).fdiv 146097 = era := ⟨_, rfl⟩
  have hera' := hera
  rw [Int.fdiv_eq_ediv_of_nonneg _ (by decide)] at hera'
  obtain ⟨day, hday⟩ : ∃ day, (days + 719468 - era * 146097).toNat = day := ⟨_, rfl⟩
  obtain ⟨year, hyear⟩ :
      ∃ year, (day - day / 1460 + day / 36524 - day / 146096) / 365 = year := ⟨_, rfl⟩
  have hbound : day < 146097 := by omega
  obtain ⟨hlt, hle, hrest⟩ := yearOfEra_bounds hbound hyear.symm
  refine ⟨era, year, day - (365 * year + year / 4 - year / 100), _, by omega, hlt, by omega, by omega,
    rfl, ?_⟩
  simp only [dateFromDays, hera, hday, hyear]
  split
  · rw [if_neg (by omega)]
  · rw [if_pos (by omega)]

theorem daysFromDate_dateFromDays {days year : Int} {month day : Nat}
    (h : dateFromDays days = (year, month, day)) :
    daysFromDate year month day = days ∧ 1 ≤ month ∧ month ≤ 12 := by
  obtain ⟨era, yearOfEra, dayOfYear, fromMarch, hdays, hyear, hday, -, hmonth, hdate⟩ :=
    dateFromDays_parts days
  rw [h] at hdate
  have hera : (yearOfEra + era * 400).fdiv 400 = era := by
    rw [Int.fdiv_eq_ediv_of_nonneg _ (by decide)]
    omega
  have hfromMarch : fromMarch < 12 ∧ (153 * fromMarch + 2) / 5 ≤ dayOfYear := by omega
  split at hdate <;> obtain ⟨rfl, rfl, rfl⟩ := hdate
  · refine ⟨?_, by omega, by omega⟩
    have hmarch : (fromMarch + 3 + 9) % 12 = fromMarch := by omega
    simp only [daysFromDate, hmarch, if_neg (by omega : ¬fromMarch + 3 ≤ 2), hera]
    omega
  · refine ⟨?_, by omega, by omega⟩
    have hmarch : (fromMarch - 9 + 9) % 12 = fromMarch := by omega
    simp only [daysFromDate, hmarch, if_pos (by omega : fromMarch - 9 ≤ 2), Int.add_sub_cancel,
      hera]
    omega

/-! ## The first second of a year -/

/-- The first day of a year that is counted from March in groups of four hundred. -/
theorem daysFromDate_first (year : Int) : ∃ (era : Int) (yearOfEra : Nat), yearOfEra < 400 ∧
    year = yearOfEra + era * 400 + 1 ∧ daysFromDate year 1 1 + 719468 =
      era * 146097 + (365 * yearOfEra + yearOfEra / 4 - yearOfEra / 100 + 306 : Nat) := by
  obtain ⟨era, hera⟩ : ∃ era, (year - 1).fdiv 400 = era := ⟨_, rfl⟩
  have hera' := hera
  rw [Int.fdiv_eq_ediv_of_nonneg _ (by decide)] at hera'
  refine ⟨era, (year - 1 - era * 400).toNat, by omega, by omega, ?_⟩
  simp only [daysFromDate, (by decide : 1 ≤ 2), ite_true, hera]
  omega

/-- A later year of the group begins a year later, at least. -/
theorem days_le_of_lt {year year' : Nat} (h : year < year') :
    365 * year + year / 4 - year / 100 + 365 ≤ 365 * year' + year' / 4 - year' / 100 := by
  have hcentury (y : Nat) : y / 100 = y / 4 / 25 := (Nat.div_div_eq_div_mul y 4 25).symm
  have hleap (q q' : Nat) (hq : q ≤ q') : q - q / 25 ≤ q' - q' / 25 := by omega
  have hquarters := hleap _ _ (Nat.div_le_div_right (c := 4) (Nat.le_of_lt h))
  rw [hcentury, hcentury]
  omega

/-- A day lies before a year if it lies before the first day of that year. -/
theorem year_lt_iff (days year : Int) :
    (dateFromDays days).1 < year ↔ days < daysFromDate year 1 1 := by
  obtain ⟨era, yearOfEra, dayOfYear, fromMarch, hdays, hyear, hday, hbound, hmonth, hdate⟩ :=
    dateFromDays_parts days
  obtain ⟨era', yearOfEra', hyear', rfl, hfirst⟩ := daysFromDate_first year
  have hwinter : fromMarch < 10 ↔ dayOfYear < 306 := by omega
  rw [hdate]
  rcases Int.lt_trichotomy era era' with hera | rfl | hera
  · split <;> dsimp only <;> omega
  · rcases Nat.lt_trichotomy yearOfEra yearOfEra' with hlt | rfl | hgt
    · have := days_le_of_lt hlt
      split <;> dsimp only <;> omega
    · split <;> dsimp only <;> omega
    · have := days_le_of_lt hgt
      split <;> dsimp only <;> omega
  · split <;> dsimp only <;> omega

theorem year_ofSeconds_lt_iff (seconds year : Int) (microsecond : Nat) :
    (DateTime.ofSeconds seconds microsecond).year < year ↔ seconds < daysFromDate year 1 1 * 86400 := by
  show (dateFromDays (seconds.fdiv 86400)).1 < year ↔ _
  rw [year_lt_iff, Int.fdiv_eq_ediv_of_nonneg _ (by decide)]
  omega

/-- The first second of the year 1, and the first one of the year 10000. -/
def firstSecond : Int := -62135596800
def endSecond : Int := 253402300800

theorem year_ofSeconds_iff (seconds : Int) (microsecond : Nat) :
    1 ≤ (DateTime.ofSeconds seconds microsecond).year ∧
      (DateTime.ofSeconds seconds microsecond).year ≤ 9999 ↔
      firstSecond ≤ seconds ∧ seconds < endSecond := by
  have hbefore := year_ofSeconds_lt_iff seconds 1 microsecond
  have hafter := year_ofSeconds_lt_iff seconds 10000 microsecond
  have hyears : daysFromDate 1 1 1 * 86400 = firstSecond ∧ daysFromDate 10000 1 1 * 86400 = endSecond := by
    decide
  omega

theorem year_of_seconds {seconds : Int} (hfirst : firstSecond ≤ seconds) (hend : seconds < endSecond)
    (microsecond : Nat) :
    1 ≤ (DateTime.ofSeconds seconds microsecond).year ∧
      (DateTime.ofSeconds seconds microsecond).year ≤ 9999 :=
  (year_ofSeconds_iff seconds microsecond).mpr ⟨hfirst, hend⟩

/-! ## The time of a second -/

/-- The time that is made of seconds and microseconds denotes them. -/
theorem microseconds_ofSeconds (seconds : Int) (microsecond : Nat) :
    (DateTime.ofSeconds seconds microsecond).microseconds = seconds * 1000000 + microsecond := by
  obtain ⟨⟨year, month, day⟩, hdate⟩ : ∃ date, dateFromDays (seconds.fdiv 86400) = date := ⟨_, rfl⟩
  obtain ⟨hdays, -, -⟩ := daysFromDate_dateFromDays hdate
  have hrest : seconds.fdiv 86400 = seconds / 86400 := Int.fdiv_eq_ediv_of_nonneg _ (by decide)
  simp only [DateTime.ofSeconds, DateTime.microseconds, DateTime.ahead, hdate, hdays, Option.elim]
  omega

theorem isValid_ofSeconds {seconds : Int} {microsecond : Nat} (hfirst : firstSecond ≤ seconds)
    (hend : seconds < endSecond) (hmicrosecond : microsecond < 1000000) :
    (DateTime.ofSeconds seconds microsecond).isValid = true := by
  obtain ⟨hyear, hyear'⟩ := year_of_seconds hfirst hend microsecond
  obtain ⟨⟨year, month, day⟩, hdate⟩ : ∃ date, dateFromDays (seconds.fdiv 86400) = date := ⟨_, rfl⟩
  obtain ⟨hdays, hmonth, hmonth'⟩ := daysFromDate_dateFromDays hdate
  have hrest : seconds.fdiv 86400 = seconds / 86400 := Int.fdiv_eq_ediv_of_nonneg _ (by decide)
  simp only [DateTime.ofSeconds, hdate] at hyear hyear'
  simp only [DateTime.ofSeconds, DateTime.isValid, DateTime.ahead, hdate, hdays, Option.elim,
    Bool.and_eq_true, decide_eq_true_eq, beq_iff_eq]
  refine ⟨⟨⟨⟨⟨⟨⟨⟨⟨hyear, hyear'⟩, hmonth⟩, hmonth'⟩, trivial⟩, ?_⟩, ?_⟩, ?_⟩, hmicrosecond⟩, by decide⟩
  all_goals omega

end ObjectChannel.Time

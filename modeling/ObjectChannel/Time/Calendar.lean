/-
The calendar: dates with a time of day, and the seconds from the start of 1970 that they denote.
-/
namespace ObjectChannel.Time

/-- A date and a time of day. The offset is given in minutes east of the zero meridian, with the
microseconds that it has beyond them; a time without one is taken as universal time. -/
structure DateTime where
  year : Int
  month : Nat
  day : Nat
  hour : Nat
  minute : Nat
  second : Nat
  microsecond : Nat
  offset : Option Int := none
  offsetRest : Nat := 0
  deriving DecidableEq, Inhabited

/-- The days from 1 January 1970 to a date. The year is taken to begin in March, so that a leap day
comes last, and years are grouped by four hundred, which always have the same length. -/
def daysFromDate (year : Int) (month day : Nat) : Int :=
  let y := if month ≤ 2 then year - 1 else year
  let era := y.fdiv 400
  let yearOfEra := y - era * 400
  let fromMarch := (month + 9) % 12
  let dayOfYear := (153 * fromMarch + 2) / 5 + day - 1
  let dayOfEra := yearOfEra * 365 + yearOfEra / 4 - yearOfEra / 100 + dayOfYear
  era * 146097 + dayOfEra - 719468

/-- The date that lies so many days after 1 January 1970: year, month and day. -/
def dateFromDays (days : Int) : Int × Nat × Nat :=
  let z := days + 719468
  let era := z.fdiv 146097
  let dayOfEra := (z - era * 146097).toNat
  let yearOfEra := (dayOfEra - dayOfEra / 1460 + dayOfEra / 36524 - dayOfEra / 146096) / 365
  let dayOfYear := dayOfEra - (365 * yearOfEra + yearOfEra / 4 - yearOfEra / 100)
  let fromMarch := (5 * dayOfYear + 2) / 153
  let day := dayOfYear - (153 * fromMarch + 2) / 5 + 1
  let month := if fromMarch < 10 then fromMarch + 3 else fromMarch - 9
  let year : Int := yearOfEra + era * 400
  (if month ≤ 2 then year + 1 else year, month, day)

/-- How far a time is ahead of universal time, in microseconds. -/
def DateTime.ahead (t : DateTime) : Int :=
  t.offset.elim 0 fun minutes => minutes * 60000000 + t.offsetRest

/-- Whether there is such a time: its date has to be one of the calendar in the years 1 to 9999, and its
offset less than a day. -/
def DateTime.isValid (t : DateTime) : Bool :=
  1 ≤ t.year && t.year ≤ 9999 && 1 ≤ t.month && t.month ≤ 12 &&
    dateFromDays (daysFromDate t.year t.month t.day) == (t.year, t.month, t.day) &&
    t.hour < 24 && t.minute < 60 && t.second < 60 && t.microsecond < 1000000 &&
    t.ahead.natAbs < 86400000000

/-- The microseconds from the start of 1970, in universal time. -/
def DateTime.microseconds (t : DateTime) : Int :=
  let days := daysFromDate t.year t.month t.day
  let minutes := days * 1440 + t.hour * 60 + t.minute
  (minutes * 60 + t.second) * 1000000 + t.microsecond - t.ahead

/-- The universal time that lies so many whole seconds, and microseconds, after the start of
1970. -/
def DateTime.ofSeconds (seconds : Int) (microsecond : Nat) : DateTime :=
  let days := seconds.fdiv 86400
  let rest := (seconds - days * 86400).toNat
  let (year, month, day) := dateFromDays days
  { year, month, day
    hour := rest / 3600
    minute := rest / 60 % 60
    second := rest % 60
    microsecond
    offset := some 0 }

end ObjectChannel.Time

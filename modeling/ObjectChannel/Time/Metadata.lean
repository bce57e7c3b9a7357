/-
Times that travel with an object. A store keeps a time of its own that cannot be set, so the times
that callers give are written into the object's metadata, as milliseconds from the start of 1970.
-/
import ObjectChannel.Object
import ObjectChannel.Text.Integer
import ObjectChannel.Time.Calendar
import ObjectChannel.Double

namespace ObjectChannel.Time

def lastModifiedKey : String := "s3channels-last-modified"
def lastAccessKey : String := "s3channels-last-access"
def createTimeKey : String := "s3channels-create-time"

/-- The times that a caller gives or that are read. -/
structure Times where
  lastModified : Option DateTime := none
  lastAccess : Option DateTime := none
  createTime : Option DateTime := none
  deriving DecidableEq, Inhabited

/-- The milliseconds of a time: its seconds as one number, times a thousand, cut off at the point.
The rounding of both steps shows where the time has a fraction of a second. -/
def milliseconds (t : DateTime) : Int :=
  match (Double.ofQuotient? t.microseconds 1000000).bind (·.times? 1000) with
  | some x => x.truncate
  | none => 0

/-- Sets the given times in the metadata. -/
def setTimes (m : Metadata) (times : Times) : Metadata :=
  let set (key : String) (t : Option DateTime) (m : Metadata) : Metadata :=
    match t with
    | some t => m.insert key (toString (milliseconds t))
    | none => m
  set createTimeKey times.createTime
    (set lastAccessKey times.lastAccess (set lastModifiedKey times.lastModified m))

/-- Why a stored time cannot be read. -/
inductive ClockFault where
  /-- More seconds than the clock can count. -/
  | seconds
  /-- A year beyond the calendar of the clock. -/
  | year
  deriving DecidableEq, Inhabited

/-- The whole seconds and the microseconds of a number of seconds. Microseconds are rounded, and
are never negative. -/
def splitSeconds (t : Double) : Int × Nat :=
  let micros := match t.fraction.times? 1000000 with
    | some x => x.round
    | none => 0
  if 1000000 ≤ micros then (t.truncate + 1, (micros - 1000000).toNat)
  else if micros < 0 then (t.truncate - 1, (micros + 1000000).toNat)
  else (t.truncate, micros.toNat)

/-- What differs between the clocks that times are read on. -/
structure Clock where
  /-- Whether 2^63 seconds count. No signed word holds them, but as a rounded number the largest word is no
  less than they are. -/
  countsEnd : Bool
  deriving DecidableEq, Inhabited

/-- A clock that counts the seconds of a signed word and no more. -/
def Clock.ofWords : Clock := { countsEnd := false }

/-- The seconds that no signed word holds any more, which are 2^63. -/
def endOfSeconds : Nat := 9223372036854775808

/-- Whether so many seconds can be counted: those of a signed word can. -/
def Clock.counts (clock : Clock) (seconds : Int) : Bool :=
  -endOfSeconds ≤ seconds && seconds < endOfSeconds || clock.countsEnd && seconds == endOfSeconds

/-- The years that the clock's calendar has. -/
def clockYears (year : Int) : Bool := -2147481748 ≤ year && year ≤ 2147485547

/-- The time with the given milliseconds; `none` where the year is not one of 1 to 9999. -/
def ofMilliseconds (clock : Clock) (k : Int) : Except ClockFault (Option DateTime) :=
  match Double.ofQuotient? k 1000 with
  | none => .error .seconds
  | some t =>
    let (seconds, micros) := splitSeconds t
    if !clock.counts seconds then .error .seconds
    else
      let time := DateTime.ofSeconds seconds micros
      if !clockYears time.year then .error .year
      else if time.year < 1 ∨ 9999 < time.year then .ok none
      else .ok (some time)

/-- The time in a metadata entry; a missing entry and one that is no number hold none. -/
def readTime (clock : Clock) (entry : Option String) : Except ClockFault (Option DateTime) :=
  match entry.bind Text.integer? with
  | none => .ok none
  | some k => ofMilliseconds clock k

/-- The times in the metadata. -/
def readTimes (clock : Clock) (m : Metadata) : Except ClockFault Times := do
  let lastModified ← readTime clock (m.get? lastModifiedKey)
  let lastAccess ← readTime clock (m.get? lastAccessKey)
  let createTime ← readTime clock (m.get? createTimeKey)
  return { lastModified, lastAccess, createTime }

end ObjectChannel.Time

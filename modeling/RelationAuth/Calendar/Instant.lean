import RelationAuth.Calendar.Date

/-!
# Instants

An instant is a number of whole seconds since the first of January 1970 and the nanoseconds beyond
them.  A leap second shares its number with the second before it and has a billion or more
nanoseconds.  Only the years that the calendar represents have instants, and adding a span of time
can lead out of them.
-/

namespace RelationAuth

/-- A point in time. -/
structure Instant where
  /-- Whole seconds since the first of January 1970. -/
  seconds : Int
  /-- Nanoseconds beyond the whole seconds; a billion or more in a leap second. -/
  nanos : Nat
  deriving DecidableEq, Repr, Inhabited

namespace Instant

/-- The number of nanoseconds in a second. -/
def nanosPerSecond : Nat := 1000000000

/-- The number of seconds in a day. -/
def secondsPerDay : Int := 86400

/-- The first second that the calendar represents. -/
def firstSecond : Int := ({ year := Date.firstYear, month := 1, day := 1 } : Date).toDays * 86400

/-- The last second that the calendar represents. -/
def lastSecond : Int :=
  ({ year := Date.lastYear, month := 12, day := 31 } : Date).toDays * 86400 + 86399

/-- Whether a second lies within the years that the calendar represents. -/
def represents (second : Int) : Bool :=
  firstSecond ≤ second && second ≤ lastSecond

/-- The instant at a whole second, if the calendar represents it. -/
def ofSeconds? (seconds : Int) : Option Instant :=
  if represents seconds then some { seconds, nanos := 0 } else none

/-- Whether an instant comes before another one. -/
def before (earlier later : Instant) : Bool :=
  earlier.seconds < later.seconds ||
    (earlier.seconds == later.seconds && earlier.nanos < later.nanos)

/-- The order of instants. -/
def compare (left right : Instant) : Ordering :=
  (Ord.compare left.seconds right.seconds).then (Ord.compare left.nanos right.nanos)

/-- An instant a number of whole seconds later, if the calendar represents it.  A step out of a leap
second counts on from the second that follows it. -/
def add? (instant : Instant) (span : Nat) : Option Instant :=
  let nanos :=
    if span > 0 ∧ instant.nanos ≥ nanosPerSecond then instant.nanos - nanosPerSecond
    else instant.nanos
  let seconds := instant.seconds + span
  if represents seconds then some { seconds, nanos } else none

end Instant

end RelationAuth

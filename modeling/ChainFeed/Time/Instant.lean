import ChainFeed.Time.Calendar

/-!
# Instants

A point in time, to the nanosecond, in seconds of days that all have 86400 of them. A leap second
has no number of its own: it is the second before it with a fraction of one second or more.

Instants are limited to the years from -262143 to 262142.
-/

namespace ChainFeed

/-- A point in time. -/
structure Instant where
  /-- Seconds from the start of 1970. -/
  seconds : Int
  /-- Nanoseconds into the second; from one thousand million on, into the leap second behind it. -/
  nanos : Nat
  deriving DecidableEq, Repr

namespace Instant

/-- The first second there is, the start of the year -262143. -/
def firstSecond : Int :=
  Date.toDays ⟨-262143, 1, 1⟩ * 86400

/-- The last second there is, the end of the year 262142. -/
def lastSecond : Int :=
  Date.toDays ⟨262143, 1, 1⟩ * 86400 - 1

/-- Whether an instant lies within the limits. -/
def inRange (t : Instant) : Bool :=
  firstSecond ≤ t.seconds && t.seconds ≤ lastSecond

/-- The order of instants. -/
def before (s t : Instant) : Bool :=
  s.seconds < t.seconds || (s.seconds = t.seconds && s.nanos < t.nanos)

/-- The instant a number of whole seconds earlier, if there is one. Going back from within a leap
second counts from its end. -/
def earlier? (t : Instant) (seconds : Nat) : Option Instant :=
  let moved : Instant :=
    if 1000000000 ≤ t.nanos && 0 < seconds then
      ⟨t.seconds + 1 - seconds, t.nanos - 1000000000⟩
    else ⟨t.seconds - seconds, t.nanos⟩
  if moved.inRange then some moved else none

end Instant

end ChainFeed

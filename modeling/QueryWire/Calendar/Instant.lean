/-
  Instants: seconds since 1970-01-01T00:00:00Z, which may be negative, and
  nanoseconds.  In a leap second the nanoseconds go on from 1 000 000 000, so
  that it belongs to the second before it; an instant may go on like this from
  any second, not only from the last one of a minute.
-/
import QueryWire.Calendar.Date

namespace QueryWire.Calendar

def nanosPerSecond : Nat := 1000000000

def secondsPerDay : Nat := 86400

/-- Seconds and nanoseconds of an instant within the years of the calendar. -/
structure IsInstant (seconds : Int) (nanos : Nat) : Prop where
  first_le : dayNumber firstYear 1 1 * secondsPerDay ≤ seconds
  lt_end : seconds < dayNumber (lastYear + 1) 1 1 * secondsPerDay
  nanos_lt : nanos < 2 * nanosPerSecond

instance (seconds : Int) (nanos : Nat) : Decidable (IsInstant seconds nanos) :=
  decidable_of_iff
    (dayNumber firstYear 1 1 * secondsPerDay ≤ seconds ∧
      seconds < dayNumber (lastYear + 1) 1 1 * secondsPerDay ∧
      nanos < 2 * nanosPerSecond)
    ⟨fun ⟨a, b, c⟩ => ⟨a, b, c⟩, fun ⟨a, b, c⟩ => ⟨a, b, c⟩⟩

structure Instant where
  seconds : Int
  nanos : Nat
  valid : IsInstant seconds nanos
deriving DecidableEq

namespace Instant

def ofParts? (seconds : Int) (nanos : Nat) : Option Instant :=
  if h : IsInstant seconds nanos then some ⟨seconds, nanos, h⟩ else none

/-- The day number. -/
def day (t : Instant) : Int :=
  t.seconds / secondsPerDay

/-- The second of the day. -/
def secondOfDay (t : Instant) : Nat :=
  (t.seconds % secondsPerDay).toNat

/-- The year in which the instant lies. -/
def year (t : Instant) : Int :=
  (civil t.day).1

end Instant

end QueryWire.Calendar

/-
  Dates of the proleptic Gregorian calendar, year zero included.

  A date has a day number, counted from 1970-01-01; `civil` finds the date of a
  day number by guessing the year from the mean length of a year and mending
  the guess by at most one.
-/
namespace QueryWire.Calendar

def isLeapYear (year : Int) : Bool :=
  decide (year % 4 = 0 ∧ (year % 100 ≠ 0 ∨ year % 400 = 0))

/-- The lengths of the months of a year. -/
def monthLengths (year : Int) : List Nat :=
  [31, if isLeapYear year then 29 else 28, 31, 30, 31, 30, 31, 31, 30, 31, 30, 31]

def firstYear : Int := -262143

def lastYear : Int := 262142

/-- Year, month and day of a day that exists. -/
structure IsDate (year : Int) (month day : Nat) : Prop where
  year_bounds : firstYear ≤ year ∧ year ≤ lastYear
  month_bounds : 1 ≤ month ∧ month ≤ 12
  day_bounds : 1 ≤ day ∧ day ≤ (monthLengths year).getD (month - 1) 0

instance (year : Int) (month day : Nat) : Decidable (IsDate year month day) :=
  decidable_of_iff
    ((firstYear ≤ year ∧ year ≤ lastYear) ∧ (1 ≤ month ∧ month ≤ 12) ∧
      1 ≤ day ∧ day ≤ (monthLengths year).getD (month - 1) 0)
    ⟨fun ⟨y, m, d⟩ => ⟨y, m, d⟩, fun ⟨y, m, d⟩ => ⟨y, m, d⟩⟩

structure Date where
  year : Int
  month : Nat
  day : Nat
  valid : IsDate year month day
deriving DecidableEq

def Date.ofParts? (year : Int) (month day : Nat) : Option Date :=
  if h : IsDate year month day then some ⟨year, month, day, h⟩ else none

/-! ## Day numbers -/

/-- The days from 0001-01-01 to the first day of a year. -/
def daysBeforeYear (year : Int) : Int :=
  365 * (year - 1) + (year - 1) / 4 - (year - 1) / 100 + (year - 1) / 400

/-- The days from 0001-01-01 to 1970-01-01. -/
def epochDay : Int := 719162

/-- The days of a year before the first day of a month. -/
def daysBeforeMonth (year : Int) (month : Nat) : Nat :=
  ((monthLengths year).take (month - 1)).foldl (· + ·) 0

/-- The day number of a date given by its parts. -/
def dayNumber (year : Int) (month day : Nat) : Int :=
  daysBeforeYear year + daysBeforeMonth year month + (day - 1) - epochDay

/-- The year with the given day, counted from 0001-01-01. -/
def yearOfDay (n : Int) : Int :=
  let guess := n * 400 / 146097 + 1
  if n < daysBeforeYear guess then guess - 1
  else if daysBeforeYear (guess + 1) ≤ n then guess + 1
  else guess

/-- Month and day of the month for a day counted within months of the given lengths. -/
def monthAndDay (month : Nat) : List Nat → Nat → Nat × Nat
  | [], n => (month, n + 1)
  | length :: rest, n =>
    if n < length then (month, n + 1) else monthAndDay (month + 1) rest (n - length)

/-- Year, month and day of a day number. -/
def civil (n : Int) : Int × Nat × Nat :=
  let day := n + epochDay
  let year := yearOfDay day
  (year, monthAndDay 1 (monthLengths year) (day - daysBeforeYear year).toNat)

theorem yearOfDay_bounds (n : Int) :
    daysBeforeYear (yearOfDay n) ≤ n ∧ n < daysBeforeYear (yearOfDay n + 1) := by
  unfold yearOfDay daysBeforeYear
  dsimp only
  split
  · omega
  · split <;> omega

end QueryWire.Calendar

/-
  Instants as `YYYY-MM-DDTHH:MM:SS`, a fraction and an offset from UTC.

  The written form is in UTC with `Z` and a fraction of 0, 3, 6 or 9 digits, the
  fewest that are exact; nanoseconds beyond a second are written as the next
  second, which is second 60 at the end of a minute.  The reader
  takes any offset below a day, any number of fraction digits, of which those
  after the ninth do not count, and second 60 in every minute.
-/
import QueryWire.Calendar.Instant
import QueryWire.Calendar.DateText

namespace QueryWire.Calendar

open Text (Numeral.padded Numeral.value)

/-! ## Writing -/

/-- The fraction of a second with its point. -/
def fractionChars (nanos : Nat) : List Char :=
  if nanos = 0 then []
  else if nanos % 1000000 = 0 then '.' :: Numeral.padded 3 (nanos / 1000000)
  else if nanos % 1000 = 0 then '.' :: Numeral.padded 6 (nanos / 1000)
  else '.' :: Numeral.padded 9 nanos

/-- The time of a second of the day. -/
def timeChars (secondOfDay nanos : Nat) : List Char :=
  Numeral.padded 2 (secondOfDay / 3600) ++ ':' :: Numeral.padded 2 (secondOfDay / 60 % 60) ++
    ':' :: Numeral.padded 2 (secondOfDay % 60 + nanos / nanosPerSecond) ++
    fractionChars (nanos % nanosPerSecond)

def Instant.chars (t : Instant) : List Char :=
  let (year, month, day) := civil t.day
  dayChars year month day ++ 'T' :: timeChars t.secondOfDay t.nanos ++ ['Z']

def Instant.text (t : Instant) : String :=
  String.ofList t.chars

/-! ## Reading -/

/-- Exactly `n` digits, and what is left. -/
def exactDigits? (n : Nat) (cs : List Char) : Option (Nat × List Char) :=
  let run := cs.take n
  if run.length = n ∧ run.all Char.isDigit then some (Numeral.value run, cs.drop n) else none

def colon? : List Char → Option (List Char)
  | ':' :: cs => some cs
  | _ => none

/-- The mark between date and time. -/
def timeMark? : List Char → Option (List Char)
  | c :: cs => if c = 'T' ∨ c = 't' ∨ c = ' ' then some cs else none
  | [] => none

/-- The nanoseconds of a fraction, if one follows; its digits after the ninth are dropped. -/
def fraction? : List Char → Option (Nat × List Char)
  | '.' :: cs =>
    let run := cs.takeWhile Char.isDigit
    if run.isEmpty then none
    else
      let kept := run.take 9
      some (Numeral.value kept * Nat.pow 10 (9 - kept.length), cs.dropWhile Char.isDigit)
  | cs => some (0, cs)

/-- Hours and minutes of an offset, in seconds. -/
def offsetTime? (cs : List Char) : Option (Int × List Char) := do
  let (hours, cs) ← exactDigits? 2 cs
  let cs ← colon? cs
  let (minutes, cs) ← exactDigits? 2 cs
  if hours ≤ 23 ∧ minutes ≤ 59 then some (((hours * 60 + minutes) * 60 : Nat), cs) else none

/-- An offset from UTC, in seconds; the minus sign U+2212 is taken as well. -/
def offset? : List Char → Option (Int × List Char)
  | c :: cs =>
    if c = 'Z' ∨ c = 'z' then some (0, cs)
    else if c = '+' then offsetTime? cs
    else if c = '-' ∨ c.toNat = 0x2212 then
      (offsetTime? cs).map (fun (seconds, left) => (-seconds, left))
    else none
  | [] => none

/-- The second of a day, and the nanoseconds that a second 60 adds. -/
def clock? (hour minute second : Nat) : Option (Nat × Nat) :=
  if hour ≤ 23 ∧ minute ≤ 59 ∧ second ≤ 60 then
    if second = 60 then some ((hour * 60 + minute) * 60 + 59, nanosPerSecond)
    else some ((hour * 60 + minute) * 60 + second, 0)
  else none

def Instant.ofChars? (cs : List Char) : Option Instant := do
  let (year, cs) ← exactDigits? 4 cs
  let cs ← hyphen? cs
  let (month, cs) ← exactDigits? 2 cs
  let cs ← hyphen? cs
  let (day, cs) ← exactDigits? 2 cs
  let cs ← timeMark? cs
  let (hour, cs) ← exactDigits? 2 cs
  let cs ← colon? cs
  let (minute, cs) ← exactDigits? 2 cs
  let cs ← colon? cs
  let (second, cs) ← exactDigits? 2 cs
  let (nanos, cs) ← fraction? cs
  let (offset, cs) ← offset? cs
  let (secondOfDay, leap) ← clock? hour minute second
  let date ← Date.ofParts? year month day
  if cs.isEmpty then
    Instant.ofParts?
      (dayNumber date.year date.month date.day * secondsPerDay + secondOfDay - offset)
      (leap + nanos)
  else none

def Instant.ofText? (text : String) : Option Instant :=
  Instant.ofChars? text.toList

end QueryWire.Calendar

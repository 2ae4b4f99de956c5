/-
  Dates as `YYYY-MM-DD`.

  Years from 0 to 9999 have four digits, others a sign and at least four.  The
  reader takes more than that: blanks before a number, fewer digits, and a
  signed year of any length.
-/
import QueryWire.Calendar.Date
import QueryWire.Text.Blank
import QueryWire.Text.Numeral

namespace QueryWire.Calendar

open Text (Numeral.padded Numeral.value)

/-! ## Writing -/

def yearChars (year : Int) : List Char :=
  if 0 ≤ year ∧ year ≤ 9999 then Numeral.padded 4 year.natAbs
  else (if year < 0 then '-' else '+') :: Numeral.padded 4 year.natAbs

def dayChars (year : Int) (month day : Nat) : List Char :=
  yearChars year ++ '-' :: Numeral.padded 2 month ++ '-' :: Numeral.padded 2 day

def Date.chars (d : Date) : List Char :=
  dayChars d.year d.month d.day

def Date.text (d : Date) : String :=
  String.ofList d.chars

/-! ## Reading -/

/-- A run of at least one digit, and what is left. -/
def digits? (cs : List Char) : Option (Nat × List Char) :=
  let run := cs.takeWhile Char.isDigit
  if run.isEmpty then none else some (Numeral.value run, cs.dropWhile Char.isDigit)

/-- At least one and at most `limit` digits, and what is left. -/
def digitsUpTo? (limit : Nat) (cs : List Char) : Option (Nat × List Char) :=
  let run := (cs.take limit).takeWhile Char.isDigit
  if run.isEmpty then none else some (Numeral.value run, cs.drop run.length)

/-- A year with a sign and any number of digits, or with one to four digits. -/
def yearNumber? : List Char → Option (Int × List Char)
  | '-' :: cs => (digits? cs).map (fun (n, left) => (-(n : Int), left))
  | '+' :: cs => (digits? cs).map (fun (n, left) => ((n : Int), left))
  | cs => (digitsUpTo? 4 cs).map (fun (n, left) => ((n : Int), left))

def hyphen? : List Char → Option (List Char)
  | '-' :: cs => some cs
  | _ => none

def Date.ofChars? (cs : List Char) : Option Date := do
  let (year, cs) ← yearNumber? (Text.trimLeft cs)
  let cs ← hyphen? cs
  let (month, cs) ← digitsUpTo? 2 (Text.trimLeft cs)
  let cs ← hyphen? cs
  let (day, cs) ← digitsUpTo? 2 (Text.trimLeft cs)
  if cs.isEmpty then Date.ofParts? year month day else none

def Date.ofText? (text : String) : Option Date :=
  Date.ofChars? text.toList

end QueryWire.Calendar

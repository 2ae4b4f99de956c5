/-
  The numbers of JSON texts.

  A number without fraction and exponent is an integer as long as it fits into
  64 bits.  All else is a floating point number, made in two steps: digits are
  gathered into a significand of 64 bits as long as the next one fits, later
  digits only move the exponent or are dropped, and then the rounded
  significand is multiplied or divided by a rounded power of ten.  So the
  result may differ from the nearest number in its last places.
-/
import QueryWire.Json.Fault
import QueryWire.Json.Node

namespace QueryWire.Json

open Text.Numeral (digit?)

/-! ## Significand and exponent -/

/-- Takes digits as long as the significand fits into 64 bits; the digits taken
    are counted. -/
def gather (significand taken : Nat) : List Char → Nat × Nat × List Char
  | [] => (significand, taken, [])
  | c :: cs =>
    match digit? c with
    | none => (significand, taken, c :: cs)
    | some d =>
      if significand * 10 + d < UInt64.size then gather (significand * 10 + d) (taken + 1) cs
      else (significand, taken, c :: cs)

/-- Counts the digits in front and drops them. -/
def skipDigits (cs : List Char) : Nat × List Char :=
  ((cs.takeWhile Char.isDigit).length, cs.dropWhile Char.isDigit)

/-- The digits of an exponent; `none` right after the digit that exceeds 31 bits. -/
def exponentDigits (e : Nat) : List Char → Option Nat × List Char
  | [] => (some e, [])
  | c :: cs =>
    match digit? c with
    | none => (some e, c :: cs)
    | some d => if e * 10 + d < 0x80000000 then exponentDigits (e * 10 + d) cs else (none, cs)

/-! ## Scaling -/

/-- Divides `steps` times by `10 ^ 308`, or until nothing is left. -/
def scaleDown : (steps : Nat) → Binary64 → Binary64
  | 0, x => x
  | steps + 1, x =>
    if x.isZero then x else scaleDown steps (x.div (Binary64.powerOfTen 308))

/-- The significand times a power of ten; `none` beyond the largest number. -/
def scale (significand : Nat) (exponent : Int) : Option Binary64 :=
  let x := Binary64.ofNat significand
  let k := exponent.natAbs
  if 0 ≤ exponent then
    if k ≤ 308 then
      let y := x.mul (Binary64.powerOfTen k)
      if y.isInfinite then none else some y
    else if x.isZero then some x else none
  else
    let steps := (k - 1) / 308
    some ((scaleDown steps x).div (Binary64.powerOfTen (k - 308 * steps)))

/-- A floating point number that has to be finite. -/
def floatNumber (negative : Bool) (x : Option Binary64) (left : List Char) :
    Except Fault (Number × List Char) :=
  match x with
  | none => .error (.before .numberOutOfRange left)
  | some x =>
    let y := if negative then x.negate else x
    if h : y.isFinite = true then .ok (.float y h, left)
    else .error (.before .numberOutOfRange left)

/-! ## The parts of a number -/

/-- What follows `e` or `E`. -/
def exponentPart (negative : Bool) (significand : Nat) (start : Int) (cs : List Char) :
    Except Fault (Number × List Char) :=
  let (down, cs) := match cs with
    | '+' :: rest => (false, rest)
    | '-' :: rest => (true, rest)
    | _ => (false, cs)
  match cs with
  | [] => .error (.before .endInValue [])
  | c :: rest =>
    if c.isDigit then
      match exponentDigits 0 cs with
      | (some e, left) =>
        floatNumber negative (scale significand (if down then start - e else start + e)) left
      | (none, left) =>
        if significand ≠ 0 ∧ down = false then .error (.before .numberOutOfRange left)
        else floatNumber negative (some (.zero false)) (skipDigits left).2
    else .error (.atByte .invalidNumber (c :: rest))

/-- The end of a number with a fraction or with digits that did not fit. -/
def floatEnd (negative : Bool) (significand : Nat) (exponent : Int) :
    List Char → Except Fault (Number × List Char)
  | [] => floatNumber negative (scale significand exponent) []
  | c :: cs =>
    if c = 'e' ∨ c = 'E' then exponentPart negative significand exponent cs
    else floatNumber negative (scale significand exponent) (c :: cs)

/-- What follows the point, after `extra` digits that did not fit. -/
def fractionPart (negative : Bool) (significand extra : Nat) (cs : List Char) :
    Except Fault (Number × List Char) :=
  let (significand, taken, rest) := gather significand 0 cs
  let (dropped, left) := skipDigits rest
  if taken = 0 ∧ dropped = 0 then
    match left with
    | [] => .error (.before .endInValue [])
    | c :: cs => .error (.atByte .invalidNumber (c :: cs))
  else floatEnd negative significand ((extra : Int) - taken) left

/-- An integer of 64 bits if it is one; negative zero and smaller ones are floats. -/
def integerNumber (negative : Bool) (significand : Nat) (left : List Char) :
    Except Fault (Number × List Char) :=
  if negative then
    let n := Int64.ofInt (-(significand : Int))
    if h : n < 0 ∧ significand ≤ Number.int64End then .ok (.negative n h.1, left)
    else floatNumber true (some (.ofNat significand)) left
  else .ok (.natural (UInt64.ofNat significand), left)

/-- The digits before the point have been read, `extra` of them did not fit. -/
def afterWhole (negative : Bool) (significand extra : Nat) :
    List Char → Except Fault (Number × List Char)
  | [] =>
    if extra = 0 then integerNumber negative significand []
    else floatEnd negative significand extra []
  | c :: cs =>
    if c = '.' then fractionPart negative significand extra cs
    else if extra = 0 ∧ c ≠ 'e' ∧ c ≠ 'E' then integerNumber negative significand (c :: cs)
    else floatEnd negative significand extra (c :: cs)

/-- A number after its sign. -/
def unsignedNumber (negative : Bool) : Reader Number
  | [] => .error (.before .endInValue [])
  | c :: cs =>
    if c = '0' then
      match cs with
      | d :: rest =>
        if d.isDigit then .error (.atByte .invalidNumber (d :: rest))
        else afterWhole negative 0 0 (d :: rest)
      | [] => afterWhole negative 0 0 []
    else if c.isDigit then
      let (significand, _, rest) := gather 0 0 (c :: cs)
      let (extra, left) := skipDigits rest
      afterWhole negative significand extra left
    else .error (.atByte .invalidNumber (c :: cs))

/-- Whether a number can begin with this character. -/
def startsNumber (c : Char) : Bool :=
  c == '-' || c.isDigit

def number : Reader Number
  | '-' :: cs => unsignedNumber true cs
  | cs => unsignedNumber false cs

end QueryWire.Json

/-
  Skipping a value that nobody asks for.

  The grammar is that of a document, but only the shape of the text is looked
  at: any nesting, any size of a number and any pair of surrogates will do.
-/
import QueryWire.Json.Document

namespace QueryWire.Json

/-! ## Strings -/

/-- What follows a backslash. -/
def skipEscape : Reader Unit
  | [] => .error (.before .endInString [])
  | c :: cs =>
    if c = 'u' then (codeUnit cs).map (fun (_, left) => ((), left))
    else if (shortEscape? c).isSome then .ok ((), cs)
    else .error (.atByte .invalidEscape (c :: cs))

/-- The rest of a string of at most `limit` characters, with its closing mark. -/
def skipStringTail : (limit : Nat) → Reader Unit
  | 0, cs => .error (.before .endInString cs)
  | _ + 1, [] => .error (.before .endInString [])
  | limit + 1, c :: cs =>
    if c = '"' then .ok ((), cs)
    else if c = '\\' then
      match skipEscape cs with
      | .error fault => .error fault
      | .ok (_, rest) => skipStringTail limit rest
    else if c.toNat < 0x20 then .error (.atByte .controlCharacter (c :: cs))
    else skipStringTail limit cs

def skipString (cs : List Char) : Except Fault (Unit × List Char) :=
  skipStringTail (cs.length + 1) cs

/-! ## Numbers -/

/-- At least one digit and those behind it. -/
def skipSomeDigits : Reader Unit
  | [] => .error (.before .invalidNumber [])
  | c :: cs =>
    if c.isDigit then .ok ((), cs.dropWhile Char.isDigit)
    else .error (.atByte .invalidNumber (c :: cs))

/-- An exponent, if one follows. -/
def skipExponent : Reader Unit
  | [] => .ok ((), [])
  | c :: cs =>
    if c = 'e' ∨ c = 'E' then
      match cs with
      | '+' :: rest => skipSomeDigits rest
      | '-' :: rest => skipSomeDigits rest
      | _ => skipSomeDigits cs
    else .ok ((), c :: cs)

/-- A fraction and an exponent, if they follow. -/
def skipFraction : Reader Unit
  | '.' :: cs =>
    match skipSomeDigits cs with
    | .error fault => .error fault
    | .ok (_, left) => skipExponent left
  | cs => skipExponent cs

/-- A number after its sign. -/
def skipUnsigned : Reader Unit
  | [] => .error (.before .invalidNumber [])
  | c :: cs =>
    if c = '0' then
      match cs with
      | d :: rest =>
        if d.isDigit then .error (.atByte .invalidNumber (d :: rest)) else skipFraction (d :: rest)
      | [] => .ok ((), [])
    else if c.isDigit then skipFraction (cs.dropWhile Char.isDigit)
    else .error (.atByte .invalidNumber (c :: cs))

def skipNumber : Reader Unit
  | '-' :: cs => skipUnsigned cs
  | cs => skipUnsigned cs

/-! ## Values -/

/-- Skips a value whose brackets hold what `inner` skips. -/
def skipWith (inner : Reader Unit) (cs : List Char) : Except Fault (Unit × List Char) :=
  match skipBlanks cs with
  | [] => .error (.atByte .endInValue [])
  | c :: rest =>
    if c = 'n' then word ['u', 'l', 'l'] rest
    else if c = 't' then word ['r', 'u', 'e'] rest
    else if c = 'f' then word ['a', 'l', 's', 'e'] rest
    else if c = '"' then skipString rest
    else if startsNumber c then skipNumber (c :: rest)
    else if c = '[' then (items inner rest).map (fun (_, left) => ((), left))
    else if c = '\x7b' then
      (entries (entry inner skipString) rest).map (fun (_, left) => ((), left))
    else .error (.atByte .expectedValue (c :: rest))

/-- Skips a value with at most `opens` brackets open at the same time. -/
def skipNested : (opens : Nat) → Reader Unit
  | 0, cs => .error (.before .expectedValue cs)
  | opens + 1, cs => skipWith (skipNested opens) cs

/-- Skips a value; no text opens more brackets than it has characters. -/
def skipValue (cs : List Char) : Except Fault (Unit × List Char) :=
  skipNested (cs.length + 1) cs

end QueryWire.Json

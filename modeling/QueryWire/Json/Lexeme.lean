/-
  The words and strings of JSON texts.

  A string is read character by character: `escapeSequence` reads what follows
  a backslash, where a character outside the basic plane is written as two
  surrogates, and `stringTail` reads up to the closing quotation mark.
-/
import QueryWire.Json.Fault

namespace QueryWire.Json

open Text (Numeral.hexDigit?)

/-- The blanks between tokens. -/
def isBlank (c : Char) : Bool :=
  c == ' ' || c == '\t' || c == '\n' || c == '\r'

def skipBlanks (cs : List Char) : List Char :=
  cs.dropWhile isBlank

/-- Reads the given characters of a word such as `true`. -/
def word : List Char → Reader Unit
  | [], cs => .ok ((), cs)
  | _ :: _, [] => .error (.before .endInValue [])
  | e :: expected, c :: cs =>
    if c = e then word expected cs else .error (.atByte .expectedWord (c :: cs))

/-! ## Escapes -/

/-- The number written by four hexadecimal digits. -/
def fourHexDigits? : List Char → Option (Nat × List Char)
  | a :: b :: c :: d :: rest =>
    match Numeral.hexDigit? a, Numeral.hexDigit? b, Numeral.hexDigit? c, Numeral.hexDigit? d with
    | some a, some b, some c, some d => some (((a * 16 + b) * 16 + c) * 16 + d, rest)
    | _, _, _, _ => none
  | _ => none

/-- Four hexadecimal digits.  The four bytes are taken before they are looked at. -/
def codeUnit (cs : List Char) : Except Fault (Nat × List Char) :=
  match fourHexDigits? cs with
  | some found => .ok found
  | none =>
    if byteLength cs < 4 then .error ⟨.endInString, 0⟩
    else .error ⟨.invalidEscape, byteLength cs - 4⟩

def isLeadingSurrogate (unit : Nat) : Bool :=
  decide (0xD800 ≤ unit ∧ unit ≤ 0xDBFF)

def isTrailingSurrogate (unit : Nat) : Bool :=
  decide (0xDC00 ≤ unit ∧ unit ≤ 0xDFFF)

/-- The character that two surrogates stand for. -/
def surrogatePair (leading trailing : Nat) : Char :=
  Char.ofNat (0x10000 + (leading - 0xD800) * 0x400 + (trailing - 0xDC00))

/-- The second half of a surrogate pair, with its `\u`. -/
def trailingSurrogate (leading : Nat) : Reader Char
  | '\\' :: 'u' :: cs =>
    match codeUnit cs with
    | .error fault => .error fault
    | .ok (unit, rest) =>
      if isTrailingSurrogate unit then .ok (surrogatePair leading unit, rest)
      else .error (.before .loneSurrogate rest)
  | [] => .error (.before .endInString [])
  | ['\\'] => .error (.before .endInString [])
  | '\\' :: cs => .error (.atByte .brokenSurrogatePair cs)
  | cs => .error (.atByte .brokenSurrogatePair cs)

/-- What follows `\u`. -/
def unicodeEscape (cs : List Char) : Except Fault (Char × List Char) :=
  match codeUnit cs with
  | .error fault => .error fault
  | .ok (unit, rest) =>
    if isTrailingSurrogate unit then .error (.before .loneSurrogate rest)
    else if isLeadingSurrogate unit then trailingSurrogate unit rest
    else .ok (Char.ofNat unit, rest)

/-- The character for which a letter after a backslash stands. -/
def shortEscape? (c : Char) : Option Char :=
  if c = '"' ∨ c = '\\' ∨ c = '/' then some c
  else if c = 'b' then some (Char.ofNat 8)
  else if c = 'f' then some (Char.ofNat 12)
  else if c = 'n' then some '\n'
  else if c = 'r' then some '\r'
  else if c = 't' then some '\t'
  else none

/-- What follows a backslash. -/
def escapeSequence : Reader Char
  | [] => .error (.before .endInString [])
  | c :: cs =>
    if c = 'u' then unicodeEscape cs
    else match shortEscape? c with
      | some e => .ok (e, cs)
      | none => .error (.atByte .invalidEscape (c :: cs))

/-! ## Strings -/

/-- The rest of a string of at most `limit` characters, with its closing mark. -/
def stringTail : (limit : Nat) → Reader (List Char)
  | 0, cs => .error (.before .endInString cs)
  | _ + 1, [] => .error (.before .endInString [])
  | limit + 1, c :: cs =>
    if c = '"' then .ok ([], cs)
    else if c = '\\' then
      match escapeSequence cs with
      | .error fault => .error fault
      | .ok (e, rest) => (stringTail limit rest).map (fun (s, left) => (e :: s, left))
    else if c.toNat < 0x20 then .error (.atByte .controlCharacter (c :: cs))
    else (stringTail limit cs).map (fun (s, left) => (c :: s, left))

/-- A string after its opening mark. -/
def stringBody (cs : List Char) : Except Fault (String × List Char) :=
  (stringTail (cs.length + 1) cs).map (fun (s, left) => (String.ofList s, left))

end QueryWire.Json

/-
  Faults of JSON texts.

  A reader works on the characters that are left and reports a fault by its
  cause and by the count of bytes left after the place it concerns, so that a
  reader need not know where its input began.  `Fault.position` turns this into
  a line and a column of the whole text, and `Fault.message` into a sentence.
-/
import QueryWire.Text.Numeral

namespace QueryWire.Json

/-- What can be wrong with a text, apart from `mismatch`: there the text is in
    order as far as it was read, but does not hold what was asked for. -/
inductive Cause
  | endInValue
  | endInString
  | endInList
  | endInObject
  | expectedValue
  | expectedWord
  | expectedColon
  | expectedListSeparator
  | expectedObjectSeparator
  | invalidNumber
  | numberOutOfRange
  | controlCharacter
  | invalidEscape
  | loneSurrogate
  | brokenSurrogatePair
  | keyNotString
  | trailingComma
  | trailingCharacters
  | nestingTooDeep
  | mismatch
deriving DecidableEq

/-- Whether a text is malformed, ends early, or holds something else than asked for. -/
inductive Category
  | malformed
  | endsEarly
  | mismatch
deriving DecidableEq

namespace Cause

def text : Cause → String
  | .endInValue => "EOF while parsing a value"
  | .endInString => "EOF while parsing a string"
  | .endInList => "EOF while parsing a list"
  | .endInObject => "EOF while parsing an object"
  | .expectedValue => "expected value"
  | .expectedWord => "expected ident"
  | .expectedColon => "expected `:`"
  | .expectedListSeparator => "expected `,` or `]`"
  | .expectedObjectSeparator => "expected `,` or `\x7d`"
  | .invalidNumber => "invalid number"
  | .numberOutOfRange => "number out of range"
  | .controlCharacter => "control character (\\u0000-\\u001F) found while parsing a string"
  | .invalidEscape => "invalid escape"
  | .loneSurrogate => "lone leading surrogate in hex escape"
  | .brokenSurrogatePair => "unexpected end of hex escape"
  | .keyNotString => "key must be a string"
  | .trailingComma => "trailing comma"
  | .trailingCharacters => "trailing characters"
  | .nestingTooDeep => "recursion limit exceeded"
  | .mismatch => "mismatched data"

def category : Cause → Category
  | .endInValue | .endInString | .endInList | .endInObject => .endsEarly
  | .mismatch => .mismatch
  | _ => .malformed

end Cause

/-- The bytes of a text in UTF-8. -/
def byteLength : List Char → Nat
  | [] => 0
  | c :: cs => c.utf8Size + byteLength cs

structure Fault where
  cause : Cause
  /-- The bytes after the place of the fault. -/
  unread : Nat
deriving DecidableEq

namespace Fault

/-- A fault right before the characters that are left. -/
def before (cause : Cause) (left : List Char) : Fault :=
  ⟨cause, byteLength left⟩

/-- A fault at the next byte, which counts as read; at the end, at the end. -/
def atByte (cause : Cause) (left : List Char) : Fault :=
  ⟨cause, byteLength left - 1⟩

end Fault

/-- A line, from one, and the count of bytes before the place on that line. -/
structure Position where
  line : Nat
  column : Nat
deriving DecidableEq

namespace Position

/-- The position after the given number of bytes. -/
def after : Nat → List Char → Position → Position
  | _, [], p => p
  | n, c :: rest, p =>
    if n < c.utf8Size then ⟨p.line, p.column + n⟩
    else if c = '\n' then after (n - c.utf8Size) rest ⟨p.line + 1, 0⟩
    else after (n - c.utf8Size) rest ⟨p.line, p.column + c.utf8Size⟩

end Position

namespace Fault

def position (fault : Fault) (text : List Char) : Position :=
  Position.after (byteLength text - fault.unread) text ⟨1, 0⟩

/-- The cause and the position in the text that has the fault. -/
def message (fault : Fault) (text : String) : String :=
  let p := fault.position text.toList
  fault.cause.text ++ " at line " ++ String.ofList (Text.Numeral.ofNat p.line) ++
    " column " ++ String.ofList (Text.Numeral.ofNat p.column)

end Fault

/-- Reads from the front of a text and gives what is left. -/
abbrev Reader (α : Type) :=
  List Char → Except Fault (α × List Char)

end QueryWire.Json

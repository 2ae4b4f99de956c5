/-
  Percent-encoding of the parts of a URL.

  Each part has a set of ASCII characters that it writes as `%` and two
  hexadecimal digits for every byte; controls and characters beyond ASCII are
  written so in every part.
-/
import QueryWire.Text.Numeral

namespace QueryWire.Url

open Text (Numeral.hexDigit?)

/-! ## Sets of characters -/

def isControl (c : Char) : Bool :=
  decide (c.toNat < 0x20 ∨ 0x7E < c.toNat)

def inFragmentSet (c : Char) : Bool :=
  isControl c || c == ' ' || c == '"' || c == '<' || c == '>' || c.toNat == 0x60

def inPathSet (c : Char) : Bool :=
  inFragmentSet c || c == '#' || c == '?' || c == '\x7b' || c == '\x7d'

def inUserSet (c : Char) : Bool :=
  inPathSet c || c == '/' || c == ':' || c == ';' || c == '=' || c == '@' || c == '[' ||
    c == '\\' || c == ']' || c == '^' || c == '|'

def inQuerySet (c : Char) : Bool :=
  isControl c || c == ' ' || c == '"' || c == '#' || c == '<' || c == '>'

/-- The query of a URL of a special scheme writes the apostrophe so, too. -/
def inSpecialQuerySet (c : Char) : Bool :=
  inQuerySet c || c.toNat == 0x27

/-! ## Encoding and decoding -/

def hexDigitUpper (n : Nat) : Char :=
  if n < 10 then Char.ofNat (48 + n) else Char.ofNat (55 + n)

def percentByte (b : UInt8) : List Char :=
  ['%', hexDigitUpper (b.toNat / 16), hexDigitUpper (b.toNat % 16)]

/-- Writes the characters of a set byte by byte. -/
def percentEncode (inSet : Char → Bool) (cs : List Char) : List Char :=
  cs.flatMap (fun c => if inSet c then (String.utf8EncodeChar c).flatMap percentByte else [c])

/-- The bytes of a text in which `%` and two hexadecimal digits stand for a byte. -/
def percentDecode : List Char → List UInt8
  | [] => []
  | [c] => String.utf8EncodeChar c
  | [c, d] => String.utf8EncodeChar c ++ String.utf8EncodeChar d
  | c :: d :: e :: rest =>
    if c = '%' then
      match Numeral.hexDigit? d, Numeral.hexDigit? e with
      | some d, some e => UInt8.ofNat (d * 16 + e) :: percentDecode rest
      | _, _ => String.utf8EncodeChar c ++ percentDecode (d :: e :: rest)
    else String.utf8EncodeChar c ++ percentDecode (d :: e :: rest)

end QueryWire.Url

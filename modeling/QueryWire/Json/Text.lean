/-
  The compact text of a JSON tree: no blanks, entries in their order, numbers
  of 64 bits in full, floating point numbers by `Decimal.text`.  In strings the
  quotation mark, the backslash and the controls below U+0020 are escaped, all
  else is written as it is.
-/
import QueryWire.Json.Node
import QueryWire.Decimal.Layout

namespace QueryWire.Json

/-- The escaped form of one character of a string. -/
def escapedChar (c : Char) : List Char :=
  if c = '"' then ['\\', '"']
  else if c = '\\' then ['\\', '\\']
  else if c = '\n' then ['\\', 'n']
  else if c = '\r' then ['\\', 'r']
  else if c = '\t' then ['\\', 't']
  else if c.toNat = 8 then ['\\', 'b']
  else if c.toNat = 12 then ['\\', 'f']
  else if c.toNat < 0x20 then
    ['\\', 'u', '0', '0', Nat.digitChar (c.toNat / 16), Nat.digitChar (c.toNat % 16)]
  else [c]

def stringChars (s : String) : List Char :=
  '"' :: (s.toList.flatMap escapedChar ++ ['"'])

def Number.chars : Number → List Char
  | .natural n => Text.Numeral.ofNat n.toNat
  | .negative n _ => Text.Numeral.ofInt n.toInt
  | .float x _ => Decimal.text .json x

namespace Node

mutual
def chars : Node → List Char
  | .null => ['n', 'u', 'l', 'l']
  | .bool true => ['t', 'r', 'u', 'e']
  | .bool false => ['f', 'a', 'l', 's', 'e']
  | .number n => n.chars
  | .string s => stringChars s
  | .array [] => ['[', ']']
  | .array (node :: rest) => '[' :: (chars node ++ itemChars rest)
  | .object [] => ['\x7b', '\x7d']
  | .object ((key, node) :: rest) =>
    '\x7b' :: (stringChars key ++ ':' :: (chars node ++ entryChars rest))

/-- The items after the first one, each behind its comma, and the closing bracket. -/
def itemChars : List Node → List Char
  | [] => [']']
  | node :: rest => ',' :: (chars node ++ itemChars rest)

/-- The entries after the first one, each behind its comma, and the closing brace. -/
def entryChars : List (String × Node) → List Char
  | [] => ['\x7d']
  | (key, node) :: rest => ',' :: (stringChars key ++ ':' :: (chars node ++ entryChars rest))
end

def text (node : Node) : String :=
  String.ofList node.chars

end Node

end QueryWire.Json

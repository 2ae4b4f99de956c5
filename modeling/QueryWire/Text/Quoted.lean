/-
  Quoted diagnostics: a text between quotation marks that stays on one line of
  a log.  The quotation mark, the backslash and the common controls have a
  short form, every other unprintable character is written by its code point
  in hexadecimal, and all else stands for itself.
-/
import QueryWire.Text.Unprintable

namespace QueryWire.Text

/-- The form of one character inside quotation marks. -/
def quotedChar (c : Char) : List Char :=
  if c = '"' then ['\\', '"']
  else if c = '\\' then ['\\', '\\']
  else if c = '\n' then ['\\', 'n']
  else if c = '\r' then ['\\', 'r']
  else if c = '\t' then ['\\', 't']
  else if c.toNat = 0 then ['\\', '0']
  else if isUnprintable c then ['\\', 'u', '\x7b'] ++ Nat.toDigits 16 c.toNat ++ ['\x7d']
  else [c]

def quoted (text : String) : String :=
  String.ofList ('"' :: text.toList.flatMap quotedChar ++ ['"'])

end QueryWire.Text

/-
  Reading JSON documents.

  `value opens` reads one value in which `opens` brackets may be open at the
  same time: the recursion is on that number, and the items of one list are
  read by a loop over a reader of items.  `document` reads a whole text, with
  at most 127 open brackets.
-/
import QueryWire.Json.Lexeme
import QueryWire.Json.Numeral

namespace QueryWire.Json

/-- The brackets that may be open at the same time. -/
def nestingLimit : Nat := 127

/-! ## Lists and objects over a reader of their parts -/

inductive Brackets
  | list
  | object

namespace Brackets

def closing : Brackets → Char
  | .list => ']'
  | .object => '\x7d'

def endCause : Brackets → Cause
  | .list => .endInList
  | .object => .endInObject

def separatorCause : Brackets → Cause
  | .list => .expectedListSeparator
  | .object => .expectedObjectSeparator

end Brackets

section

variable {α : Type} (brackets : Brackets) (item : Reader α)

/-- What follows an item: the end, or a comma and more items, at most `limit` of them. -/
def moreItems : (limit : Nat) → Reader (List α)
  | 0, cs => .error (.before brackets.endCause cs)
  | limit + 1, cs =>
    match skipBlanks cs with
    | [] => .error (.atByte brackets.endCause [])
    | c :: rest =>
      if c = brackets.closing then .ok ([], rest)
      else if c = ',' then
        if (skipBlanks rest).head? = some brackets.closing then
          .error (.atByte .trailingComma (skipBlanks rest))
        else
          match item (skipBlanks rest) with
          | .error fault => .error fault
          | .ok (x, left) => (moreItems limit left).map (fun (xs, left) => (x :: xs, left))
      else .error (.atByte brackets.separatorCause (c :: rest))

/-- The items after an opening bracket. -/
def bracketed (cs : List Char) : Except Fault (List α × List Char) :=
  match skipBlanks cs with
  | [] => .error (.atByte brackets.endCause [])
  | c :: rest =>
    if c = brackets.closing then .ok ([], rest)
    else
      match item (c :: rest) with
      | .error fault => .error fault
      | .ok (x, left) =>
        (moreItems brackets item (left.length + 1) left).map (fun (xs, left) => (x :: xs, left))

end

section

variable {α : Type} (item : Reader α)

/-- A list after its opening bracket. -/
def items : Reader (List α) :=
  bracketed .list item

/-- An object after its opening brace, over a reader of entries. -/
def entries : Reader (List α) :=
  bracketed .object item

/-- The colon between a key and its value. -/
def colon (cs : List Char) : Except Fault (Unit × List Char) :=
  match skipBlanks cs with
  | [] => .error (.atByte .endInObject [])
  | ':' :: rest => .ok ((), rest)
  | left => .error (.atByte .expectedColon left)

/-- A key, a colon and an item; `key` reads a string after its opening mark. -/
def entry {κ : Type} (key : Reader κ) : Reader (κ × α)
  | '"' :: cs =>
    match key cs with
    | .error fault => .error fault
    | .ok (k, left) =>
      match colon left with
      | .error fault => .error fault
      | .ok (_, left) => (item left).map (fun (x, left) => ((k, x), left))
  | [] => .error (.atByte .endInValue [])
  | cs => .error (.atByte .keyNotString cs)

end

/-! ## Values -/

/-- A value whose brackets, if it may open one, hold what `inner` reads. -/
def valueWith (inner : Option (Reader Node)) (cs : List Char) :
    Except Fault (Node × List Char) :=
  match skipBlanks cs with
  | [] => .error (.atByte .endInValue [])
  | c :: rest =>
    if c = 'n' then (word ['u', 'l', 'l'] rest).map (fun (_, left) => (.null, left))
    else if c = 't' then (word ['r', 'u', 'e'] rest).map (fun (_, left) => (.bool true, left))
    else if c = 'f' then
      (word ['a', 'l', 's', 'e'] rest).map (fun (_, left) => (.bool false, left))
    else if c = '"' then (stringBody rest).map (fun (s, left) => (.string s, left))
    else if startsNumber c then (number (c :: rest)).map (fun (n, left) => (.number n, left))
    else if c = '[' ∨ c = '\x7b' then
      match inner with
      | none => .error (.atByte .nestingTooDeep (c :: rest))
      | some inner =>
        if c = '[' then (items inner rest).map (fun (xs, left) => (.array xs, left))
        else (entries (entry inner stringBody) rest).map (fun (xs, left) => (.object (Fields.ofPairs xs), left))
    else .error (.atByte .expectedValue (c :: rest))

/-- A value in which at most `opens` brackets are open at the same time. -/
def value : (opens : Nat) → Reader Node
  | 0, cs => valueWith none cs
  | opens + 1, cs => valueWith (some (value opens)) cs

/-- Nothing but blanks. -/
def finish (cs : List Char) : Except Fault Unit :=
  match skipBlanks cs with
  | [] => .ok ()
  | left => .error (.atByte .trailingCharacters left)

/-- Everything that `read` reads, with only blanks after it. -/
def whole {α : Type} (read : Reader α) (cs : List Char) : Except Fault α :=
  match read cs with
  | .error fault => .error fault
  | .ok (x, left) => (finish left).map (fun _ => x)

/-- The tree of a text. -/
def document (text : String) : Except Fault Node :=
  whole (value nestingLimit) text.toList

end QueryWire.Json

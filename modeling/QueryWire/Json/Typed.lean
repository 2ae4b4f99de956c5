/-
  Reading a text straight into data of a known shape.

  Where a value is of the wrong kind, a scalar is read to its end first, so that
  a text that is malformed is reported as such.  A record is an object whose
  known keys stand once and whose other keys are skipped, or a list of the
  slots in their order, of which the optional ones may be missing at the end.
-/
import QueryWire.Json.Skip

namespace QueryWire.Json

/-- The fault of a value of the wrong kind. -/
def wrongKind (cs : List Char) : Fault :=
  match skipBlanks cs with
  | [] => .atByte .endInValue []
  | c :: rest =>
    if c = '[' ∨ c = '\x7b' then .before .mismatch (c :: rest)
    else match valueWith none (c :: rest) with
      | .error fault => fault
      | .ok (_, left) => .before .mismatch left

def typedString (cs : List Char) : Except Fault (String × List Char) :=
  match skipBlanks cs with
  | '"' :: rest => stringBody rest
  | left => .error (wrongKind left)

def typedBool (cs : List Char) : Except Fault (Bool × List Char) :=
  match skipBlanks cs with
  | 't' :: rest => (word ['r', 'u', 'e'] rest).map (fun (_, left) => (true, left))
  | 'f' :: rest => (word ['a', 'l', 's', 'e'] rest).map (fun (_, left) => (false, left))
  | left => .error (wrongKind left)

def typedList {α : Type} (item : Reader α) (cs : List Char) :
    Except Fault (List α × List Char) :=
  match skipBlanks cs with
  | '[' :: rest => items item rest
  | left => .error (wrongKind left)

/-! ## Records -/

/-- A slot of a record that is filled in while the text is read. -/
structure Slot (δ : Type) where
  key : String
  required : Bool
  isFilled : δ → Bool
  fill : δ → Reader δ

section

variable {δ : Type} (slots : List (Slot δ))

/-- A key and its value, after the opening mark of the key. -/
def member (draft : δ) (cs : List Char) : Except Fault (δ × List Char) :=
  match stringBody cs with
  | .error fault => .error fault
  | .ok (key, left) =>
    match slots.find? (fun slot => slot.key == key) with
    | none =>
      match colon left with
      | .error fault => .error fault
      | .ok (_, left) => (skipValue left).map (fun (_, left) => (draft, left))
    | some slot =>
      if slot.isFilled draft then .error (.before .mismatch left)
      else match colon left with
        | .error fault => .error fault
        | .ok (_, left) => slot.fill draft left

/-- What follows a member: the end, or a comma and more members. -/
def moreMembers : (limit : Nat) → δ → Reader δ
  | 0, _, cs => .error (.before .endInObject cs)
  | limit + 1, draft, cs =>
    match skipBlanks cs with
    | [] => .error (.atByte .endInObject [])
    | c :: rest =>
      if c = '\x7d' then .ok (draft, rest)
      else if c = ',' then
        match skipBlanks rest with
        | [] => .error (.atByte .endInValue [])
        | '"' :: left =>
          match member slots draft left with
          | .error fault => .error fault
          | .ok (draft, left) => moreMembers limit draft left
        | '\x7d' :: left => .error (.atByte .trailingComma ('\x7d' :: left))
        | left => .error (.atByte .keyNotString left)
      else .error (.atByte .expectedObjectSeparator (c :: rest))

/-- The members after the opening brace. -/
def members (draft : δ) (cs : List Char) : Except Fault (δ × List Char) :=
  match skipBlanks cs with
  | [] => .error (.atByte .endInObject [])
  | '\x7d' :: rest => .ok (draft, rest)
  | '"' :: rest =>
    match member slots draft rest with
    | .error fault => .error fault
    | .ok (draft, left) => moreMembers slots (left.length + 1) draft left
  | left => .error (.atByte .keyNotString left)

/-- The end of a record that is written as a list. -/
def listEnd (draft : δ) (cs : List Char) : Except Fault (δ × List Char) :=
  match skipBlanks cs with
  | [] => .error (.atByte .endInList [])
  | ']' :: rest => .ok (draft, rest)
  | left => .error (.atByte .trailingCharacters left)

/-- The slots of a record that is written as a list; `first` says that no comma
    stands in front of the next one. -/
def listed : List (Slot δ) → (first : Bool) → δ → Reader δ
  | [], _, draft, cs => listEnd draft cs
  | slot :: rest, first, draft, cs =>
    match skipBlanks cs with
    | [] => .error (.atByte .endInList [])
    | ']' :: left =>
      if slot.required then .error (.before .mismatch left)
      else listed rest first draft (']' :: left)
    | c :: left =>
      if first then
        match slot.fill draft (c :: left) with
        | .error fault => .error fault
        | .ok (draft, left) => listed rest false draft left
      else if c = ',' then
        match skipBlanks left with
        | ']' :: left => .error (.atByte .trailingComma (']' :: left))
        | left =>
          match slot.fill draft left with
          | .error fault => .error fault
          | .ok (draft, left) => listed rest false draft left
      else .error (.atByte .expectedListSeparator (c :: left))

/-- A record, begun with an empty draft; `complete` is `none` if a required slot
    has not been filled. -/
def record {α : Type} (empty : δ) (complete : δ → Option α) (cs : List Char) :
    Except Fault (α × List Char) :=
  let filled :=
    match skipBlanks cs with
    | '\x7b' :: rest => members slots empty rest
    | '[' :: rest => listed slots true empty rest
    | left => .error (wrongKind left)
  match filled with
  | .error fault => .error fault
  | .ok (draft, left) =>
    match complete draft with
    | none => .error (.before .mismatch left)
    | some x => .ok (x, left)

end

end QueryWire.Json

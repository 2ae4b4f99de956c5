/-
  Labels of domains.

  A label in ASCII stands for itself; one behind `xn--` stands for the text that
  the rest encodes, which has to be folded and normal.  A text beyond ASCII does
  not begin with a mark, and its joiners stand only where they show.
-/
import QueryWire.Text.Composition
import QueryWire.Text.Direction
import QueryWire.Text.Joining
import QueryWire.Url.Folding
import QueryWire.Url.Punycode

namespace QueryWire.Url

/-! ## Texts of labels -/

/-- The zero width non-joiner, U+200C. -/
def nonJoiner : Char := '\u200C'

/-- The zero width joiner, U+200D. -/
def joiner : Char := '\u200D'

/-- Whether a joiner stands in its place: behind a virama, or, if it parts letters,
    between two that would join.  What stands before it is given from its end. -/
def isJoinerInPlace (c : Char) (before rest : List Char) : Bool :=
  (before.head?.map (fun d => Text.rank d == 9)).getD false ||
    (c == nonJoiner &&
      ((before.dropWhile Text.isTransparent).head?.map Text.joinsNext).getD false &&
      ((rest.dropWhile Text.isTransparent).head?.map Text.joinsPrevious).getD false)

/-- Whether all joiners stand in their places, behind the characters passed before. -/
def areJoinersInPlace (before : List Char) : List Char → Bool
  | [] => true
  | c :: rest =>
    ((c != nonJoiner && c != joiner) || isJoinerInPlace c before rest) &&
      areJoinersInPlace (c :: before) rest

/-- The most characters of a label beyond ASCII. -/
def maxTextLength : Nat := 1000

/-- The most characters behind `xn--`. -/
def maxCodeLength : Nat := 2000

/-- Whether a text beyond ASCII can be a label. -/
def isLabelText (cs : List Char) : Bool :=
  !(cs.head?.map Text.isMark).getD false && areJoinersInPlace [] cs &&
    decide (cs.length ≤ maxTextLength)

/-- Whether a text is folded and normal already. -/
def isFolded (cs : List Char) : Bool :=
  cs.all (fun c => fold? c == some [c]) && Text.normalized cs == cs

/-! ## Labels -/

structure Label where
  /-- The text for which the label stands. -/
  text : List Char
  /-- The label as it is written, in ASCII. -/
  chars : List Char

def isAscii (cs : List Char) : Bool :=
  cs.all (fun c => decide (c.toNat < 128))

/-- Reads a label of a folded domain. -/
def Label.ofChars? (cs : List Char) : Option Label :=
  match cs with
  | 'x' :: 'n' :: '-' :: '-' :: code =>
    if isAscii code && decide (code.length ≤ maxCodeLength) then do
      let text ← Punycode.decode? code
      if isFolded text && isLabelText text then some ⟨text, cs⟩ else none
    else none
  | _ =>
    if isAscii cs then some ⟨cs, cs⟩
    else if isLabelText cs then some ⟨cs, "xn--".toList ++ Punycode.encode cs⟩
    else none

/-! ## Direction -/

/-- Whether a label holds characters that are written from right to left. -/
def Label.isRightToLeft (label : Label) : Bool :=
  label.text.any (fun c => Text.direction c == .right || Text.direction c == .arabic)

/-- Whether a label reads the same way next to labels of the other direction: it begins
    with a letter, holds letters of one direction only, and ends, marks apart, with a letter
    or a digit that goes with it. -/
def Label.isDirected (label : Label) : Bool :=
  let directions := label.text.map Text.direction
  let last := (directions.reverse.dropWhile (· == .mark)).head?
  match directions.head? with
  | none => true
  | some .left =>
    !directions.contains .right && !directions.contains .arabic &&
      (last == some .left || last == some .european)
  | some .right =>
    !directions.contains .left && !(directions.contains .european && directions.contains .arabic) &&
      (last == some .right || last == some .european || last == some .arabic)
  | some _ => false

end QueryWire.Url

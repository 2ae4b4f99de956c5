/-
  Punycode, the form of a label beyond ASCII: after the plain characters and the
  last hyphen, numbers of variable length say which characters to insert where.
  Each number says how far it is from one insertion to the next, counting the
  places of the label for one code point after the other.
-/
namespace QueryWire.Url.Punycode

/-- The value of a digit in base 36; capital letters have been made small before. -/
def digit? (c : Char) : Option Nat :=
  let n := c.toNat
  if 97 ≤ n ∧ n ≤ 122 then some (n - 97)
  else if 48 ≤ n ∧ n ≤ 57 then some (n - 22)
  else none

/-- The least digit that lets a number go on at the given place. -/
def threshold (place bias : Nat) : Nat :=
  if place ≤ bias then 1 else if bias + 26 ≤ place then 26 else place - bias

/-- Divides by 35 while the value is large, at most `limit` times; also counts 36 for each division. -/
def shrink : (limit : Nat) → (delta bias : Nat) → Nat × Nat
  | 0, delta, bias => (delta, bias)
  | limit + 1, delta, bias =>
    if 455 < delta then shrink limit (delta / 35) (bias + 36) else (delta, bias)

/-- The bias after an insertion into a label that now has `count` characters. -/
def adapted (delta count : Nat) (first : Bool) : Nat :=
  let start := if first then delta / 700 else delta / 2
  let (delta, bias) := shrink 8 (start + start / count) 0
  bias + 36 * delta / (delta + 38)

/-! ## Decoding -/

/-- A label on the way, and the number that is being read. -/
structure State where
  label : List Nat
  codePoint : Nat := 128
  index : Nat := 0
  bias : Nat := 72
  previous : Nat := 0
  weight : Nat := 1
  place : Nat := 36

/-- Inserts the next character once its number is complete. -/
def State.complete (s : State) (index : Nat) : Option State :=
  let count := s.label.length + 1
  let codePoint := s.codePoint + index / count
  let at' := index % count
  if codePoint < 0x110000 ∧ ¬(0xD800 ≤ codePoint ∧ codePoint < 0xE000) then
    some {
      label := s.label.take at' ++ codePoint :: s.label.drop at'
      codePoint := codePoint
      index := at' + 1
      bias := adapted (index - s.previous) count (s.previous == 0)
      previous := at' + 1 }
  else none

/-- Reads one digit. -/
def State.step (s : State) (c : Char) : Option State := do
  let d ← digit? c
  let index := s.index + d * s.weight
  let t := threshold s.place s.bias
  if d < t then s.complete index
  else some { s with index := index, weight := s.weight * (36 - t), place := s.place + 36 }

/-- The plain characters before the last hyphen, and the digits after it.  A hyphen at
    the beginning ends no plain characters. -/
def split (cs : List Char) : List Char × List Char :=
  let digits := (cs.reverse.takeWhile (· != '-')).reverse
  match (cs.take (cs.length - digits.length)).dropLast with
  | [] => ([], cs)
  | plain => (plain, digits)

/-- The text of a label. -/
def decode? (cs : List Char) : Option (List Char) := do
  let (plain, digits) := split cs
  let s ← digits.foldlM State.step { label := plain.map Char.toNat }
  if s.weight = 1 ∧ !digits.isEmpty then some (s.label.map Char.ofNat) else none

/-! ## Encoding -/

def digit (n : Nat) : Char :=
  Char.ofNat (if n < 26 then n + 97 else n + 22)

/-- The digits of a number, the lowest one first. -/
def digits (bias : Nat) : (limit : Nat) → (place n : Nat) → List Char
  | 0, _, _ => []
  | limit + 1, place, n =>
    let t := threshold place bias
    if n < t then [digit n]
    else digit (t + (n - t) % (36 - t)) :: digits bias limit (place + 36) ((n - t) / (36 - t))

/-- What is written so far, and how many places have been passed since. -/
structure Output where
  written : List Char := []
  delta : Nat := 0
  bias : Nat := 72
  count : Nat
  first : Bool := true

/-- Passes a character of the label while the given code point is being inserted. -/
def Output.pass (codePoint : Nat) (o : Output) (c : Char) : Output :=
  if c.toNat < codePoint then { o with delta := o.delta + 1 }
  else if c.toNat = codePoint then
    { written := o.written ++ digits o.bias (o.delta + 1) 36 o.delta
      delta := 0
      bias := adapted o.delta (o.count + 1) o.first
      count := o.count + 1
      first := false }
  else o

/-- Inserts the code points, which ascend; `next` is the first that has not been passed. -/
def insertAll (label : List Char) (next : Nat) (o : Output) : List Nat → Output
  | [] => o
  | codePoint :: rest =>
    let o := { o with delta := o.delta + (codePoint - next) * (o.count + 1) }
    let o := label.foldl (Output.pass codePoint) o
    insertAll label (codePoint + 1) { o with delta := o.delta + 1 } rest

/-- Adds a number to an ascending list without it. -/
def insertNew (n : Nat) : List Nat → List Nat
  | [] => [n]
  | m :: rest => if n < m then n :: m :: rest else if n = m then m :: rest else m :: insertNew n rest

/-- The written form of a label. -/
def encode (cs : List Char) : List Char :=
  let plain := cs.filter (fun c => decide (c.toNat < 128))
  let codePoints := (cs.map Char.toNat).filter (fun n => decide (128 ≤ n))
  plain ++ (if plain.isEmpty then [] else ['-']) ++
    (insertAll cs 128 { count := plain.length } (codePoints.foldr insertNew [])).written

end QueryWire.Url.Punycode

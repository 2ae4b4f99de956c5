/-
  What a value feeds to a hash function.

  `feed digest v` is a sequence of words that begins with the kind of the
  value.  The fields of an object may come in any order, so each of them is
  digested for itself and only the sum of these digests is fed; `digest` is the
  function that makes one word out of a sequence.
-/
import QueryWire.Value.Same

namespace QueryWire.Value

abbrev Word := UInt64

/-- The characters of a text and an end mark that is no character. -/
def textWords (s : String) : List Word :=
  s.toList.map (fun c => c.toNat.toUInt64) ++ [0xFFFFFFFF]

def dateWords (d : Calendar.Date) : List Word :=
  [(d.year - Calendar.firstYear).toNat.toUInt64, d.month.toUInt64, d.day.toUInt64]

def instantWords (t : Calendar.Instant) : List Word :=
  [(Int64.ofInt t.seconds).toUInt64, t.nanos.toUInt64]

mutual
def feed (digest : List Word → Word) : Value → List Word
  | .null => [0]
  | .boolean b => [1, if b then 1 else 0]
  | .integer n => [2, n.toUInt64]
  | .double x => [3, x.bits]
  | .string s => 4 :: textWords s
  | .timestamp t => 5 :: instantWords t
  | .date d => 6 :: dateWords d
  | .array items => 7 :: items.length.toUInt64 :: feedItems digest items
  | .object fields => [8, fields.length.toUInt64, fieldSum digest fields]
  | .ref r => 9 :: textWords r.path
  | .setRef parameters => [10, parameters.length.toUInt64, fieldSum digest parameters]

def feedItems (digest : List Word → Word) : List Value → List Word
  | [] => []
  | v :: rest => feed digest v ++ feedItems digest rest

/-- The sum of the digests of the fields, modulo 2 ^ 64. -/
def fieldSum (digest : List Word → Word) : List (String × Value) → Word
  | [] => 0
  | (k, v) :: rest => digest (textWords k ++ feed digest v) + fieldSum digest rest
end

/-- A digest that mixes each word in by a multiplication. -/
def mixedDigest (words : List Word) : Word :=
  words.foldl (fun h w => (h ^^^ w) * 0x100000001B3) 0xCBF29CE484222325

def hash (v : Value) : Word :=
  mixedDigest (feed mixedDigest v)

/-! ## Sets of values -/

/-- Adds a value to a list of pairwise different ones; tells whether it was new. -/
def insertNew (v : Value) (members : List Value) : Bool × List Value :=
  if members.any (fun w => hash w == hash v && same w v) then (false, members)
  else (true, members ++ [v])

end QueryWire.Value

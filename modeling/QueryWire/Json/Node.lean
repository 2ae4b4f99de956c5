/-
  JSON documents as trees.

  A number keeps the class in which it was written: natural numbers and
  negative integers of 64 bits, and finite floating point numbers for all else.
  An object is a list of entries in the order of the text; `Node.Distinct` says
  that no object in a tree repeats a key, which every document that was read
  satisfies (`distinct_of_document`).

  `Node.same` is equality up to the order of entries, with numbers compared
  class by class and floating point numbers in the arithmetic sense.
-/
import QueryWire.Binary64
import QueryWire.Fields

namespace QueryWire.Json

inductive Number
  | natural (n : UInt64)
  | negative (n : Int64) (lt : n < 0)
  | float (x : Binary64) (finite : x.isFinite = true)
deriving DecidableEq

namespace Number

def ofInt64 (n : Int64) : Number :=
  if h : n < 0 then .negative n h else .natural n.toUInt64

/-- The first natural number that is no signed integer of 64 bits. -/
def int64End : Nat := 0x8000000000000000

/-- The integer of 64 bits that the number is, if it was written as one. -/
def int64? : Number → Option Int64
  | .natural n => if n.toNat < int64End then some n.toInt64 else none
  | .negative n _ => some n
  | .float _ _ => none

/-- Numbers of one class with one value; the floating point zeros are one value. -/
def same : Number → Number → Bool
  | .natural m, .natural n => m == n
  | .negative m _, .negative n _ => m == n
  | .float x _, .float y _ => x.sameNumber y
  | _, _ => false

end Number

inductive Node
  | null
  | bool (b : Bool)
  | number (n : Number)
  | string (s : String)
  | array (items : List Node)
  | object (entries : List (String × Node))

namespace Node

def isNull : Node → Bool
  | .null => true
  | _ => false

def bool? : Node → Option Bool
  | .bool b => some b
  | _ => none

def number? : Node → Option Number
  | .number n => some n
  | _ => none

def string? : Node → Option String
  | .string s => some s
  | _ => none

def array? : Node → Option (List Node)
  | .array items => some items
  | _ => none

def object? : Node → Option (List (String × Node))
  | .object entries => some entries
  | _ => none

mutual
/-- No object in the tree repeats a key. -/
def Distinct : Node → Prop
  | .array items => DistinctItems items
  | .object entries => Fields.Distinct entries ∧ DistinctEntries entries
  | _ => True

def DistinctItems : List Node → Prop
  | [] => True
  | node :: rest => Distinct node ∧ DistinctItems rest

def DistinctEntries : List (String × Node) → Prop
  | [] => True
  | (_, node) :: rest => Distinct node ∧ DistinctEntries rest
end

theorem distinctItems_iff (items : List Node) :
    DistinctItems items ↔ ∀ node ∈ items, Distinct node := by
  induction items with
  | nil => simp [DistinctItems]
  | cons node rest ih => simp [DistinctItems, ih]

theorem distinctEntries_iff (entries : List (String × Node)) :
    DistinctEntries entries ↔ ∀ p ∈ entries, Distinct p.2 := by
  induction entries with
  | nil => simp [DistinctEntries]
  | cons p rest ih => simp only [DistinctEntries, ih, List.forall_mem_cons]

theorem distinct_object {pairs : List (String × Node)} (h : ∀ p ∈ pairs, Distinct p.2) :
    Distinct (.object (Fields.ofPairs pairs)) :=
  ⟨Fields.distinct_ofPairs pairs,
    (distinctEntries_iff _).mpr fun p hp => h p (Fields.mem_of_mem_ofPairs hp)⟩

mutual
/-- Equality up to the order of entries. -/
def same : Node → Node → Bool
  | .null, .null => true
  | .bool a, .bool b => a == b
  | .number m, .number n => m.same n
  | .string s, .string t => s == t
  | .array xs, .array ys => sameItems xs ys
  | .object xs, .object ys => xs.length == ys.length && sameEntries xs ys
  | _, _ => false

def sameItems : List Node → List Node → Bool
  | [], [] => true
  | x :: xs, y :: ys => same x y && sameItems xs ys
  | _, _ => false

/-- Whether each entry of the first list has an equal one under its key in the second. -/
def sameEntries : List (String × Node) → List (String × Node) → Bool
  | [], _ => true
  | (k, x) :: xs, ys =>
    (match Fields.get? k ys with
      | some y => same x y
      | none => false) && sameEntries xs ys
end

end Node

end QueryWire.Json

/-
  Typed values of the query language: the JSON scalars and containers and four
  specials, the instant, the date, the resource reference and the set
  reference.

  An object and the parameters of a set reference are ordered fields;
  `Value.Distinct` says that none of them repeats a key, which every value made
  by `Value.ofPairs` (`distinct_ofPairs`) or by decoding satisfies.  A coercion answers `none` for a
  value of another kind.
-/
import QueryWire.Binary64
import QueryWire.Fields
import QueryWire.Calendar.Instant

namespace QueryWire

open Calendar (Date Instant)

/-- A resource on the server, named by its path. -/
structure Ref where
  path : String
deriving DecidableEq

/-- The reference to `id` below a reference. -/
def Ref.child (r : Ref) (id : String) : Ref :=
  ⟨r.path ++ "/" ++ id⟩

/-- The references in the order of the code points of their paths, each of them once. -/
def Ref.sorted (refs : List Ref) : List Ref :=
  (refs.mergeSort (fun r s => !decide (s.path < r.path))).eraseReps

inductive Value
  | null
  | boolean (b : Bool)
  | integer (n : Int64)
  | double (x : Binary64)
  | string (s : String)
  | timestamp (t : Instant)
  | date (d : Date)
  | array (items : List Value)
  | object (fields : List (String × Value))
  | ref (r : Ref)
  | setRef (parameters : List (String × Value))

namespace Value

/-- The object with the given pairs; a repeated key keeps its first place and
    takes its last value. -/
def ofPairs (pairs : List (String × Value)) : Value :=
  .object (Fields.ofPairs pairs)

def kind : Value → String
  | .null => "null"
  | .boolean _ => "boolean"
  | .integer _ => "integer"
  | .double _ => "double"
  | .string _ => "string"
  | .timestamp _ => "timestamp"
  | .date _ => "date"
  | .array _ => "array"
  | .object _ => "object"
  | .ref _ => "ref"
  | .setRef _ => "set"

/-! ## Coercions -/

def isNull : Value → Bool
  | .null => true
  | _ => false

def string? : Value → Option String
  | .string s => some s
  | _ => none

def bool? : Value → Option Bool
  | .boolean b => some b
  | _ => none

/-- Integers, and doubles truncated toward zero and clamped to 64 bits. -/
def int64? : Value → Option Int64
  | .integer n => some n
  | .double x => some x.toInt64
  | _ => none

def double? : Value → Option Binary64
  | .double x => some x
  | _ => none

def timestamp? : Value → Option Instant
  | .timestamp t => some t
  | _ => none

def date? : Value → Option Date
  | .date d => some d
  | _ => none

def array? : Value → Option (List Value)
  | .array items => some items
  | _ => none

def object? : Value → Option (List (String × Value))
  | .object fields => some fields
  | _ => none

def ref? : Value → Option Ref
  | .ref r => some r
  | _ => none

def setRef? : Value → Option (List (String × Value))
  | .setRef parameters => some parameters
  | _ => none

end Value

/-! ## Access -/

/-- A step into a value: a field of an object or an item of an array. -/
inductive Step
  | key (k : String)
  | index (n : Nat)
deriving DecidableEq

namespace Value

def get? (v : Value) : Step → Option Value
  | .key k => v.object?.bind (Fields.get? k)
  | .index n => v.array?.bind (fun items => items[n]?)

/-- Follows a path of steps. -/
def follow? (v : Value) : List Step → Option Value
  | [] => some v
  | step :: path => (v.get? step).bind (fun w => w.follow? path)

/-! ## Distinct keys -/

mutual
/-- No object and no set reference in the value repeats a key. -/
def Distinct : Value → Prop
  | .array items => DistinctItems items
  | .object fields => Fields.Distinct fields ∧ DistinctFields fields
  | .setRef parameters => Fields.Distinct parameters ∧ DistinctFields parameters
  | _ => True

def DistinctItems : List Value → Prop
  | [] => True
  | v :: rest => Distinct v ∧ DistinctItems rest

def DistinctFields : List (String × Value) → Prop
  | [] => True
  | (_, v) :: rest => Distinct v ∧ DistinctFields rest
end

theorem distinctItems_iff (items : List Value) :
    DistinctItems items ↔ ∀ v ∈ items, Distinct v := by
  induction items with
  | nil => simp [DistinctItems]
  | cons v rest ih => simp [DistinctItems, ih]

theorem distinctFields_iff (fields : List (String × Value)) :
    DistinctFields fields ↔ ∀ p ∈ fields, Distinct p.2 := by
  induction fields with
  | nil => simp [DistinctFields]
  | cons p rest ih => simp only [DistinctFields, ih, List.forall_mem_cons]

theorem distinct_ofPairs {pairs : List (String × Value)} (h : ∀ p ∈ pairs, Distinct p.2) :
    Distinct (ofPairs pairs) :=
  ⟨Fields.distinct_ofPairs pairs,
    (distinctFields_iff _).mpr fun p hp => h p (Fields.mem_of_mem_ofPairs hp)⟩

end Value

end QueryWire

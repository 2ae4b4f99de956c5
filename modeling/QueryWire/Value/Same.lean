/-
  Equality of values: doubles by their bits, arrays item by item, objects and
  set references up to the order of their fields.
-/
import QueryWire.Value

namespace QueryWire.Value

mutual
def same : Value → Value → Bool
  | .null, .null => true
  | .boolean a, .boolean b => a == b
  | .integer m, .integer n => m == n
  | .double x, .double y => x == y
  | .string s, .string t => s == t
  | .timestamp s, .timestamp t => s == t
  | .date d, .date e => d == e
  | .array xs, .array ys => sameItems xs ys
  | .object xs, .object ys => xs.length == ys.length && sameFields xs ys
  | .ref r, .ref s => r == s
  | .setRef xs, .setRef ys => xs.length == ys.length && sameFields xs ys
  | _, _ => false

def sameItems : List Value → List Value → Bool
  | [], [] => true
  | x :: xs, y :: ys => same x y && sameItems xs ys
  | _, _ => false

/-- Whether each field of the first list has an equal one under its key in the second. -/
def sameFields : List (String × Value) → List (String × Value) → Bool
  | [], _ => true
  | (k, x) :: xs, ys =>
    (match Fields.get? k ys with
      | some y => same x y
      | none => false) && sameFields xs ys
end

/-- Whether two lists of parameters describe the same set. -/
def sameParameters (xs ys : List (String × Value)) : Bool :=
  same (.setRef xs) (.setRef ys)

end QueryWire.Value

/-
  Query expressions and escaping.

  On the wire a query form is an object with reserved keys.  Literal data could
  collide with them, so `Expr.escape` wraps every literal object into an object
  with the only key `object`, at every depth; references and set references are
  left alone.  Forms are built from expressions and get no wrapper.
-/
import QueryWire.Value.Same
import QueryWire.Value.Tagged

namespace QueryWire

mutual
/-- Wraps every object in a value. -/
def Value.escaped : Value → Value
  | .array items => .array (Value.escapedItems items)
  | .object fields => .object [(objectKey, .object (Value.escapedFields fields))]
  | v => v

def Value.escapedItems : List Value → List Value
  | [] => []
  | v :: rest => v.escaped :: Value.escapedItems rest

def Value.escapedFields : List (String × Value) → List (String × Value)
  | [] => []
  | (k, v) :: rest => (k, v.escaped) :: Value.escapedFields rest
end

theorem Value.escapedItems_eq_map (items : List Value) :
    Value.escapedItems items = items.map Value.escaped := by
  induction items with
  | nil => rfl
  | cons v rest ih => rw [Value.escapedItems, ih, List.map_cons]

theorem Value.escapedFields_eq_mapValues (fields : List (String × Value)) :
    Value.escapedFields fields = Fields.mapValues Value.escaped fields := by
  induction fields with
  | nil => rfl
  | cons p rest ih => rw [Value.escapedFields, ih]; rfl

theorem Value.escaped_array (items : List Value) :
    escaped (.array items) = .array (items.map escaped) := by
  rw [escaped, escapedItems_eq_map]

theorem Value.escaped_object (fields : List (String × Value)) :
    escaped (.object fields) =
      .object [(objectKey, .object (Fields.mapValues escaped fields))] := by
  rw [escaped, escapedFields_eq_mapValues]

theorem Value.escaped_setRef (parameters : List (String × Value)) :
    escaped (.setRef parameters) = .setRef parameters :=
  rfl

/-- A query expression, held as the value that is sent. -/
structure Expr where
  tree : Value

namespace Expr

/-- Literal data as an expression. -/
def escape (v : Value) : Expr :=
  ⟨v.escaped⟩

/-- A query form: reserved keys with their arguments, in the given order. -/
def form (pairs : List (String × Expr)) : Expr :=
  ⟨.object (Fields.ofPairs (pairs.map (fun p => (p.1, p.2.tree))))⟩

def list (items : List Expr) : Expr :=
  ⟨.array (items.map Expr.tree)⟩

/-- A literal object whose values are expressions. -/
def object (pairs : List (String × Expr)) : Expr :=
  ⟨.object [(objectKey, .object (Fields.ofPairs (pairs.map (fun p => (p.1, p.2.tree)))))]⟩

/-- The expression, or null. -/
def ofOption : Option Expr → Expr
  | some e => e
  | none => ⟨.null⟩

def ofString (s : String) : Expr :=
  escape (.string s)

def ofInt64 (n : Int64) : Expr :=
  escape (.integer n)

def ofBool (b : Bool) : Expr :=
  escape (.boolean b)

def same (a b : Expr) : Bool :=
  a.tree.same b.tree

/-- The body of a request with one expression. -/
def text (e : Expr) : Except NonFinite String :=
  e.tree.text

/-- The body of a request with several expressions: the array of them. -/
def batchText (es : List Expr) : Except NonFinite String :=
  (list es).text

end Expr

end QueryWire

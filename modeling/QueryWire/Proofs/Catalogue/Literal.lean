/-
  Literal data built from the bottom up.

  A `Literal` describes data made of scalars, options, lists and lists of pairs,
  in which a key may be repeated.  `Literal.expr` makes an expression of it with
  the constructors for literals, part by part; `Literal.value` makes the value,
  which can be escaped as a whole.  Both ways go through fields made of pairs,
  one before the parts are escaped and one after, and this is the same since
  values can be mapped before or after repeated keys are merged
  (`Fields.ofPairs_mapValues`).
-/
import QueryWire.Proofs.Fields
import QueryWire.Query.Forms

namespace QueryWire.Query

open Calendar (Date Instant)

/-! ## Scalars -/

inductive Scalar
  | bool (b : Bool)
  | int32 (n : Int32)
  | int64 (n : Int64)
  | double (x : Binary64)
  | string (s : String)
  | timestamp (t : Instant)
  | date (d : Date)
  | ref (r : Ref)
  | setRef (parameters : List (String × Value))

namespace Scalar

def value : Scalar → Value
  | .bool b => .boolean b
  | .int32 n => .integer n.toInt64
  | .int64 n => .integer n
  | .double x => .double x
  | .string s => .string s
  | .timestamp t => .timestamp t
  | .date d => .date d
  | .ref r => .ref r
  | .setRef parameters => .setRef parameters

def expr : Scalar → Expr
  | .bool b => .ofBool b
  | .int32 n => .ofInt64 n.toInt64
  | .int64 n => .ofInt64 n
  | .double x => .escape (.double x)
  | .string s => .ofString s
  | .timestamp t => .escape (.timestamp t)
  | .date d => .escape (.date d)
  | .ref r => .escape (.ref r)
  | .setRef parameters => .escape (.setRef parameters)

theorem expr_eq_escape (s : Scalar) : s.expr = .escape s.value := by
  cases s <;> rfl

end Scalar

/-! ## Descriptions of literals -/

inductive Literal
  | scalar (s : Scalar)
  | absent
  | present (d : Literal)
  | list (items : List Literal)
  | pairs (ps : List (String × Literal))

namespace Literal

mutual
/-- The expression, built from the bottom up. -/
def expr : Literal → Expr
  | .scalar s => s.expr
  | .absent => .ofOption none
  | .present d => .ofOption (some d.expr)
  | .list items => .list (exprItems items)
  | .pairs ps => .object (exprPairs ps)

def exprItems : List Literal → List Expr
  | [] => []
  | d :: rest => d.expr :: exprItems rest

def exprPairs : List (String × Literal) → List (String × Expr)
  | [] => []
  | (k, d) :: rest => (k, d.expr) :: exprPairs rest
end

mutual
/-- The data. -/
def value : Literal → Value
  | .scalar s => s.value
  | .absent => .null
  | .present d => d.value
  | .list items => .array (valueItems items)
  | .pairs ps => .ofPairs (valuePairs ps)

def valueItems : List Literal → List Value
  | [] => []
  | d :: rest => d.value :: valueItems rest

def valuePairs : List (String × Literal) → List (String × Value)
  | [] => []
  | (k, d) :: rest => (k, d.value) :: valuePairs rest
end

theorem exprPairs_eq_mapValues (ps : List (String × Literal)) :
    exprPairs ps = Fields.mapValues expr ps := by
  induction ps with
  | nil => rfl
  | cons p rest ih => rw [exprPairs, ih]; rfl

theorem valuePairs_eq_mapValues (ps : List (String × Literal)) :
    valuePairs ps = Fields.mapValues value ps := by
  induction ps with
  | nil => rfl
  | cons p rest ih => rw [valuePairs, ih]; rfl

/-! ## Both ways -/

theorem escape_ofPairs (pairs : List (String × Value)) :
    (Expr.escape (.ofPairs pairs)).tree =
      .object [(objectKey, .object (Fields.ofPairs (Value.escapedFields pairs)))] := by
  rw [Value.escapedFields_eq_mapValues, Fields.ofPairs_mapValues]
  exact Value.escaped_object _

mutual
theorem tree_expr : (d : Literal) → d.expr.tree = (Expr.escape d.value).tree
  | .scalar s => congrArg Expr.tree s.expr_eq_escape
  | .absent => rfl
  | .present d => tree_expr d
  | .list items => congrArg Value.array (tree_exprItems items)
  | .pairs ps => by
    rw [value, escape_ofPairs, ← tree_exprPairs ps]
    rfl

theorem tree_exprItems : (items : List Literal) →
    (exprItems items).map Expr.tree = Value.escapedItems (valueItems items)
  | [] => rfl
  | d :: rest => congrArg₂ List.cons (tree_expr d) (tree_exprItems rest)

theorem tree_exprPairs : (ps : List (String × Literal)) →
    (exprPairs ps).map (fun p => (p.1, p.2.tree)) = Value.escapedFields (valuePairs ps)
  | [] => rfl
  | (k, d) :: rest => congrArg₂ (fun t ts => (k, t) :: ts) (tree_expr d) (tree_exprPairs rest)
end

/-- The expression built from the bottom up has the same tree as the escaped
    data.  On both ways, and at every level, a key stands at the place where it
    first came up and has the value that it was given last. -/
theorem built_eq_escaped :
    (∀ d : Literal, d.expr.tree = (Expr.escape d.value).tree) ∧
    ∀ ps : List (String × Literal), ∃ built data,
      (Literal.pairs ps).expr.tree = .object [(objectKey, .object built)] ∧
      (Literal.pairs ps).value = .object data ∧
      Fields.keys built = (Fields.keys ps).eraseDups ∧
      Fields.keys data = (Fields.keys ps).eraseDups ∧
      ∀ k, Fields.get? k built = (Fields.get? k ps.reverse).map (fun d => d.expr.tree) ∧
        Fields.get? k data = (Fields.get? k ps.reverse).map value := by
  refine ⟨tree_expr, fun ps => ?_⟩
  have hb : (exprPairs ps).map (fun p => (p.1, p.2.tree)) =
      Fields.mapValues (fun d => d.expr.tree) ps := by
    rw [exprPairs_eq_mapValues, Fields.mapValues, List.map_map]
    rfl
  refine ⟨_, _, rfl, rfl, ?_, ?_, fun k => ⟨?_, ?_⟩⟩
  · rw [hb, Fields.keys_ofPairs, Fields.keys_mapValues]
  · rw [valuePairs_eq_mapValues, Fields.keys_ofPairs, Fields.keys_mapValues]
  · rw [hb, Fields.ofPairs_mapValues, Fields.get?_mapValues, Fields.get?_ofPairs]
  · rw [valuePairs_eq_mapValues, Fields.ofPairs_mapValues, Fields.get?_mapValues,
      Fields.get?_ofPairs]

end Literal

end QueryWire.Query

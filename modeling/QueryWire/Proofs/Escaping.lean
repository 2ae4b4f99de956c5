/-
  Escaping is a bijection onto the well-tagged trees.

  A tree is well tagged when each of its objects, set references apart, is a
  wrapper: one entry, named `object`, that holds fields with arbitrary keys and
  well-tagged values.  `Value.stripped` takes the wrappers off from the top down.
  Since a key of the data may itself be `object`, a wrapper and the data inside
  it can look alike; what tells them apart is the depth, so both inverse laws go
  down the tree two levels at a time (`stripped_escaped`, `escaped_stripped`).
-/
import QueryWire.Expr

namespace QueryWire

namespace Value

mutual
/-- Each object in the tree is a wrapper; what a set reference holds does not count. -/
def WellTagged : Value → Prop
  | .array items => WellTaggedItems items
  | .object [(key, .object fields)] => key = objectKey ∧ WellTaggedFields fields
  | .object _ => False
  | _ => True

def WellTaggedItems : List Value → Prop
  | [] => True
  | v :: rest => WellTagged v ∧ WellTaggedItems rest

def WellTaggedFields : List (String × Value) → Prop
  | [] => True
  | (_, v) :: rest => WellTagged v ∧ WellTaggedFields rest
end

mutual
/-- Takes off the wrappers, the outermost first. -/
def stripped : Value → Value
  | .array items => .array (strippedItems items)
  | .object [(key, .object fields)] =>
    if key = objectKey then .object (strippedFields fields) else .object [(key, .object fields)]
  | v => v

def strippedItems : List Value → List Value
  | [] => []
  | v :: rest => stripped v :: strippedItems rest

def strippedFields : List (String × Value) → List (String × Value)
  | [] => []
  | (k, v) :: rest => (k, stripped v) :: strippedFields rest
end

/-- A wrapper is one level of an escaped tree. -/
theorem stripped_wrapper (fields : List (String × Value)) :
    stripped (.object [(objectKey, .object fields)]) = .object (strippedFields fields) := by
  rw [stripped, if_pos rfl]

/-! ## Escaped trees -/

mutual
theorem wellTagged_escaped : (v : Value) → WellTagged v.escaped
  | .null => trivial
  | .boolean _ => trivial
  | .integer _ => trivial
  | .double _ => trivial
  | .string _ => trivial
  | .timestamp _ => trivial
  | .date _ => trivial
  | .ref _ => trivial
  | .setRef _ => trivial
  | .array items => wellTagged_escapedItems items
  | .object fields => ⟨rfl, wellTagged_escapedFields fields⟩

theorem wellTagged_escapedItems : (items : List Value) → WellTaggedItems (escapedItems items)
  | [] => trivial
  | v :: rest => ⟨wellTagged_escaped v, wellTagged_escapedItems rest⟩

theorem wellTagged_escapedFields : (fields : List (String × Value)) →
    WellTaggedFields (escapedFields fields)
  | [] => trivial
  | (_, v) :: rest => ⟨wellTagged_escaped v, wellTagged_escapedFields rest⟩
end

mutual
theorem stripped_escaped : (v : Value) → v.escaped.stripped = v
  | .null => rfl
  | .boolean _ => rfl
  | .integer _ => rfl
  | .double _ => rfl
  | .string _ => rfl
  | .timestamp _ => rfl
  | .date _ => rfl
  | .ref _ => rfl
  | .setRef _ => rfl
  | .array items => by rw [escaped, stripped, strippedItems_escapedItems items]
  | .object fields => by rw [escaped, stripped_wrapper, strippedFields_escapedFields fields]

theorem strippedItems_escapedItems : (items : List Value) →
    strippedItems (escapedItems items) = items
  | [] => rfl
  | v :: rest => by
    rw [escapedItems, strippedItems, stripped_escaped v, strippedItems_escapedItems rest]

theorem strippedFields_escapedFields : (fields : List (String × Value)) →
    strippedFields (escapedFields fields) = fields
  | [] => rfl
  | (k, v) :: rest => by
    rw [escapedFields, strippedFields, stripped_escaped v, strippedFields_escapedFields rest]
end

/-! ## Well-tagged trees -/

theorem wrapper_of_wellTagged {fields : List (String × Value)} (h : WellTagged (.object fields)) :
    ∃ inner, fields = [(objectKey, .object inner)] ∧ WellTaggedFields inner := by
  unfold WellTagged at h
  split at h
  · rename_i he
    cases he
  · rename_i key inner he
    obtain ⟨rfl, hi⟩ := h
    cases he
    exact ⟨inner, rfl, hi⟩
  · exact h.elim
  · rename_i hn
    exact absurd rfl (hn fields)

mutual
theorem escaped_stripped : (t : Value) → WellTagged t → t.stripped.escaped = t
  | .null, _ => rfl
  | .boolean _, _ => rfl
  | .integer _, _ => rfl
  | .double _, _ => rfl
  | .string _, _ => rfl
  | .timestamp _, _ => rfl
  | .date _, _ => rfl
  | .ref _, _ => rfl
  | .setRef _, _ => rfl
  | .array items, h => by
    rw [stripped, escaped, escapedItems_strippedItems items h]
  | .object fields, h => by
    obtain ⟨inner, rfl, hi⟩ := wrapper_of_wellTagged h
    rw [stripped_wrapper, escaped, escapedFields_strippedFields inner hi]

theorem escapedItems_strippedItems : (items : List Value) → WellTaggedItems items →
    escapedItems (strippedItems items) = items
  | [], _ => rfl
  | v :: rest, h => by
    rw [strippedItems, escapedItems, escaped_stripped v h.1, escapedItems_strippedItems rest h.2]

theorem escapedFields_strippedFields : (fields : List (String × Value)) →
    WellTaggedFields fields → escapedFields (strippedFields fields) = fields
  | [], _ => rfl
  | (k, v) :: rest, h => by
    rw [strippedFields, escapedFields, escaped_stripped v h.1,
      escapedFields_strippedFields rest h.2]
end

theorem wellTagged_iff_escaped_stripped (t : Value) :
    WellTagged t ↔ t.stripped.escaped = t := by
  constructor
  · exact escaped_stripped t
  · intro h
    rw [← h]
    exact wellTagged_escaped t.stripped

end Value

/-- Escaping maps the values one to one onto the well-tagged trees, and `stripped`
    is its inverse.  In particular the tree of any expression, a form or not, is
    recovered after it has been escaped as data. -/
theorem Expr.escape_bijective :
    (∀ v : Value, (Expr.escape v).tree.WellTagged ∧ (Expr.escape v).tree.stripped = v) ∧
      (∀ t : Value, t.WellTagged ↔ (Expr.escape t.stripped).tree = t) ∧
      ∀ e : Expr, (Expr.escape e.tree).tree.WellTagged ∧
        (Expr.escape e.tree).tree.stripped = e.tree := by
  have h : ∀ v : Value, (Expr.escape v).tree.WellTagged ∧ (Expr.escape v).tree.stripped = v :=
    fun v => ⟨v.wellTagged_escaped, v.stripped_escaped⟩
  refine ⟨h, ?_, fun e => h e.tree⟩
  intro t
  exact t.wellTagged_iff_escaped_stripped

end QueryWire

/-
  Equal values are written as one document.

  Texts are compared by the trees they are the texts of; no two trees have one
  text (`Json.Node.text_injective`), so a text stands for its tree.  What a value
  holds has an equal partner in every equal value (`Value.exists_within_of_same`).
  So of two equal values both can be written or none (`Value.refused_iff_of_same`),
  and their trees differ in the order of members only (`Value.alike_node_of_same`).
  Escaping wraps objects on both sides alike and neither makes nor loses an
  equality (`Value.same_escaped_iff`).
-/
import QueryWire.Expr
import QueryWire.Proofs.Json.Equality
import QueryWire.Proofs.Value.Equality
import QueryWire.Proofs.Wire.Encoding

namespace QueryWire

open Json (Node)

/-! ## Texts -/

/-- The texts of two trees that are the same up to the order of members. -/
def Json.SameDocument (s t : String) : Prop :=
  ∃ m n : Node, m.text = s ∧ n.text = t ∧ m.Alike n

theorem Json.sameDocument_text_iff {m n : Node} : SameDocument m.text n.text ↔ m.Alike n := by
  constructor
  · rintro ⟨m', n', hm, hn, h⟩
    rwa [← Node.text_injective hm, ← Node.text_injective hn]
  · exact fun h => ⟨m, n, rfl, rfl, h⟩

/-- Two outcomes of writing: both are texts of one document, or there is no text. -/
inductive WrittenAlike : Except NonFinite String → Except NonFinite String → Prop
  | texts {s t : String} : Json.SameDocument s t → WrittenAlike (.ok s) (.ok t)
  | refused (e e' : NonFinite) : WrittenAlike (.error e) (.error e')

namespace Value

variable {v w : Value}

/-! ## What cannot be written -/

/-- What stands in a value has an equal partner in an equal value. -/
theorem exists_within_of_same {u : Value} (hu : u.Within v) (h : v.same w = true) :
    ∃ u', u'.Within w ∧ u.same u' = true := by
  induction hu generalizing w with
  | self => exact ⟨w, .self, h⟩
  | item hx _ ih =>
    obtain ⟨ys, rfl, hi⟩ := same_array_iff.mp h
    obtain ⟨y, hy, hxy⟩ := exists_mem_left hi.flip hx
    obtain ⟨u', hu', hs⟩ := ih hxy
    exact ⟨u', .item hy hu', hs⟩
  | field hx _ ih =>
    obtain ⟨ys, rfl, hm⟩ := same_object_iff.mp h
    obtain ⟨y, hy, hxy⟩ := hm.2 _ hx
    obtain ⟨u', hu', hs⟩ := ih hxy
    exact ⟨u', .field (Fields.mem_of_get? hy) hu', hs⟩
  | parameter hx _ ih =>
    obtain ⟨ys, rfl, hm⟩ := same_setRef_iff.mp h
    obtain ⟨y, hy, hxy⟩ := hm.2 _ hx
    obtain ⟨u', hu', hs⟩ := ih hxy
    exact ⟨u', .parameter (Fields.mem_of_get? hy) hu', hs⟩

theorem double_within_of_same {x : Binary64} (hx : (Value.double x).Within v)
    (h : v.same w = true) : (Value.double x).Within w := by
  obtain ⟨u, hu, hs⟩ := exists_within_of_same hx h
  rwa [(same_leaf_iff rfl u).mp hs]

theorem refused_iff_of_same (hd : v.Distinct) (h : v.same w = true) :
    (∃ e, v.text = .error e) ↔ ∃ e, w.text = .error e := by
  have hv : (∃ e, v.text = .error e) ↔ _ := Expr.exists_fault_iff (e := ⟨v⟩)
  have hw : (∃ e, w.text = .error e) ↔ _ := Expr.exists_fault_iff (e := ⟨w⟩)
  rw [hv, hw]
  refine exists_congr fun x => and_congr_left fun _ => ⟨fun hx => ?_, fun hx => ?_⟩
  · exact double_within_of_same hx h
  · exact double_within_of_same hx (same_symm hd h)

/-! ## One tree up to the order of members -/

theorem alike_entries {xs ys : List (String × Value)} (hd : Fields.Distinct xs)
    (h : Fields.Matched (fun x y => x.node.Alike y.node) xs ys) :
    (Node.object (entries xs)).Alike (.object (entries ys)) := by
  refine Node.alike_object (distinct_entries hd) ?_
  rwa [entries_eq_mapValues, entries_eq_mapValues, Fields.matched_mapValues]

theorem alike_tagged {tag : String} {m n : Node} (h : m.Alike n) :
    (tagged tag m).Alike (tagged tag n) :=
  Node.alike_object (Fields.distinct_singleton tag m)
    (Fields.matched_singleton_iff.mpr ⟨n, rfl, h⟩)

theorem alike_node_of_same (hd : v.Distinct) (h : v.same w = true) : v.node.Alike w.node := by
  induction v using induction generalizing w with
  | leaf v hl =>
    cases (same_leaf_iff hl w).mp h
    exact .refl (distinct_node v hd)
  | array xs ih =>
    obtain ⟨ys, rfl, hi⟩ := same_array_iff.mp h
    have hn : List.Forall₂ (fun x y => x.node.Alike y.node) xs ys :=
      forall₂_imp hi fun x hx y hxy => ih x hx (hd.item x hx) hxy
    refine Node.alike_array ?_
    rwa [nodes_eq_map, nodes_eq_map, List.forall₂_map_left_iff, List.forall₂_map_right_iff]
  | object xs ih =>
    obtain ⟨ys, rfl, hm⟩ := same_object_iff.mp h
    exact alike_entries hd.1 (hm.imp fun q hq y hy => ih q hq (hd.field q hq) hy)
  | setRef xs ih =>
    obtain ⟨ys, rfl, hm⟩ := same_setRef_iff.mp h
    exact alike_tagged
      (alike_entries hd.1 (hm.imp fun q hq y hy => ih q hq (hd.parameter q hq) hy))

theorem writtenAlike_text (hd : v.Distinct) (h : v.same w = true) :
    WrittenAlike v.text w.text := by
  have hr := refused_iff_of_same hd h
  cases hv : v.text with
  | error e =>
    obtain ⟨e', hw⟩ := hr.mp ⟨e, hv⟩
    rw [hw]
    exact .refused e e'
  | ok s =>
    cases hw : w.text with
    | error e' =>
      obtain ⟨e, he⟩ := hr.mpr ⟨e', hw⟩
      cases hv.symm.trans he
    | ok t =>
      rw [text_eq_refusing, refusing_eq_ok_iff] at hv hw
      rw [← hv.2, ← hw.2]
      exact .texts (Json.sameDocument_text_iff.mpr (alike_node_of_same hd h))

/-! ## Escaped values -/

theorem escaped_eq_leaf_iff (hl : v.isLeaf = true) : v = w.escaped ↔ v = w := by
  cases v with
  | array _ | object _ | setRef _ => cases hl
  | _ => cases w <;> simp [escaped]

theorem same_escaped_array_iff {xs : List Value} :
    same (.array (xs.map escaped)) w.escaped = true ↔
      ∃ ys, w = .array ys ∧ List.Forall₂ (fun x y => x.escaped.same y.escaped = true) xs ys := by
  rw [same_array_iff]
  cases w with
  | array ys => simp [escaped_array]
  | _ => simp [escaped]

theorem same_escaped_object_iff {xs : List (String × Value)} :
    same (.object [(objectKey, .object (Fields.mapValues escaped xs))]) w.escaped = true ↔
      ∃ ys, w = .object ys ∧ Fields.Matched (fun x y => x.escaped.same y.escaped = true) xs ys := by
  rw [same_object_iff]
  cases w with
  | object ys =>
    simp [escaped_object, Fields.matched_singleton_iff, same_object_iff, Fields.matched_mapValues]
  | _ => simp [escaped]

theorem same_escaped_setRef_iff {xs : List (String × Value)} :
    same (.setRef xs) w.escaped = true ↔ same (.setRef xs) w = true := by
  rw [same_setRef_iff, same_setRef_iff]
  cases w <;> simp [escaped]

/-- Escaped values are equal exactly if the values are. -/
theorem same_escaped_iff : v.escaped.same w.escaped = true ↔ v.same w = true := by
  induction v using induction generalizing w with
  | leaf v hl =>
    rw [escaped_leaf hl, same_leaf_iff hl, same_leaf_iff hl, escaped_eq_leaf_iff hl]
  | array xs ih =>
    rw [escaped_array, same_escaped_array_iff, same_array_iff]
    refine exists_congr fun ys => and_congr_right fun _ => ?_
    exact ⟨fun h => forall₂_imp h fun x hx y => (ih x hx).mp,
      fun h => forall₂_imp h fun x hx y => (ih x hx).mpr⟩
  | object xs ih =>
    rw [escaped_object, same_escaped_object_iff, same_object_iff]
    refine exists_congr fun ys => and_congr_right fun _ => ?_
    exact ⟨fun h => h.imp fun q hq y => (ih q hq).mp, fun h => h.imp fun q hq y => (ih q hq).mpr⟩
  | setRef xs => rw [escaped_setRef, same_escaped_setRef_iff]

theorem distinct_escaped (hd : v.Distinct) : v.escaped.Distinct := by
  induction v using induction with
  | leaf v hl => rwa [escaped_leaf hl]
  | array xs ih =>
    rw [escaped_array]
    exact (distinctItems_iff _).mpr
      (List.forall_mem_map.mpr fun x hx => ih x hx (hd.item x hx))
  | object xs ih =>
    rw [escaped_object]
    have hf : Distinct (.object (Fields.mapValues escaped xs)) :=
      ⟨Fields.distinct_mapValues hd.1, (distinctFields_iff _).mpr
        (List.forall_mem_map.mpr fun q hq => ih q hq (hd.field q hq))⟩
    exact ⟨Fields.distinct_singleton _ _, hf, trivial⟩
  | setRef xs => exact hd

end Value

end QueryWire

/-
  Equality of values is an equivalence and does not see the order of fields.

  Arrays are equal item by item (`same_array_iff`), objects and set references
  are equal when their fields are matched (`same_object_iff`); everything else
  is equal only to itself (`same_leaf_iff`).  By these laws and
  `Value.induction`, `same` is reflexive and symmetric on values with distinct
  keys, and transitive on all (`same_refl`, `same_symm`, `same_trans`).

  `Exchanged v w a b` says that `b` is `a` with `w` at one place where `a` has
  `v`, at any depth.  Then `a` and `b` are equal exactly if `v` and `w` are
  (`same_of_exchanged_iff`), so a chain of rearranged fields stays within one
  class (`same_of_reordered`).
-/
import QueryWire.Proofs.Fields
import QueryWire.Proofs.Wire.Tree
import QueryWire.Value.Same
import Mathlib.Logic.Relation

namespace QueryWire.Value

/-! ## Kinds -/

theorem same_leaf_iff {v : Value} (hl : v.isLeaf = true) (w : Value) :
    v.same w = true ↔ v = w := by
  cases v with
  | array items => cases hl
  | object fields => cases hl
  | setRef parameters => cases hl
  | _ => cases w <;> simp [same]

theorem sameItems_iff (xs ys : List Value) :
    sameItems xs ys = true ↔ List.Forall₂ (same · ·) xs ys := by
  induction xs generalizing ys with
  | nil => cases ys <;> simp [sameItems]
  | cons x xs ih => cases ys <;> simp [sameItems, ih]

theorem sameFields_iff (xs ys : List (String × Value)) :
    sameFields xs ys = true ↔ ∀ p ∈ xs, ∃ y, Fields.get? p.1 ys = some y ∧ same p.2 y = true := by
  induction xs with
  | nil => simp [sameFields]
  | cons p xs ih =>
    rw [sameFields, Bool.and_eq_true, ih, List.forall_mem_cons]
    refine and_congr_left fun _ => ?_
    cases Fields.get? p.1 ys <;> simp

theorem same_array_iff {xs : List Value} {w : Value} :
    same (.array xs) w = true ↔ ∃ ys, w = .array ys ∧ List.Forall₂ (same · ·) xs ys := by
  cases w <;> simp [same, sameItems_iff]

theorem same_object_iff {xs : List (String × Value)} {w : Value} :
    same (.object xs) w = true ↔ ∃ ys, w = .object ys ∧ Fields.Matched (same · ·) xs ys := by
  cases w <;> simp [same, sameFields_iff, Fields.Matched]

theorem same_setRef_iff {xs : List (String × Value)} {w : Value} :
    same (.setRef xs) w = true ↔ ∃ ys, w = .setRef ys ∧ Fields.Matched (same · ·) xs ys := by
  cases w <;> simp [same, sameFields_iff, Fields.Matched]

/-! ## An equivalence -/

theorem Distinct.item {items : List Value} (h : Distinct (.array items)) :
    ∀ v ∈ items, v.Distinct :=
  (distinctItems_iff items).mp h

theorem Distinct.field {fields : List (String × Value)} (h : Distinct (.object fields)) :
    ∀ q ∈ fields, q.2.Distinct :=
  (distinctFields_iff fields).mp h.2

theorem Distinct.parameter {parameters : List (String × Value)}
    (h : Distinct (.setRef parameters)) : ∀ q ∈ parameters, q.2.Distinct :=
  (distinctFields_iff parameters).mp h.2

theorem same_refl {v : Value} (h : v.Distinct) : v.same v = true := by
  induction v using induction with
  | leaf v hl => exact (same_leaf_iff hl v).mpr rfl
  | array items ih =>
    have hi : List.Forall₂ (same · ·) items items :=
      List.forall₂_same.mpr fun v hv => ih v hv (h.item v hv)
    exact same_array_iff.mpr ⟨items, rfl, hi⟩
  | object fields ih =>
    have hf : Fields.Matched (same · ·) fields fields :=
      .refl h.1 fun q hq => ih q hq (h.field q hq)
    exact same_object_iff.mpr ⟨fields, rfl, hf⟩
  | setRef parameters ih =>
    have hp : Fields.Matched (same · ·) parameters parameters :=
      .refl h.1 fun q hq => ih q hq (h.parameter q hq)
    exact same_setRef_iff.mpr ⟨parameters, rfl, hp⟩

theorem same_symm {v w : Value} (h : v.Distinct) (hs : v.same w = true) :
    w.same v = true := by
  induction v using induction generalizing w with
  | leaf v hl =>
    cases (same_leaf_iff hl w).mp hs
    exact hs
  | array xs ih =>
    obtain ⟨ys, rfl, hi⟩ := same_array_iff.mp hs
    have hi' : List.Forall₂ (fun x y => y.same x = true) xs ys :=
      forall₂_imp hi fun x hx y => ih x hx (h.item x hx)
    exact same_array_iff.mpr ⟨xs, rfl, hi'.flip⟩
  | object xs ih =>
    obtain ⟨ys, rfl, hf⟩ := same_object_iff.mp hs
    exact same_object_iff.mpr
      ⟨xs, rfl, hf.symm h.1 fun q hq y hy => ih q hq (h.field q hq) hy⟩
  | setRef xs ih =>
    obtain ⟨ys, rfl, hf⟩ := same_setRef_iff.mp hs
    exact same_setRef_iff.mpr
      ⟨xs, rfl, hf.symm h.1 fun q hq y hy => ih q hq (h.parameter q hq) hy⟩

theorem same_trans {u v w : Value} (h : u.same v = true) (h' : v.same w = true) :
    u.same w = true := by
  induction u using induction generalizing v w with
  | leaf u hl =>
    cases (same_leaf_iff hl v).mp h
    exact h'
  | array xs ih =>
    obtain ⟨ys, rfl, hi⟩ := same_array_iff.mp h
    obtain ⟨zs, rfl, hi'⟩ := same_array_iff.mp h'
    exact same_array_iff.mpr ⟨zs, rfl, forall₂_trans hi hi' fun x hx y z => ih x hx⟩
  | object xs ih =>
    obtain ⟨ys, rfl, hf⟩ := same_object_iff.mp h
    obtain ⟨zs, rfl, hf'⟩ := same_object_iff.mp h'
    exact same_object_iff.mpr ⟨zs, rfl, hf.trans hf' fun q hq y z => ih q hq⟩
  | setRef xs ih =>
    obtain ⟨ys, rfl, hf⟩ := same_setRef_iff.mp h
    obtain ⟨zs, rfl, hf'⟩ := same_setRef_iff.mp h'
    exact same_setRef_iff.mpr ⟨zs, rfl, hf.trans hf' fun q hq y z => ih q hq⟩

/-! ## One exchanged part -/

/-- The second value is the first one with `w` at one place where that has `v`. -/
inductive Exchanged (v w : Value) : Value → Value → Prop
  | here : Exchanged v w v w
  | item (front back : List Value) {a b : Value} : Exchanged v w a b →
      Exchanged v w (.array (front ++ a :: back)) (.array (front ++ b :: back))
  | field (k : String) (front back : List (String × Value)) {a b : Value} : Exchanged v w a b →
      Exchanged v w (.object (front ++ (k, a) :: back)) (.object (front ++ (k, b) :: back))
  | parameter (k : String) (front back : List (String × Value)) {a b : Value} :
      Exchanged v w a b →
      Exchanged v w (.setRef (front ++ (k, a) :: back)) (.setRef (front ++ (k, b) :: back))

theorem matched_exchanged_iff {k : String} {a b : Value} {front back : List (String × Value)}
    (hd : Fields.Distinct (front ++ (k, a) :: back))
    (hf : ∀ q ∈ front ++ (k, a) :: back, q.2.Distinct) :
    Fields.Matched (same · ·) (front ++ (k, a) :: back) (front ++ (k, b) :: back) ↔
      a.same b = true :=
  Fields.matched_exchange_iff hd fun q hq => same_refl (hf q (Fields.mem_middle_iff.mpr (.inr hq)))

/-- The rest of the value has no say in whether it is equal to the other one. -/
theorem same_of_exchanged_iff {v w a b : Value} (h : Exchanged v w a b) (hd : a.Distinct) :
    a.same b = true ↔ v.same w = true := by
  induction h with
  | here => exact Iff.rfl
  | item front back _ ih =>
    have hi : ∀ x ∈ front ++ back, x.same x = true :=
      fun x hx => same_refl (hd.item x (Fields.mem_middle_iff.mpr (.inr hx)))
    obtain ⟨hf, hb⟩ := List.forall_mem_append.mp hi
    rw [← ih (hd.item _ (by simp)), same_array_iff]
    simp only [array.injEq, exists_eq_left']
    exact forall₂_exchange_iff hf hb
  | field k front back _ ih =>
    rw [← ih (hd.field (k, _) (by simp)), same_object_iff]
    simp only [object.injEq, exists_eq_left', matched_exchanged_iff hd.1 hd.field]
  | parameter k front back _ ih =>
    rw [← ih (hd.parameter (k, _) (by simp)), same_setRef_iff]
    simp only [setRef.injEq, exists_eq_left', matched_exchanged_iff hd.1 hd.parameter]

theorem distinct_middle {k : String} {a b : Value} {front back : List (String × Value)}
    (hd : Fields.Distinct (front ++ (k, a) :: back))
    (hf : ∀ q ∈ front ++ (k, a) :: back, q.2.Distinct) (hb : b.Distinct) :
    Fields.Distinct (front ++ (k, b) :: back) ∧ DistinctFields (front ++ (k, b) :: back) := by
  refine ⟨by simpa [Fields.Distinct, Fields.keys] using hd, (distinctFields_iff _).mpr ?_⟩
  intro q hq
  rcases Fields.mem_middle_iff.mp hq with rfl | hq
  · exact hb
  · exact hf q (Fields.mem_middle_iff.mpr (.inr hq))

theorem Exchanged.distinct {v w a b : Value} (h : Exchanged v w a b) (hd : a.Distinct) :
    v.Distinct := by
  induction h with
  | here => exact hd
  | item front back _ ih => exact ih (hd.item _ (by simp))
  | field k front back _ ih => exact ih (hd.field (k, _) (by simp))
  | parameter k front back _ ih => exact ih (hd.parameter (k, _) (by simp))

theorem distinct_of_exchanged {v w a b : Value} (h : Exchanged v w a b) (hd : a.Distinct)
    (hw : v.Distinct → w.Distinct) : b.Distinct := by
  induction h with
  | here => exact hw hd
  | item front back _ ih =>
    refine (distinctItems_iff _).mpr fun x hx => ?_
    rcases Fields.mem_middle_iff.mp hx with rfl | hx
    · exact ih (hd.item _ (by simp))
    · exact hd.item x (Fields.mem_middle_iff.mpr (.inr hx))
  | field k front back _ ih =>
    exact distinct_middle hd.1 hd.field (ih (hd.field (k, _) (by simp)))
  | parameter k front back _ ih =>
    exact distinct_middle hd.1 hd.parameter (ih (hd.parameter (k, _) (by simp)))

/-! ## The order of fields -/

/-- The fields of an object or the parameters of a set reference in another order. -/
inductive Shuffled : Value → Value → Prop
  | object {xs ys : List (String × Value)} : xs.Perm ys → Shuffled (.object xs) (.object ys)
  | setRef {xs ys : List (String × Value)} : xs.Perm ys → Shuffled (.setRef xs) (.setRef ys)

/-- One object or set reference in the value is shuffled, at any depth. -/
def ShuffledWithin (a b : Value) : Prop :=
  ∃ v w, Shuffled v w ∧ Exchanged v w a b

/-- The second value comes of the first one by any number of shuffles. -/
def Reordered : Value → Value → Prop :=
  Relation.ReflTransGen ShuffledWithin

theorem Shuffled.distinct {v w : Value} (h : Shuffled v w) (hd : v.Distinct) : w.Distinct := by
  cases h with
  | object h =>
    exact ⟨Fields.distinct_perm h hd.1,
      (distinctFields_iff _).mpr fun q hq => hd.field q (h.mem_iff.mpr hq)⟩
  | setRef h =>
    exact ⟨Fields.distinct_perm h hd.1,
      (distinctFields_iff _).mpr fun q hq => hd.parameter q (h.mem_iff.mpr hq)⟩

theorem Shuffled.same {v w : Value} (h : Shuffled v w) (hd : v.Distinct) : v.same w = true := by
  cases h with
  | object h =>
    exact same_object_iff.mpr
      ⟨_, rfl, Fields.matched_of_perm h hd.1 fun q hq => same_refl (hd.field q hq)⟩
  | setRef h =>
    exact same_setRef_iff.mpr
      ⟨_, rfl, Fields.matched_of_perm h hd.1 fun q hq => same_refl (hd.parameter q hq)⟩

theorem distinct_of_reordered {a b : Value} (h : Reordered a b) (hd : a.Distinct) :
    b.Distinct := by
  induction h with
  | refl => exact hd
  | tail _ hs ih =>
    obtain ⟨v, w, hs, he⟩ := hs
    exact distinct_of_exchanged he ih hs.distinct

theorem same_of_reordered {a b : Value} (h : Reordered a b) (hd : a.Distinct) :
    a.same b = true := by
  induction h with
  | refl => exact same_refl hd
  | tail h hs ih =>
    obtain ⟨v, w, hs, he⟩ := hs
    have hb := distinct_of_reordered h hd
    exact same_trans ih ((same_of_exchanged_iff he hb).mpr (hs.same (he.distinct hb)))

end QueryWire.Value

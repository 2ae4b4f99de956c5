/-
  Equality goes through escaping, through the forms and through writing.

  `Congruent e f` says that one call of the language makes both expressions, from
  arguments that are equal one by one.  All forms are objects made of pairs, and
  pairs that are equal one by one make matched fields, also if they repeat keys
  (`Expr.same_form`).  A request for a page is made by any number of settings;
  one setting keeps the slots of two requests equal (`Paginate.Alike.set`), hence
  so do all of them (`Paginate.Alike.setAll`).

  Congruent expressions are equal (`same_of_congruent`), so a call within a call
  is covered by going from the inside to the outside.
-/
import QueryWire.Proofs.Catalogue.Reading
import QueryWire.Proofs.Wire.Rearranging

namespace QueryWire

namespace Expr

variable {xs ys : List (String × Expr)} {es fs : List Expr} {a b : Expr}

/-! ## Objects and lists -/

theorem same_refl {e : Expr} (h : e.tree.Distinct) : e.same e = true :=
  Value.same_refl h

theorem same_ofString (s : String) : (ofString s).same (ofString s) = true :=
  same_refl trivial

/-- The keys are the same and the expressions equal, pair by pair. -/
def SamePairs (xs ys : List (String × Expr)) : Prop :=
  List.Forall₂ (fun p q => p.1 = q.1 ∧ p.2.same q.2 = true) xs ys

theorem SamePairs.cons (k : String) (h : a.same b = true) (hr : SamePairs xs ys) :
    SamePairs ((k, a) :: xs) ((k, b) :: ys) :=
  List.Forall₂.cons ⟨rfl, h⟩ hr

theorem SamePairs.append {xs' ys' : List (String × Expr)} (h : SamePairs xs ys)
    (h' : SamePairs xs' ys') : SamePairs (xs ++ xs') (ys ++ ys') :=
  List.rel_append h h'

theorem SamePairs.matched (h : SamePairs xs ys) :
    Fields.Matched (Value.same · ·) (Fields.ofPairs (xs.map fun p => (p.1, p.2.tree)))
      (Fields.ofPairs (ys.map fun p => (p.1, p.2.tree))) := by
  have ht : List.Forall₂ (fun p q => p.1 = q.1 ∧ p.2.same q.2 = true)
      (xs.map fun p => (p.1, p.2.tree)) (ys.map fun p => (p.1, p.2.tree)) := by
    rw [List.forall₂_map_left_iff, List.forall₂_map_right_iff]
    exact h
  have hf := Fields.forall₂_ofPairs (R := fun v w => Value.same v w = true) ht
  exact Fields.matched_of_forall₂ hf (Fields.distinct_ofPairs _)

theorem same_form (h : SamePairs xs ys) : (form xs).same (form ys) = true :=
  Value.same_object_iff.mpr ⟨_, rfl, h.matched⟩

theorem distinct_form (h : ∀ p ∈ xs, p.2.tree.Distinct) : (form xs).tree.Distinct :=
  Value.distinct_ofPairs (List.forall_mem_map.mpr h)

theorem same_object (h : SamePairs xs ys) : (object xs).same (object ys) = true :=
  Value.same_object_iff.mpr
    ⟨_, rfl, Fields.matched_singleton_iff.mpr ⟨_, rfl, same_form h⟩⟩

theorem same_list (h : List.Forall₂ (same · ·) es fs) : (list es).same (list fs) = true := by
  refine Value.same_array_iff.mpr ⟨_, rfl, ?_⟩
  rw [List.forall₂_map_left_iff, List.forall₂_map_right_iff]
  exact h

end Expr

namespace Query

/-! ## Requests for a page -/

/-- The same side, with equal positions. -/
inductive Cursor.Same : Cursor → Cursor → Prop
  | before {e f : Expr} : e.same f = true → Same (.before e) (.before f)
  | after {e f : Expr} : e.same f = true → Same (.after e) (.after f)

namespace Paginate

/-- A setting of the same slot, to an equal expression or to the same number or flag. -/
inductive Setting.Same : Setting → Setting → Prop
  | ts {e f : Expr} : e.same f = true → Same (.ts e) (.ts f)
  | cursor {c d : Cursor} : c.Same d → Same (.cursor c) (.cursor d)
  | size (n : Int64) : Same (.size n) (.size n)
  | events (b : Bool) : Same (.events b) (.events b)
  | sources (b : Bool) : Same (.sources b) (.sources b)

/-- The same slots are set, to equal expressions. -/
structure Alike (p q : Paginate) : Prop where
  resource : p.resource.same q.resource = true
  ts : Option.Rel (Expr.same · ·) p.ts q.ts
  cursor : Option.Rel Cursor.Same p.cursor q.cursor
  size : p.size = q.size
  events : p.events = q.events
  sources : p.sources = q.sources

variable {p q : Paginate}

theorem Alike.set {s t : Setting} (h : p.Alike q) (hs : s.Same t) : (p.set s).Alike (q.set t) := by
  cases hs with
  | ts he => exact { h with ts := .some he }
  | cursor hc => exact { h with cursor := .some hc }
  | size n => exact { h with size := rfl }
  | events b => exact { h with events := rfl }
  | sources b => exact { h with sources := rfl }

theorem Alike.setAll {settings settings' : List Setting} (h : p.Alike q)
    (hs : List.Forall₂ Setting.Same settings settings') :
    (p.setAll settings).Alike (q.setAll settings') := by
  induction hs generalizing p q with
  | nil => exact h
  | cons hst _ ih => exact ih (h.set hst)

theorem samePairs_ts {o o' : Option Expr} (h : Option.Rel (Expr.same · ·) o o') :
    Expr.SamePairs (o.toList.map fun e => ("ts", e)) (o'.toList.map fun e => ("ts", e)) := by
  cases h with
  | none => exact .nil
  | some he => exact .cons "ts" he .nil

theorem samePairs_cursor {o o' : Option Cursor} (h : Option.Rel Cursor.Same o o') :
    Expr.SamePairs (o.toList.map cursorPair) (o'.toList.map cursorPair) := by
  cases h with
  | none => exact .nil
  | some hc =>
    cases hc with
    | before he => exact .cons "before" he .nil
    | after he => exact .cons "after" he .nil

theorem samePairs_size (o : Option Int64) :
    Expr.SamePairs (o.toList.map fun n => ("size", Expr.ofInt64 n))
      (o.toList.map fun n => ("size", Expr.ofInt64 n)) := by
  cases o with
  | none => exact .nil
  | some n => exact .cons "size" (Expr.same_refl trivial) .nil

theorem samePairs_flag (key : String) (b : Bool) : Expr.SamePairs (flag key b) (flag key b) := by
  cases b with
  | false => exact .nil
  | true => exact .cons key (Expr.same_refl trivial) .nil

theorem Alike.pairs (h : p.Alike q) : Expr.SamePairs p.pairs q.pairs := by
  unfold Paginate.pairs
  rw [h.size, h.events, h.sources]
  refine .cons "paginate" h.resource ?_
  exact ((((samePairs_ts h.ts).append (samePairs_cursor h.cursor)).append
    (samePairs_size _)).append (samePairs_flag _ _)).append (samePairs_flag _ _)

end Paginate

/-! ## Calls -/

/-- One call makes both expressions, from arguments that are equal one by one;
    names, units, actions, paths, numbers and flags are the same. -/
inductive Congruent : Expr → Expr → Prop
  | object {xs ys : List (String × Expr)} :
      Expr.SamePairs xs ys → Congruent (.object xs) (.object ys)
  | list {es fs : List Expr} :
      List.Forall₂ (Expr.same · ·) es fs → Congruent (.list es) (.list fs)
  | form {xs ys : List (String × Expr)} :
      Expr.SamePairs xs ys → Congruent (.form xs) (.form ys)
  | letIn {xs ys : List (String × Expr)} {a b : Expr} :
      Expr.SamePairs xs ys → a.same b = true → Congruent (letIn xs a) (letIn ys b)
  | ifThenElse {a b c a' b' c' : Expr} : a.same a' = true → b.same b' = true →
      c.same c' = true → Congruent (ifThenElse a b c) (ifThenElse a' b' c')
  | lambda (parameter : String) {a b : Expr} :
      a.same b = true → Congruent (lambda parameter a) (lambda parameter b)
  | unary (f : Unary) {a b : Expr} : a.same b = true → Congruent (f.build a) (f.build b)
  | binary (f : Binary) {a b a' b' : Expr} : a.same a' = true → b.same b' = true →
      Congruent (f.build a b) (f.build a' b')
  | listed (f : Listed) {es fs : List Expr} :
      List.Forall₂ (Expr.same · ·) es fs → Congruent (f.build es) (f.build fs)
  | insert (action : Action) {a b c a' b' c' : Expr} : a.same a' = true → b.same b' = true →
      c.same c' = true → Congruent (insert a b action c) (insert a' b' action c')
  | remove (action : Action) {a b a' b' : Expr} : a.same a' = true → b.same b' = true →
      Congruent (remove a b action) (remove a' b' action)
  | concatWith {es fs : List Expr} {a b : Expr} : List.Forall₂ (Expr.same · ·) es fs →
      a.same b = true → Congruent (concatWith es a) (concatWith fs b)
  | epoch (unit : TimeUnit) {a b : Expr} :
      a.same b = true → Congruent (epoch a unit) (epoch b unit)
  | contains (segments : List Segment) {a b : Expr} :
      a.same b = true → Congruent (contains segments a) (contains segments b)
  | select (segments : List Segment) {a b : Expr} :
      a.same b = true → Congruent (select segments a) (select segments b)
  | paginate {a b : Expr} {settings settings' : List Paginate.Setting} : a.same b = true →
      List.Forall₂ Paginate.Setting.Same settings settings' →
      Congruent (Paginate.setAll { resource := a } settings).expr
        (Paginate.setAll { resource := b } settings').expr

theorem Unary.build_eq_form (f : Unary) (e : Expr) : f.build e = .form [(f.word, e)] := by
  cases f <;> rfl

theorem Binary.build_eq_form (f : Binary) (a b : Expr) :
    f.build a b = .form [(f.words.1, a), (f.words.2, b)] := by
  cases f <;> rfl

theorem Listed.build_eq_form (f : Listed) (es : List Expr) :
    f.build es = .form [(f.word, .list es)] := by
  cases f <;> rfl

theorem same_path (segments : List Segment) : (path segments).same (path segments) = true := by
  refine Expr.same_list (List.forall₂_same.mpr (List.forall_mem_map.mpr fun segment _ => ?_))
  cases segment with
  | field name => exact Expr.same_refl trivial
  | index n => exact Expr.same_refl trivial

theorem same_of_congruent {e f : Expr} (h : Congruent e f) : e.same f = true := by
  cases h with
  | object h => exact Expr.same_object h
  | list h => exact Expr.same_list h
  | form h => exact Expr.same_form h
  | letIn h hb => exact Expr.same_form (.cons _ (Expr.same_form h) (.cons _ hb .nil))
  | ifThenElse ha hb hc => exact Expr.same_form (.cons _ ha (.cons _ hb (.cons _ hc .nil)))
  | lambda parameter hb =>
    exact Expr.same_form (.cons _ (Expr.same_ofString parameter) (.cons _ hb .nil))
  | unary f h =>
    rw [f.build_eq_form, f.build_eq_form]
    exact Expr.same_form (.cons _ h .nil)
  | binary f ha hb =>
    rw [f.build_eq_form, f.build_eq_form]
    exact Expr.same_form (.cons _ ha (.cons _ hb .nil))
  | listed f h =>
    rw [f.build_eq_form, f.build_eq_form]
    exact Expr.same_form (.cons _ (Expr.same_list h) .nil)
  | insert action ha hb hc =>
    exact Expr.same_form
      (.cons _ ha (.cons _ hb (.cons _ (Expr.same_ofString _) (.cons _ hc .nil))))
  | remove action ha hb =>
    exact Expr.same_form (.cons _ ha (.cons _ hb (.cons _ (Expr.same_ofString _) .nil)))
  | concatWith h hb => exact Expr.same_form (.cons _ (Expr.same_list h) (.cons _ hb .nil))
  | epoch unit h => exact Expr.same_form (.cons _ h (.cons _ (Expr.same_ofString _) .nil))
  | contains segments h => exact Expr.same_form (.cons _ (same_path segments) (.cons _ h .nil))
  | select segments h => exact Expr.same_form (.cons _ (same_path segments) (.cons _ h .nil))
  | @paginate a b _ _ h hs =>
    have hp : Paginate.Alike { resource := a } { resource := b } :=
      ⟨h, .none, .none, rfl, rfl, rfl⟩
    exact Expr.same_form (hp.setAll hs).pairs

end Query

namespace Expr

/-- Escaped values are equal exactly if the values are.  Equal values are written
    as one document or not at all, plain and escaped.  What one call makes of
    equal arguments is equal and written as one document or not at all, too. -/
theorem respects_same :
    (∀ v w : Value, v.same w = true ↔ (escape v).same (escape w) = true) ∧
    (∀ v w : Value, v.Distinct → v.same w = true →
      WrittenAlike v.text w.text ∧ WrittenAlike (escape v).text (escape w).text) ∧
    ∀ e f : Expr, Query.Congruent e f →
      e.same f = true ∧ (e.tree.Distinct → WrittenAlike e.text f.text) := by
  refine ⟨?_, ?_, ?_⟩
  · exact fun v w => Value.same_escaped_iff.symm
  · intro v w hd h
    have he : v.escaped.same w.escaped = true := Value.same_escaped_iff.mpr h
    exact ⟨Value.writtenAlike_text hd h,
      Value.writtenAlike_text (Value.distinct_escaped hd) he⟩
  · intro e f h
    have hs : e.tree.same f.tree = true := Query.same_of_congruent h
    exact ⟨hs, fun hd => Value.writtenAlike_text hd hs⟩

/-- An object and a set reference within it, both in one of two orders. -/
def twoOrders (swapped : Bool) : Value :=
  let zero : String × Value := ("x", .double (.zero true))
  let flag : String × Value := ("y", .boolean true)
  let set : String × Value := ("set", .setRef (if swapped then [flag, zero] else [zero, flag]))
  .object (if swapped then [("id", .integer 7), set] else [set, ("id", .integer 7)])

/-- A page that begins behind such an object. -/
def pageAfter (swapped : Bool) : Expr :=
  (Query.Paginate.setAll { resource := Query.var "s" }
    [.size 5, .cursor (.after (escape (twoOrders swapped)))]).expr

theorem respects_same_twoOrders :
    (twoOrders false).same (twoOrders true) = true ∧
    WrittenAlike (twoOrders false).text (twoOrders true).text ∧
    WrittenAlike (escape (twoOrders false)).text (escape (twoOrders true)).text ∧
    (pageAfter false).same (pageAfter true) = true ∧
    ∃ s t, (pageAfter false).text = .ok s ∧ (pageAfter true).text = .ok t ∧ s ≠ t ∧
      Json.SameDocument s t := by
  obtain ⟨hescape, hwrite, hform⟩ := respects_same
  have hd : (twoOrders false).Distinct := by
    simp [twoOrders, Value.Distinct, Value.DistinctFields, Fields.Distinct, Fields.keys]
  have hs : (twoOrders false).same (twoOrders true) = true := by decide
  have hvar : (Query.var "s").tree.Distinct := ⟨Fields.distinct_singleton _ _, trivial, trivial⟩
  have hp : (pageAfter false).tree.Distinct :=
    distinct_form (List.forall_mem_cons.mpr ⟨hvar, List.forall_mem_cons.mpr
      ⟨Value.distinct_escaped hd, List.forall_mem_singleton.mpr trivial⟩⟩)
  have hc : Query.Congruent (pageAfter false) (pageAfter true) :=
    .paginate (by decide)
      (.cons (.size 5) (.cons (.cursor (.after ((hescape _ _).mp hs))) .nil))
  obtain ⟨hv, he⟩ := hwrite _ _ hd hs
  obtain ⟨hsame, hw⟩ := hform _ _ hc
  refine ⟨hs, hv, he, hsame, _, _, rfl, rfl, by decide +kernel, ?_⟩
  cases hw hp with
  | texts h => exact h

end Expr

end QueryWire

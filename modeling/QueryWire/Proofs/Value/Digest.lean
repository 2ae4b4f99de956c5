/-
  Equal values are hashed alike.

  The digests of the fields are added up, and a sum does not depend on the
  order (`fieldSum_perm`); so matched fields whose values are fed alike have
  equal sums (`fieldSum_of_matched`).  By induction over the value, equal
  values feed the same words, whatever function digests a single field
  (`feed_eq_of_same`).  Hence a set of values can look at hashes first and
  still finds every equal member (`insertNew_eq`).
-/
import QueryWire.Proofs.Value.Equality
import QueryWire.Value.Digest

namespace QueryWire.Value

variable {digest : List Word → Word}

/-- The values feed the same words. -/
def FedAlike (digest : List Word → Word) (v w : Value) : Prop :=
  feed digest v = feed digest w

/-! ## Sums of digests -/

theorem fieldSum_perm {xs ys : List (String × Value)} (h : xs.Perm ys) :
    fieldSum digest xs = fieldSum digest ys := by
  induction h with
  | nil => rfl
  | cons p _ ih => rw [fieldSum, fieldSum, ih]
  | swap p q rest =>
    rw [fieldSum, fieldSum, fieldSum, fieldSum, ← UInt64.add_assoc, ← UInt64.add_assoc,
      UInt64.add_comm (digest _)]
  | trans _ _ ih ih' => exact ih.trans ih'

theorem fieldSum_congr {xs ys : List (String × Value)}
    (h : List.Forall₂ (fun p q => p.1 = q.1 ∧ FedAlike digest p.2 q.2) xs ys) :
    fieldSum digest xs = fieldSum digest ys := by
  induction h with
  | nil => rfl
  | @cons p q xs ys hpq _ ih =>
    have hw : feed digest p.2 = feed digest q.2 := hpq.2
    rw [fieldSum, fieldSum, hpq.1, hw, ih]

theorem fieldSum_of_matched {xs ys : List (String × Value)} (hd : Fields.Distinct xs)
    (h : Fields.Matched (FedAlike digest) xs ys) :
    fieldSum digest xs = fieldSum digest ys := by
  obtain ⟨zs, hz, hf⟩ := h.exists_perm hd
  exact (fieldSum_congr hf).trans (fieldSum_perm hz)

theorem feedItems_congr {xs ys : List Value} (h : List.Forall₂ (FedAlike digest) xs ys) :
    feedItems digest xs = feedItems digest ys := by
  induction h with
  | nil => rfl
  | @cons x y xs ys hxy _ ih =>
    have hw : feed digest x = feed digest y := hxy
    rw [feedItems, feedItems, hw, ih]

/-! ## Equal values -/

theorem feed_eq_of_same {v w : Value} (hd : v.Distinct) (h : v.same w = true) :
    feed digest v = feed digest w := by
  induction v using induction generalizing w with
  | leaf v hl => rw [(same_leaf_iff hl w).mp h]
  | array xs ih =>
    obtain ⟨ys, rfl, hi⟩ := same_array_iff.mp h
    have hi' : List.Forall₂ (FedAlike digest) xs ys :=
      forall₂_imp hi fun x hx y => ih x hx (hd.item x hx)
    rw [feed, feed, hi.length_eq, feedItems_congr hi']
  | object xs ih =>
    obtain ⟨ys, rfl, hf⟩ := same_object_iff.mp h
    have hf' : Fields.Matched (FedAlike digest) xs ys :=
      hf.imp fun q hq y hy => ih q hq (hd.field q hq) hy
    rw [feed, feed, hf.1, fieldSum_of_matched hd.1 hf']
  | setRef xs ih =>
    obtain ⟨ys, rfl, hf⟩ := same_setRef_iff.mp h
    have hf' : Fields.Matched (FedAlike digest) xs ys :=
      hf.imp fun q hq y hy => ih q hq (hd.parameter q hq) hy
    rw [feed, feed, hf.1, fieldSum_of_matched hd.1 hf']

theorem hash_eq_of_same {v w : Value} (hd : v.Distinct) (h : v.same w = true) :
    v.hash = w.hash :=
  congrArg mixedDigest (feed_eq_of_same hd h)

/-- The look at the hashes does not change what counts as new. -/
theorem insertNew_eq {v : Value} {members : List Value} (hm : ∀ w ∈ members, w.Distinct) :
    insertNew v members =
      if members.any (same · v) then (false, members) else (true, members ++ [v]) := by
  have hany : members.any (fun w => hash w == hash v && same w v) = members.any (same · v) := by
    rw [Bool.eq_iff_iff, List.any_eq_true, List.any_eq_true]
    refine exists_congr fun w => and_congr_right fun hw => ?_
    rw [Bool.and_eq_true]
    exact and_iff_right_of_imp fun hs => beq_iff_eq.mpr (hash_eq_of_same (hm w hw) hs)
  rw [insertNew, hany]

/-- On values with distinct keys, equality is an equivalence.  A value that holds
    no others is equal to itself only.  Equality does not see the order of
    fields, but that of items, at any depth; and equal values feed the same
    words to a hash function, for every digest of the single fields. -/
theorem equality_laws :
    Equivalence (fun a b : { v : Value // v.Distinct } => a.1.same b.1 = true) ∧
    (∀ a b : Value, a.isLeaf = true → (a.same b = true ↔ a = b)) ∧
    (∀ a b : Value, a.Distinct → Reordered a b → a.same b = true) ∧
    (∀ (xs ys : List Value) (a b : Value), a.Distinct → Exchanged (.array xs) (.array ys) a b →
      (a.same b = true ↔ List.Forall₂ (same · ·) xs ys)) ∧
    ∀ a b : Value, a.Distinct → a.same b = true →
      (∀ digest : List Word → Word, feed digest a = feed digest b) ∧ a.hash = b.hash := by
  refine ⟨⟨fun a => same_refl a.2, fun {a b} => same_symm a.2, same_trans⟩, ?_, ?_, ?_, ?_⟩
  · exact fun a b hl => same_leaf_iff hl b
  · exact fun a b ha h => same_of_reordered h ha
  · intro xs ys a b ha h
    rw [same_of_exchanged_iff h ha, same_array_iff]
    simp only [array.injEq, exists_eq_left']
  · exact fun a b ha h => ⟨fun digest => feed_eq_of_same ha h, hash_eq_of_same ha h⟩

/-- A NaN and a negative zero in a set reference, beside an array. -/
def twoDoubles (swapped : Bool) (items : List Value) : Value :=
  let nan : String × Value := ("x", .double ⟨0x7FF8000000000001⟩)
  let zero : String × Value := ("y", .double (.zero true))
  .object [("set", .setRef (if swapped then [zero, nan] else [nan, zero])),
    ("items", .array items)]

theorem equality_laws_twoDoubles :
    (twoDoubles false [.null, .string ""]).same (twoDoubles true [.null, .string ""]) = true ∧
    (twoDoubles false [.null, .string ""]).hash = (twoDoubles true [.null, .string ""]).hash ∧
    (twoDoubles false [.null, .string ""]).same (twoDoubles false [.string "", .null]) = false ∧
    (double (.zero true)).same (.double (.zero false)) = false := by
  have hd : (twoDoubles false [.null, .string ""]).Distinct := by
    simp [twoDoubles, Distinct, DistinctFields, DistinctItems, Fields.Distinct, Fields.keys]
  have hr : Reordered (twoDoubles false [.null, .string ""])
      (twoDoubles true [.null, .string ""]) :=
    .single ⟨_, _, .setRef (.swap _ _ _), .field "set" [] _ .here⟩
  have hx : Exchanged (.array [.null, .string ""]) (.array [.string "", .null])
      (twoDoubles false [.null, .string ""]) (twoDoubles false [.string "", .null]) :=
    .field "items" [_] [] .here
  have hz : Value.double (.zero true) ≠ .double (.zero false) :=
    fun h => absurd (Value.double.inj h) (by decide)
  obtain ⟨-, hleaf, hshuffle, hitems, hfeed⟩ := equality_laws
  have hs := hshuffle _ _ hd hr
  refine ⟨hs, (hfeed _ _ hd hs).2, ?_, ?_⟩
  · rw [← Bool.not_eq_true, hitems _ _ _ _ hd hx]
    simp [same]
  · rw [← Bool.not_eq_true, hleaf _ _ rfl]
    exact hz

end QueryWire.Value

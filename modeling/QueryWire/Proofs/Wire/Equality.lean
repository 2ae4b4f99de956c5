/-
  Equality of documents and of what they are decoded to.

  Documents are compared up to the order of members and in the arithmetic sense,
  values up to the order of fields and bit by bit.  Decoding looks at the shape
  of an object: its only key, and whether a text or an object is below it.
  Equal objects have the same shape, so they are taken for the same special or
  wrapper, and no part of them gets lost; what is left to compare are the
  floating point numbers (`Codec.tracks`).
-/
import QueryWire.LazyValue
import QueryWire.Proofs.Json.Equality
import QueryWire.Proofs.Json.Keys
import QueryWire.Proofs.Value.Digest
import QueryWire.Proofs.Wire.Decoding

namespace QueryWire

open Json (Node Number)

namespace Codec

variable {codec : Codec}

/-- Whatever is equal to the tree is decoded to an equal value exactly if its
    floating point numbers are the same. -/
def Tracks (codec : Codec) (a : Node) : Prop :=
  a.Distinct → ∀ b, a.same b = true →
    ((codec.decode a).same (codec.decode b) = true ↔ a.SameFloats b)

/-! ## Leaves -/

theorem number_same_iff {m n : Number} (h : m.same n = true) :
    m.toValue.same n.toValue = true ↔ m = n := by
  constructor
  · intro hs
    rcases Number.same_iff.mp h with he | ⟨s, hx, hy, rfl, rfl⟩
    · exact he
    · have he : Binary64.zero s = .zero (!s) := by
        simpa [Number.toValue, Number.int64?, Number.toDouble, Value.same] using hs
      cases s <;> exact absurd he (by decide)
  · rintro rfl
    exact Value.same_refl m.distinct_toValue

theorem tracks_leaf {a : Node} (hl : a.isLeaf = true) : codec.Tracks a := by
  intro hd b hab
  have hself : b = a → ((codec.decode a).same (codec.decode b) = true ↔ a.SameFloats b) := by
    rintro rfl
    exact iff_of_true (Value.same_refl (codec.distinct_decode _ hd)) (.refl _)
  cases a with
  | array _ | object _ => cases hl
  | number m =>
    obtain ⟨n, rfl, hmn⟩ := Node.same_number_iff.mp hab
    exact (number_same_iff hmn).trans (Node.sameFloats_number_iff hmn).symm
  | null | bool _ | string _ =>
    refine hself ?_
    cases b <;> simp_all [Node.same]

/-! ## Arrays -/

theorem tracks_array {xs : List Node} (h : ∀ x ∈ xs, codec.Tracks x) :
    codec.Tracks (.array xs) := by
  intro hd b hab
  obtain ⟨ys, rfl, hi⟩ := Node.same_array_iff.mp hab
  have hxs : ∀ x ∈ xs, ∀ y, x.same y = true →
      ((codec.decode x).same (codec.decode y) = true ↔ x.SameFloats y) :=
    fun x hx y hxy => h x hx (hd.item x hx) y hxy
  rw [Node.sameFloats_array_iff hi.length_eq, ← forall₂_iff_forall₂ hi hxs]
  simp only [decode, decodeItems_eq_map, Value.same_array_iff, Value.array.injEq,
    exists_eq_left', List.forall₂_map_left_iff, List.forall₂_map_right_iff]

/-! ## Objects -/

section

variable {xs ys : List (String × Node)}

/-- The decoded entries are matched exactly if the floating point numbers are the
    same. -/
theorem matched_decodeEntries_iff (h : ∀ p ∈ xs, codec.Tracks p.2)
    (hd : Node.Distinct (.object xs)) (hm : Fields.Matched (Node.same · ·) xs ys) :
    Fields.Matched (Value.same · ·) (codec.decodeEntries xs) (codec.decodeEntries ys) ↔
      (Node.object xs).SameFloats (.object ys) := by
  have hxs : ∀ p ∈ xs, ∀ y, p.2.same y = true →
      ((codec.decode p.2).same (codec.decode y) = true ↔ p.2.SameFloats y) :=
    fun p hp y hy => h p hp (hd.entry p hp) y hy
  rw [Node.sameFloats_object_iff hd.1 hm, decodeEntries_eq_mapValues, decodeEntries_eq_mapValues,
    Fields.matched_mapValues]
  exact hm.congr hxs

theorem same_object_decodeEntries_iff (h : ∀ p ∈ xs, codec.Tracks p.2)
    (hd : Node.Distinct (.object xs)) (hm : Fields.Matched (Node.same · ·) xs ys) :
    Value.same (.object (codec.decodeEntries xs)) (.object (codec.decodeEntries ys)) = true ↔
      (Node.object xs).SameFloats (.object ys) := by
  rw [Value.same_object_iff, ← matched_decodeEntries_iff h hd hm]
  simp only [Value.object.injEq, exists_eq_left']

theorem same_setRef_decodeEntries_iff (h : ∀ p ∈ xs, codec.Tracks p.2)
    (hd : Node.Distinct (.object xs)) (hm : Fields.Matched (Node.same · ·) xs ys) :
    Value.same (.setRef (codec.decodeEntries xs)) (.setRef (codec.decodeEntries ys)) = true ↔
      (Node.object xs).SameFloats (.object ys) := by
  rw [Value.same_setRef_iff, ← matched_decodeEntries_iff h hd hm]
  simp only [Value.setRef.injEq, exists_eq_left']

theorem sameFloats_entry_iff {k : String} {x y : Node} (hm : x.same y = true) :
    (Node.object [(k, x)]).SameFloats (.object [(k, y)]) ↔ x.SameFloats y := by
  have hs : Fields.Matched (Node.same · ·) [(k, x)] [(k, y)] :=
    Fields.matched_singleton_iff.mpr ⟨y, rfl, hm⟩
  rw [Node.sameFloats_object_iff (Fields.distinct_singleton k x) hs, Fields.matched_singleton_iff]
  simp

/-- The object is no special and no wrapper, whatever its only key may be. -/
def IsPlain (xs : List (String × Node)) : Prop :=
  (∀ k s, xs ≠ [(k, .string s)]) ∧ ∀ k inner, xs ≠ [(k, .object inner)]

theorem decode_of_isPlain (h : IsPlain xs) :
    codec.decode (.object xs) = .object (codec.decodeEntries xs) :=
  decode_entries (Node.atom?_eq_none h.1) h.2

theorem IsPlain.of_matched (h : IsPlain xs) (hm : Fields.Matched (Node.same · ·) xs ys) :
    IsPlain ys := by
  have hone : ∀ k y, ys = [(k, y)] → ∃ x, xs = [(k, x)] ∧ x.same y = true := by
    rintro k y rfl
    obtain ⟨⟨k', x⟩, rfl⟩ := List.length_eq_one_iff.mp hm.1
    obtain ⟨y', he, hxy⟩ := Fields.matched_singleton_iff.mp hm
    cases he
    exact ⟨x, rfl, hxy⟩
  refine ⟨fun k s he => ?_, fun k inner he => ?_⟩
  · obtain ⟨x, rfl, hx⟩ := hone k _ he
    cases x with
    | string t => exact h.1 k t rfl
    | _ => cases hx
  · obtain ⟨x, rfl, hx⟩ := hone k _ he
    cases x with
    | object es => exact h.2 k es rfl
    | _ => cases hx

/-- A tag or a wrapper is looked through, so that two levels count. -/
theorem tracks_object (h : ∀ p ∈ xs, codec.Tracks p.2)
    (hin : ∀ k inner, xs = [(k, .object inner)] → ∀ p ∈ inner, codec.Tracks p.2) :
    codec.Tracks (.object xs) := by
  intro hd b hab
  obtain ⟨ys, rfl, hm⟩ := Node.same_object_iff.mp hab
  by_cases hp : IsPlain xs
  · rw [decode_of_isPlain hp, decode_of_isPlain (hp.of_matched hm)]
    exact same_object_decodeEntries_iff h hd hm
  obtain ⟨k, x, rfl, hx⟩ :
      ∃ k x, xs = [(k, x)] ∧ ((∃ s, x = .string s) ∨ ∃ es, x = .object es) := by
    by_contra hn
    exact hp ⟨fun k s he => hn ⟨k, _, he, Or.inl ⟨s, rfl⟩⟩,
      fun k es he => hn ⟨k, _, he, Or.inr ⟨es, rfl⟩⟩⟩
  obtain ⟨y, rfl, hxy⟩ := Fields.matched_singleton_iff.mp hm
  rcases hx with ⟨s, rfl⟩ | ⟨es, rfl⟩
  · cases Node.same_string_iff.mp hxy
    exact iff_of_true (Value.same_refl (codec.distinct_decode _ hd)) (.refl _)
  · obtain ⟨fs, rfl, hmi⟩ := Node.same_object_iff.mp hxy
    have hes := hin k es rfl
    rw [decode_entry_object, decode_entry_object, sameFloats_entry_iff hxy]
    have hdi : Node.Distinct (.object es) := hd.entry (k, .object es) List.mem_cons_self
    split
    · exact same_setRef_decodeEntries_iff hes hdi hmi
    · split
      · exact same_object_decodeEntries_iff hes hdi hmi
      · rw [Value.same_object_iff, ← h (k, .object es) List.mem_cons_self hdi _ hxy]
        simp [Fields.matched_singleton_iff]

end

theorem tracks (codec : Codec) (a : Node) : codec.Tracks a := by
  have h : codec.Tracks a ∧ ∀ entries, a = .object entries → ∀ p ∈ entries, codec.Tracks p.2 := by
    induction a using Node.induction with
    | leaf a hl =>
      refine ⟨tracks_leaf hl, ?_⟩
      rintro entries rfl
      cases hl
    | array items ih => exact ⟨tracks_array fun a ha => (ih a ha).1, nofun⟩
    | object entries ih =>
      refine ⟨tracks_object (fun p hp => (ih p hp).1) ?_, ?_⟩
      · rintro k inner rfl
        exact (ih (k, .object inner) List.mem_cons_self).2 inner rfl
      · rintro _ ⟨⟩ p hp
        exact (ih p hp).1
  exact h.1

end Codec

namespace LazyValue

/-- No value that is read from a document repeats a key. -/
theorem distinct_of_parse {codec : Codec} {text : String} {v : LazyValue}
    (h : parse codec text = .ok v) : v.node.Distinct := by
  unfold parse at h
  split at h
  · rename_i hd
    cases h
    exact Json.distinct_of_document hd
  · cases h

/-- Equal lazy values of one codec are decoded to equal values, which are then
    hashed alike, exactly if no zero faces a zero of the other sign.  All else that
    equality does not see is not seen by decoding, either.  That no key is repeated
    holds of whatever was read (`distinct_of_parse`). -/
theorem same_toValue_iff {v w : LazyValue} (hd : v.node.Distinct) (hc : w.codec = v.codec)
    (h : v.same w = true) :
    (v.toValue.same w.toValue = true ↔ v.node.SameFloats w.node) ∧
    (v.toValue.same w.toValue = true → v.toValue.hash = w.toValue.hash ∧
      ∀ digest, Value.feed digest v.toValue = Value.feed digest w.toValue) ∧
    (v.node.SameFloats w.node ↔ ¬ ∃ path s hx hy,
      v.node.follow? path = some (.number (.float (.zero s) hx)) ∧
        w.node.follow? path = some (.number (.float (.zero (!s)) hy))) ∧
    ∀ path, Option.Rel (fun x y => x.same y = true) (v.node.follow? path)
      (w.node.follow? path) := by
  have hv : v.toValue.Distinct := v.codec.distinct_decode v.node hd
  have hs : v.toValue.same w.toValue = true ↔ v.node.SameFloats w.node := by
    unfold toValue
    rw [hc]
    exact v.codec.tracks v.node hd w.node h
  refine ⟨hs, fun ht => ⟨?_, fun digest => ?_⟩, Node.sameFloats_iff_zeros h,
    Node.follow?_rel hd h⟩
  · exact Value.hash_eq_of_same hv ht
  · exact Value.feed_eq_of_same hv ht

/-- A set reference below a wrapper, with its parameters in one of two orders and
    a zero of one of two signs among them. -/
def zeroText (swapped negative : Bool) : String :=
  let zero := if negative then "\"a\":-0.0" else "\"a\":0.0"
  let date := "\"b\":\x7b\"@date\":\"2020-01-05\"\x7d"
  "\x7b\"@obj\":\x7b\"@ts\":\x7b\"@set\":\x7b" ++
    (if swapped then date ++ "," ++ zero else zero ++ "," ++ date) ++ "\x7d\x7d\x7d\x7d"

/-- Read from its text, which statements about it need not do again. -/
@[irreducible]
def wrappedZero (swapped negative : Bool) : LazyValue :=
  (parse ⟨true⟩ (zeroText swapped negative)).toOption.getD ⟨.null, {}⟩

theorem parse_zeroText (swapped negative : Bool) :
    parse ⟨true⟩ (zeroText swapped negative) = .ok (wrappedZero swapped negative) := by
  have hs : (parse ⟨true⟩ (zeroText swapped negative)).toOption.isSome = true := by
    revert swapped negative
    decide +kernel
  unfold wrappedZero
  cases h : parse ⟨true⟩ (zeroText swapped negative) with
  | error fault =>
    rw [h] at hs
    cases hs
  | ok v => rfl

theorem follow?_wrappedZero (swapped negative : Bool) : ∃ hx,
    (wrappedZero swapped negative).node.follow?
        [.key "@obj", .key "@ts", .key "@set", .key "a"] =
      some (.number (.float (.zero negative) hx)) := by
  have hx : (Binary64.zero negative).isFinite = true := by cases negative <;> decide
  have hn : ((wrappedZero swapped negative).node.follow?
      [.key "@obj", .key "@ts", .key "@set", .key "a"]).bind Node.number? =
        some (.float (.zero negative) hx) := by
    revert swapped negative
    decide +kernel
  obtain ⟨node, hf, hn⟩ := Option.bind_eq_some_iff.mp hn
  cases node with
  | number n =>
    cases hn
    exact ⟨hx, hf⟩
  | _ => cases hn

/-- The order of the parameters is lost, and a zero of the other sign is not. -/
theorem same_toValue_iff_wrappedZero :
    (wrappedZero false false).same (wrappedZero true false) = true ∧
    (wrappedZero false false).toValue.same (wrappedZero true false).toValue = true ∧
    (wrappedZero false false).toValue.hash = (wrappedZero true false).toValue.hash ∧
    (wrappedZero false false).same (wrappedZero true true) = true ∧
    (wrappedZero false false).toValue.same (wrappedZero true true).toValue = false := by
  have hd := distinct_of_parse (parse_zeroText false false)
  have hc : ∀ negative, (wrappedZero true negative).codec = (wrappedZero false false).codec := by
    decide +kernel
  have hs : ∀ negative, (wrappedZero false false).same (wrappedZero true negative) = true := by
    decide +kernel
  have hv : (wrappedZero false false).toValue.same (wrappedZero true false).toValue = true := by
    decide +kernel
  obtain ⟨-, hhash, -⟩ :=
    @same_toValue_iff (wrappedZero false false) (wrappedZero true false) hd (hc false) (hs false)
  obtain ⟨hsigns, -, hzeros, -⟩ :=
    @same_toValue_iff (wrappedZero false false) (wrappedZero true true) hd (hc true) (hs true)
  refine ⟨hs false, hv, (hhash hv).1, hs true, ?_⟩
  rw [← Bool.not_eq_true, hsigns, hzeros, not_not]
  obtain ⟨hx, hp⟩ := follow?_wrappedZero false false
  obtain ⟨hy, hn⟩ := follow?_wrappedZero true true
  exact ⟨_, false, hx, hy, hp, hn⟩

end LazyValue

end QueryWire

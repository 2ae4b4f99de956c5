/-
  Lazy steps and eager steps.

  `LazyValue.get?` steps into the raw tree and looks through one wrapper;
  `Value.get?` steps into the decoded tree, in which the wrapper is gone.  The
  two keep in step until a special is reached: it has no parts once decoded,
  but raw it is an object like any other (`get?_toValue`,
  `get?_of_isSpecial`).  `LazyValue.follow?_toValue` carries this along paths of
  any length.
-/
import QueryWire.Proofs.Wire.Coercions

namespace QueryWire

open Json (Node)

/-! ## One step -/

theorem Value.get?_of_isSpecial {v : Value} (h : v.isSpecial = true) (step : Step) :
    v.get? step = none := by
  cases v with
  | timestamp _ | date _ | ref _ | setRef _ => cases step <;> rfl
  | null | boolean _ | integer _ | double _ | string _ | array _ | object _ => cases h

theorem Value.follow?_append (v : Value) (front back : List Step) :
    v.follow? (front ++ back) = (v.follow? front).bind fun w => w.follow? back := by
  induction front generalizing v with
  | nil => rfl
  | cons step front ih =>
    rw [List.cons_append, follow?, follow?]
    cases v.get? step with
    | none => rfl
    | some w => exact ih w

namespace LazyValue

variable {v : LazyValue} {step : Step} {path : List Step}

/-- Where the value is no special, a step into it leads to the value to which
    the lazy step leads. -/
theorem get?_toValue (h : v.toValue.isSpecial = false) (step : Step) :
    v.toValue.get? step = (v.get? step).map toValue := by
  cases step with
  | key k =>
    have hg : v.toValue.get? (.key k) =
        (v.entries?.map v.codec.decodeEntries).bind (Fields.get? k) := by
      rw [← object?_toValue h]
      rfl
    rw [hg, get?]
    cases v.entries? with
    | none => rfl
    | some entries =>
      simp only [Option.map_some, Option.bind_some, Option.map_map,
        Codec.decodeEntries_eq_mapValues, Fields.get?_mapValues]
      rfl
  | index n =>
    have hg : v.toValue.get? (.index n) =
        (v.node.array?.map (fun items => items.map v.codec.decode)).bind
          (fun items => items[n]?) := by
      rw [← array?_toValue v]
      rfl
    rw [hg, get?]
    cases v.node.array? with
    | none => rfl
    | some items =>
      simp only [Option.map_some, Option.bind_some, Option.map_map, List.getElem?_map]
      rfl

/-! ## Paths -/

/-- The path leads through a special: a proper prefix of it ends in one. -/
def Crosses (v : LazyValue) (path : List Step) : Prop :=
  ∃ front w, front <+: path ∧ front ≠ path ∧ v.follow? front = some w ∧
    w.toValue.isSpecial = true

theorem not_crosses_nil (v : LazyValue) : ¬ v.Crosses [] := by
  rintro ⟨front, w, hp, hn, -, -⟩
  exact hn (List.prefix_nil.mp hp)

theorem crosses_cons_iff :
    v.Crosses (step :: path) ↔
      v.toValue.isSpecial = true ∨ ∃ w, v.get? step = some w ∧ w.Crosses path := by
  constructor
  · rintro ⟨front, u, hp, hn, hf, hu⟩
    cases front with
    | nil =>
      cases hf
      exact Or.inl hu
    | cons s front =>
      obtain ⟨rfl, hq⟩ := List.cons_prefix_cons.mp hp
      obtain ⟨w, hw, hf⟩ := Option.bind_eq_some_iff.mp hf
      exact Or.inr ⟨w, hw, front, u, hq, fun he => hn (he ▸ rfl), hf, hu⟩
  · rintro (hs | ⟨w, hw, front, u, hp, hn, hf, hu⟩)
    · exact ⟨[], v, List.nil_prefix, (List.cons_ne_nil step path).symm, rfl, hs⟩
    · refine ⟨step :: front, u, List.cons_prefix_cons.mpr ⟨rfl, hp⟩, ?_, ?_, hu⟩
      · exact fun he => hn (List.cons.inj he).2
      · rw [follow?, hw]
        exact hf

instance decidableCrosses (v : LazyValue) : (path : List Step) → Decidable (v.Crosses path)
  | [] => isFalse (not_crosses_nil v)
  | step :: path =>
    have : Decidable (∃ w, v.get? step = some w ∧ w.Crosses path) :=
      match v.get? step with
      | none => isFalse fun ⟨_, hw, _⟩ => by cases hw
      | some w =>
        have := decidableCrosses w path
        decidable_of_iff (w.Crosses path)
          ⟨fun h => ⟨w, rfl, h⟩, fun ⟨_, hw, h⟩ => Option.some.inj hw ▸ h⟩
    decidable_of_iff _ crosses_cons_iff.symm

theorem follow?_of_not_crosses (h : ¬ v.Crosses path) :
    v.toValue.follow? path = (v.follow? path).map toValue := by
  induction path generalizing v with
  | nil => rfl
  | cons step path ih =>
    rw [crosses_cons_iff, not_or] at h
    obtain ⟨hs, hp⟩ := h
    rw [Value.follow?, follow?, get?_toValue (Bool.not_eq_true _ ▸ hs) step]
    cases hw : v.get? step with
    | none => rfl
    | some w => exact ih fun hc => hp ⟨w, hw, hc⟩

theorem follow?_of_crosses (h : v.Crosses path) : v.toValue.follow? path = none := by
  induction path generalizing v with
  | nil => exact absurd h (not_crosses_nil v)
  | cons step path ih =>
    rw [Value.follow?]
    cases hs : v.toValue.isSpecial with
    | true =>
      rw [Value.get?_of_isSpecial hs]
      rfl
    | false =>
      rw [crosses_cons_iff, hs] at h
      obtain ⟨w, hw, hc⟩ := h.resolve_left Bool.false_ne_true
      rw [get?_toValue hs, hw]
      exact ih hc

theorem follow?_append (v : LazyValue) (front back : List Step) :
    v.follow? (front ++ back) = (v.follow? front).bind fun w => w.follow? back := by
  induction front generalizing v with
  | nil => rfl
  | cons step front ih =>
    rw [List.cons_append, follow?, follow?]
    cases v.get? step with
    | none => rfl
    | some w => exact ih w

/-! ## Wrappers -/

/-- A step into a wrapper is a step into what it holds, on both sides. -/
theorem get?_wrapper {codec : Codec} (ha : codec.acceptLegacyObjectTag = true)
    (inner : List (String × Node)) (k : String) :
    (LazyValue.mk (.object [(legacyObjectTag, .object inner)]) codec).get? (.key k) =
        (Fields.get? k inner).map (fun node => ⟨node, codec⟩) ∧
      (codec.decode (.object [(legacyObjectTag, .object inner)])).get? (.key k) =
        (Fields.get? k inner).map codec.decode := by
  have hl : codec.legacyEntries? (.object [(legacyObjectTag, .object inner)]) = some inner :=
    Codec.legacyEntries?_eq_some_iff.mpr ⟨ha, rfl⟩
  constructor
  · have he : (LazyValue.mk (.object [(legacyObjectTag, .object inner)]) codec).entries? =
        some inner := entries?_of_legacyEntries? hl
    rw [get?, he]
    rfl
  · have hd : codec.decode (.object [(legacyObjectTag, .object inner)]) =
        .object (codec.decodeEntries inner) :=
      Codec.decode_of_find? (m := .legacy) (Option.map_eq_some_iff.mpr ⟨inner, hl, rfl⟩)
    rw [hd, Codec.decodeEntries_eq_mapValues]
    exact Fields.get?_mapValues codec.decode k inner

/-- Following a path in the decoded tree and following it lazily lead to the
    same value, unless the path leads through a special, where the decoded tree
    ends.  A wrapper at the end of a path is looked through on both sides, once. -/
theorem follow?_toValue (v : LazyValue) (path : List Step) :
    (¬ v.Crosses path → v.toValue.follow? path = (v.follow? path).map toValue) ∧
      (v.Crosses path → v.toValue.follow? path = none) ∧
      ∀ inner, v.codec.acceptLegacyObjectTag = true → ¬ v.Crosses path →
        v.follow? path = some ⟨.object [(legacyObjectTag, .object inner)], v.codec⟩ →
        ∀ k, v.follow? (path ++ [.key k]) =
            (Fields.get? k inner).map (fun node => ⟨node, v.codec⟩) ∧
          v.toValue.follow? (path ++ [.key k]) = (Fields.get? k inner).map v.codec.decode := by
  refine ⟨follow?_of_not_crosses, follow?_of_crosses, ?_⟩
  intro inner ha hc hw k
  obtain ⟨hl, he⟩ := get?_wrapper ha inner k
  have hd : v.toValue.follow? path =
      some (v.codec.decode (.object [(legacyObjectTag, .object inner)])) := by
    rw [follow?_of_not_crosses hc, hw]
    rfl
  rw [follow?_append, hw, Value.follow?_append, hd, ← hl, ← he]
  exact ⟨Option.bind_fun_some _, Option.bind_fun_some _⟩

/-- Three wrappers directly in one another, around a reference. -/
def nestedWrappers : LazyValue :=
  ⟨.object [("@obj", .object [("@obj", .object [("@obj", .object [("r", .object
    [("@ref", .string "users/1")])])])])], ⟨true⟩⟩

theorem follow?_nestedWrappers :
    (¬ nestedWrappers.Crosses [.key "@obj", .key "r"] ∧
      nestedWrappers.toValue.follow? [.key "@obj", .key "r"] = some (.ref ⟨"users/1"⟩)) ∧
    (nestedWrappers.Crosses [.key "@obj", .key "r", .key "@ref"] ∧
      nestedWrappers.toValue.follow? [.key "@obj", .key "r", .key "@ref"] = none) ∧
    ¬ nestedWrappers.Crosses [.key "@obj"] ∧
      nestedWrappers.toValue.follow? [.key "@obj", .key "@obj"] = none := by
  have hc : ¬ nestedWrappers.Crosses [.key "@obj", .key "r"] := by decide
  have hs : nestedWrappers.Crosses [.key "@obj", .key "r", .key "@ref"] := by decide
  have hw : ¬ nestedWrappers.Crosses [.key "@obj"] := by decide
  refine ⟨⟨hc, ?_⟩, ⟨hs, (follow?_toValue _ _).2.1 hs⟩, hw, ?_⟩
  · rw [(follow?_toValue _ _).1 hc]
    rfl
  · exact ((follow?_toValue _ _).2.2 [("r", .object [("@ref", .string "users/1")])] rfl hw rfl
      "@obj").2

end LazyValue

end QueryWire

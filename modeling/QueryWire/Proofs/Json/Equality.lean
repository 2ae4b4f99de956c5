/-
  Equality of trees up to the order of entries.

  `Node.same` compares floating point numbers in the arithmetic sense, so it
  does not tell the two zeros apart (`Number.same_iff`); in all else equal trees
  are the same up to the order of entries.  `Node.follow?` leads along a path of
  keys and indices, and in equal trees one path leads to equal nodes
  (`follow?_rel`).  `SameFloats` says that the floating point numbers at the
  end of one path are the same, bit by bit.  Like equality it is a matter of the
  items of arrays and of the matched entries of objects (`sameFloats_array_iff`,
  `sameFloats_object_iff`).  `Alike` is both together: one document, up to the
  order of members.
-/
import QueryWire.Json.Node
import QueryWire.Value
import QueryWire.Proofs.Binary64.Rounding
import QueryWire.Proofs.Fields

namespace QueryWire

/-! ## Zeros -/

namespace Binary64

variable {x y : Binary64}

theorem eq_zero_of_isZero (h : x.isZero = true) : x = zero x.isNegative := by
  have hz : ∀ s, (zero s).magnitude = zero false ∧ (zero s).isNegative = s := by decide
  refine eq_of_magnitude (hz _).2.symm ?_
  rw [(magnitude_eq_zero x).mpr h, (hz _).1]

theorem isZero_zero (s : Bool) : (zero s).isZero = true := by
  cases s <;> decide

/-- In the arithmetic sense, two finite numbers are equal if they are the same or
    both zero. -/
theorem sameNumber_iff (hx : x.isFinite = true) (hy : y.isFinite = true) :
    x.sameNumber y = true ↔ x = y ∨ ∃ s, x = zero s ∧ y = zero (!s) := by
  have hn : ∀ {z : Binary64}, z.isFinite = true → z.isNaN = false := by
    intro z hz
    have he : z.exponentField ≠ 2047 := by simpa [isFinite] using hz
    simp [isNaN, he]
  have hs : x.sameNumber y = true ↔ x = y ∨ (x.isZero = true ∧ y.isZero = true) := by
    simp [sameNumber, hn hx, hn hy]
  rw [hs]
  constructor
  · rintro (he | ⟨hx, hy⟩)
    · exact Or.inl he
    · rw [eq_zero_of_isZero hx, eq_zero_of_isZero hy]
      by_cases hsign : x.isNegative = y.isNegative
      · exact Or.inl (congrArg zero hsign)
      · exact Or.inr ⟨x.isNegative, rfl, congrArg zero (Bool.eq_not_of_ne (Ne.symm hsign))⟩
  · rintro (he | ⟨s, rfl, rfl⟩)
    · exact Or.inl he
    · exact Or.inr ⟨isZero_zero s, isZero_zero _⟩

end Binary64

namespace Json

/-- Equal numbers are the same, or they are the two zeros among the floating
    point numbers. -/
theorem Number.same_iff {m n : Number} :
    m.same n = true ↔ m = n ∨ ∃ s hx hy, m = .float (.zero s) hx ∧ n = .float (.zero (!s)) hy := by
  cases m with
  | natural m => cases n <;> simp [Number.same]
  | negative m hm => cases n <;> simp [Number.same]
  | float x hx =>
    cases n with
    | natural n => simp [Number.same]
    | negative n hn => simp [Number.same]
    | float y hy =>
      rw [Number.same, Binary64.sameNumber_iff hx hy, Number.float.injEq]
      refine or_congr_right (exists_congr fun s => ?_)
      constructor
      · rintro ⟨rfl, rfl⟩
        exact ⟨hx, hy, rfl, rfl⟩
      · rintro ⟨_, _, hxs, hys⟩
        exact ⟨Number.float.inj hxs, Number.float.inj hys⟩

theorem Number.same_symm {m n : Number} (h : m.same n = true) : n.same m = true := by
  rcases same_iff.mp h with rfl | ⟨s, hx, hy, rfl, rfl⟩
  · exact h
  · refine same_iff.mpr (Or.inr ⟨!s, hy, ?_⟩)
    rw [Bool.not_not]
    exact ⟨hx, rfl, rfl⟩

namespace Node

/-! ## Kinds -/

/-- The node holds no other nodes. -/
def isLeaf : Node → Bool
  | .array _ => false
  | .object _ => false
  | _ => true

/-- Induction over what a node holds. -/
@[elab_as_elim]
theorem induction {P : Node → Prop} (leaf : ∀ node, node.isLeaf = true → P node)
    (array : ∀ items, (∀ node ∈ items, P node) → P (.array items))
    (object : ∀ entries, (∀ p ∈ entries, P p.2) → P (.object entries)) (node : Node) : P node :=
  @Node.rec P (fun items => ∀ node ∈ items, P node) (fun entries => ∀ p ∈ entries, P p.2)
    (fun p => P p.2)
    (leaf _ rfl) (fun _ => leaf _ rfl) (fun _ => leaf _ rfl) (fun _ => leaf _ rfl) array object
    (List.forall_mem_nil _) (fun _ _ hn hr => List.forall_mem_cons.mpr ⟨hn, hr⟩)
    (List.forall_mem_nil _) (fun _ _ hp hr => List.forall_mem_cons.mpr ⟨hp, hr⟩)
    (fun _ _ hn => hn) node

theorem sameItems_iff (xs ys : List Node) :
    sameItems xs ys = true ↔ List.Forall₂ (same · ·) xs ys := by
  induction xs generalizing ys with
  | nil => cases ys <;> simp [sameItems]
  | cons x xs ih => cases ys <;> simp [sameItems, ih]

theorem sameEntries_iff (xs ys : List (String × Node)) :
    sameEntries xs ys = true ↔
      ∀ p ∈ xs, ∃ y, Fields.get? p.1 ys = some y ∧ same p.2 y = true := by
  induction xs with
  | nil => simp [sameEntries]
  | cons p xs ih =>
    rw [sameEntries, Bool.and_eq_true, ih, List.forall_mem_cons]
    refine and_congr_left fun _ => ?_
    cases Fields.get? p.1 ys <;> simp

theorem same_number_iff {m : Number} {b : Node} :
    same (.number m) b = true ↔ ∃ n, b = .number n ∧ m.same n = true := by
  cases b <;> simp [same]

theorem same_string_iff {s : String} {b : Node} : same (.string s) b = true ↔ b = .string s := by
  cases b with
  | string t => rw [same, beq_iff_eq, string.injEq, eq_comm]
  | _ => simp [same]

theorem same_array_iff {xs : List Node} {b : Node} :
    same (.array xs) b = true ↔ ∃ ys, b = .array ys ∧ List.Forall₂ (same · ·) xs ys := by
  cases b <;> simp [same, sameItems_iff]

theorem same_object_iff {xs : List (String × Node)} {b : Node} :
    same (.object xs) b = true ↔ ∃ ys, b = .object ys ∧ Fields.Matched (same · ·) xs ys := by
  cases b <;> simp [same, sameEntries_iff, Fields.Matched]

theorem Distinct.item {items : List Node} (h : Distinct (.array items)) :
    ∀ node ∈ items, node.Distinct :=
  (distinctItems_iff items).mp h

theorem Distinct.entry {entries : List (String × Node)} (h : Distinct (.object entries)) :
    ∀ p ∈ entries, p.2.Distinct :=
  (distinctEntries_iff entries).mp h.2

theorem same_refl {a : Node} (h : a.Distinct) : a.same a = true := by
  induction a using induction with
  | leaf a hl =>
    cases a with
    | array _ | object _ => cases hl
    | number n => exact same_number_iff.mpr ⟨n, rfl, Number.same_iff.mpr (Or.inl rfl)⟩
    | _ => simp [same]
  | array items ih =>
    exact same_array_iff.mpr
      ⟨items, rfl, List.forall₂_same.mpr fun node hn => ih node hn (h.item node hn)⟩
  | object entries ih =>
    exact same_object_iff.mpr
      ⟨entries, rfl, .refl h.1 fun p hp => ih p hp (h.entry p hp)⟩

theorem same_symm {a b : Node} (h : a.Distinct) (hs : a.same b = true) : b.same a = true := by
  induction a using induction generalizing b with
  | leaf a hl =>
    cases a with
    | array _ | object _ => cases hl
    | number m =>
      obtain ⟨n, rfl, hmn⟩ := same_number_iff.mp hs
      exact same_number_iff.mpr ⟨m, rfl, Number.same_symm hmn⟩
    | null | bool _ | string _ => cases b <;> simp_all [same]
  | array xs ih =>
    obtain ⟨ys, rfl, hi⟩ := same_array_iff.mp hs
    have hi' : List.Forall₂ (fun x y => y.same x = true) xs ys :=
      forall₂_imp hi fun x hx y => ih x hx (h.item x hx)
    exact same_array_iff.mpr ⟨xs, rfl, hi'.flip⟩
  | object xs ih =>
    obtain ⟨ys, rfl, hf⟩ := same_object_iff.mp hs
    exact same_object_iff.mpr
      ⟨xs, rfl, hf.symm h.1 fun p hp y => ih p hp (h.entry p hp)⟩

/-! ## Paths -/

def get? (node : Node) : Step → Option Node
  | .key k => node.object?.bind (Fields.get? k)
  | .index n => node.array?.bind (fun items => items[n]?)

/-- Follows a path of steps through the raw tree. -/
def follow? (node : Node) : List Step → Option Node
  | [] => some node
  | step :: path => (node.get? step).bind (fun next => next.follow? path)

theorem get?_same {a b x : Node} {step : Step} (h : a.same b = true) (hx : a.get? step = some x) :
    ∃ y, b.get? step = some y ∧ x.same y = true := by
  cases step with
  | key k =>
    obtain ⟨xs, ha, hx⟩ := Option.bind_eq_some_iff.mp hx
    cases a with
    | object xs =>
      cases ha
      obtain ⟨ys, rfl, hm⟩ := same_object_iff.mp h
      exact hm.2 (k, x) (Fields.mem_of_get? hx)
    | _ => cases ha
  | index n =>
    obtain ⟨xs, ha, hx⟩ := Option.bind_eq_some_iff.mp hx
    cases a with
    | array xs =>
      cases ha
      obtain ⟨ys, rfl, hi⟩ := same_array_iff.mp h
      exact getElem?_of_forall₂ hi hx
    | _ => cases ha

/-- In equal trees, one path leads to equal nodes. -/
theorem follow?_same {a b x : Node} {path : List Step} (h : a.same b = true)
    (hx : a.follow? path = some x) : ∃ y, b.follow? path = some y ∧ x.same y = true := by
  induction path generalizing a b with
  | nil =>
    cases hx
    exact ⟨b, rfl, h⟩
  | cons step path ih =>
    obtain ⟨c, hc, hx⟩ := Option.bind_eq_some_iff.mp hx
    obtain ⟨d, hd, hcd⟩ := get?_same h hc
    obtain ⟨y, hy, hxy⟩ := ih hcd hx
    exact ⟨y, by rw [follow?, hd, Option.bind_some, hy], hxy⟩

/-- What stands in one tree at the end of a path stands in the other one, too. -/
theorem follow?_rel {a b : Node} (hd : a.Distinct) (h : a.same b = true) (path : List Step) :
    Option.Rel (fun x y => x.same y = true) (a.follow? path) (b.follow? path) := by
  cases ha : a.follow? path with
  | some x =>
    obtain ⟨y, hy, hxy⟩ := follow?_same h ha
    rw [hy]
    exact .some hxy
  | none =>
    cases hb : b.follow? path with
    | none => exact .none
    | some y =>
      obtain ⟨x, hx, -⟩ := follow?_same (same_symm hd h) hb
      cases hx.symm.trans ha

/-! ## Floating point numbers bit by bit -/

/-- Where one path leads to floating point numbers in both trees, these are the
    same, the sign of a zero included. -/
def SameFloats (a b : Node) : Prop :=
  ∀ path x hx y hy, a.follow? path = some (.number (.float x hx)) →
    b.follow? path = some (.number (.float y hy)) → x = y

theorem SameFloats.refl (a : Node) : a.SameFloats a := by
  intro path x hx y hy ha ha'
  cases ha.symm.trans ha'
  rfl

theorem SameFloats.get? {a b x y : Node} (step : Step) (h : a.SameFloats b)
    (hx : a.get? step = some x) (hy : b.get? step = some y) : x.SameFloats y := by
  intro path u hu w hw ha hb
  refine h (step :: path) u hu w hw ?_ ?_
  · rw [follow?, hx, Option.bind_some, ha]
  · rw [follow?, hy, Option.bind_some, hb]

/-- Trees that are no numbers agree if their parts do. -/
theorem sameFloats_of_get? {a b : Node} (ha : a.number? = none)
    (h : ∀ step x y, a.get? step = some x → b.get? step = some y → x.SameFloats y) :
    a.SameFloats b := by
  intro path u hu w hw hau hbw
  cases path with
  | nil =>
    cases hau
    cases ha
  | cons step path =>
    obtain ⟨x, hx, hau⟩ := Option.bind_eq_some_iff.mp hau
    obtain ⟨y, hy, hbw⟩ := Option.bind_eq_some_iff.mp hbw
    exact h step x y hx hy path u hu w hw hau hbw

theorem sameFloats_number_iff {m n : Number} (h : m.same n = true) :
    (Node.number m).SameFloats (.number n) ↔ m = n := by
  constructor
  · intro hs
    rcases Number.same_iff.mp h with he | ⟨s, hx, hy, rfl, rfl⟩
    · exact he
    · have he := hs [] _ hx _ hy rfl rfl
      cases s <;> exact absurd he (by decide)
  · rintro rfl
    exact .refl _

theorem sameFloats_array_iff {xs ys : List Node} (hl : xs.length = ys.length) :
    (Node.array xs).SameFloats (.array ys) ↔ List.Forall₂ SameFloats xs ys := by
  rw [forall₂_iff_getElem? hl]
  constructor
  · exact fun h k x y hx hy => h.get? (.index k) hx hy
  · intro h
    refine sameFloats_of_get? rfl fun step x y hx hy => ?_
    cases step with
    | key k => cases hx
    | index k => exact h k x y hx hy

theorem sameFloats_object_iff {R : Node → Node → Prop} {xs ys : List (String × Node)}
    (hd : Fields.Distinct xs) (hm : Fields.Matched R xs ys) :
    (Node.object xs).SameFloats (.object ys) ↔ Fields.Matched SameFloats xs ys := by
  constructor
  · intro h
    refine ⟨hm.1, fun p hp => ?_⟩
    obtain ⟨y, hy, -⟩ := hm.2 p hp
    exact ⟨y, hy, h.get? (.key p.1) (Fields.get?_of_mem hd hp) hy⟩
  · intro h
    refine sameFloats_of_get? rfl fun step x y hx hy => ?_
    cases step with
    | key k =>
      obtain ⟨z, hz, hs⟩ := h.2 (k, x) (Fields.mem_of_get? hx)
      cases hy.symm.trans hz
      exact hs
    | index k => cases hx

/-- Equal trees can only differ in zeros of opposite signs. -/
theorem sameFloats_iff_zeros {a b : Node} (h : a.same b = true) :
    a.SameFloats b ↔ ¬ ∃ path s hx hy,
      a.follow? path = some (.number (.float (.zero s) hx)) ∧
        b.follow? path = some (.number (.float (.zero (!s)) hy)) := by
  constructor
  · rintro hs ⟨path, s, hx, hy, ha, hb⟩
    have he := hs path _ hx _ hy ha hb
    cases s <;> exact absurd he (by decide)
  · intro hn path x hx y hy ha hb
    obtain ⟨z, hz, hxz⟩ := follow?_same h ha
    cases hb.symm.trans hz
    have hxy : x.sameNumber y = true := by simpa [same, Number.same] using hxz
    rcases (Binary64.sameNumber_iff hx hy).mp hxy with he | ⟨s, rfl, rfl⟩
    · exact he
    · exact absurd ⟨path, s, hx, hy, ha, hb⟩ hn

/-! ## One document -/

/-- The trees are the same up to the order of entries. -/
structure Alike (a b : Node) : Prop where
  same : a.same b = true
  floats : a.SameFloats b

theorem Alike.refl {a : Node} (h : a.Distinct) : a.Alike a :=
  ⟨same_refl h, .refl a⟩

theorem alike_array {xs ys : List Node} (h : List.Forall₂ Alike xs ys) :
    (Node.array xs).Alike (.array ys) where
  same := same_array_iff.mpr ⟨ys, rfl, h.imp fun _ _ hxy => hxy.same⟩
  floats := (sameFloats_array_iff h.length_eq).mpr (h.imp fun _ _ hxy => hxy.floats)

theorem alike_object {xs ys : List (String × Node)} (hd : Fields.Distinct xs)
    (h : Fields.Matched Alike xs ys) : (Node.object xs).Alike (.object ys) where
  same := same_object_iff.mpr ⟨ys, rfl, h.imp fun _ _ _ hxy => hxy.same⟩
  floats := (sameFloats_object_iff hd h).mpr (h.imp fun _ _ _ hxy => hxy.floats)

end Node

end Json

end QueryWire

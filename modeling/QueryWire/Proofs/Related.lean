/-
  Lists that are related item by item, and optional values that are related.
-/
import Mathlib.Data.List.Forall2

namespace QueryWire

section

variable {α β : Type} {R S T : α → β → Prop} {xs : List α} {ys : List β}

theorem exists_forall₂ (h : ∀ x ∈ xs, ∃ y, R x y) : ∃ ys, List.Forall₂ R xs ys := by
  induction xs with
  | nil => exact ⟨[], .nil⟩
  | cons x xs ih =>
    obtain ⟨hx, hxs⟩ := List.forall_mem_cons.mp h
    obtain ⟨y, hy⟩ := hx
    obtain ⟨ys, hys⟩ := ih hxs
    exact ⟨y :: ys, .cons hy hys⟩

theorem exists_mem_left (h : List.Forall₂ R xs ys) {y : β} (hy : y ∈ ys) : ∃ x ∈ xs, R x y := by
  induction h with
  | nil => cases hy
  | @cons x y' xs ys hxy _ ih =>
    rcases List.mem_cons.mp hy with rfl | hy
    · exact ⟨x, List.mem_cons_self, hxy⟩
    · obtain ⟨x', hx, hr⟩ := ih hy
      exact ⟨x', List.mem_cons_of_mem _ hx, hr⟩

theorem getElem?_of_forall₂ (h : List.Forall₂ R xs ys) {k : Nat} {x : α}
    (hx : xs[k]? = some x) : ∃ y, ys[k]? = some y ∧ R x y := by
  induction h generalizing k with
  | nil => cases hx
  | cons hr _ ih =>
    cases k with
    | zero =>
      cases hx
      exact ⟨_, rfl, hr⟩
    | succ k => exact ih hx

theorem forall₂_iff_getElem? (hl : xs.length = ys.length) :
    List.Forall₂ R xs ys ↔ ∀ (k : Nat) x y, xs[k]? = some x → ys[k]? = some y → R x y := by
  constructor
  · intro h k x y hx hy
    obtain ⟨z, hz, hr⟩ := getElem?_of_forall₂ h hx
    cases hy.symm.trans hz
    exact hr
  · intro h
    refine List.forall₂_iff_get.mpr ⟨hl, fun k hk hk' => h k _ _ ?_ ?_⟩
    · exact List.getElem?_eq_getElem hk
    · exact List.getElem?_eq_getElem hk'

theorem forall₂_imp (h : List.Forall₂ R xs ys) (hs : ∀ x ∈ xs, ∀ y, R x y → S x y) :
    List.Forall₂ S xs ys :=
  ((List.forall₂_and_left xs ys).mpr ⟨hs, h⟩).imp fun _ y hxy => hxy.1 y hxy.2

/-- Of related items, one relation holds exactly if the other one does. -/
theorem forall₂_iff_forall₂ (h : List.Forall₂ R xs ys)
    (hst : ∀ x ∈ xs, ∀ y, R x y → (S x y ↔ T x y)) :
    List.Forall₂ S xs ys ↔ List.Forall₂ T xs ys := by
  induction h with
  | nil => exact ⟨fun _ => .nil, fun _ => .nil⟩
  | @cons x y xs ys hxy _ ih =>
    obtain ⟨hx, hxs⟩ := List.forall_mem_cons.mp hst
    rw [List.forall₂_cons, List.forall₂_cons, hx y hxy, ih hxs]

end

section

variable {α : Type} {R : α → α → Prop}

theorem forall₂_trans {xs ys zs : List α} (h : List.Forall₂ R xs ys) (h' : List.Forall₂ R ys zs)
    (ht : ∀ x ∈ xs, ∀ y z, R x y → R y z → R x z) : List.Forall₂ R xs zs := by
  induction h generalizing zs with
  | nil => exact h'
  | @cons x y xs ys hxy _ ih =>
    obtain ⟨z, zs, hyz, hr, rfl⟩ := List.forall₂_cons_left_iff.mp h'
    exact .cons (ht x List.mem_cons_self y z hxy hyz)
      (ih hr fun x' hx' => ht x' (List.mem_cons_of_mem _ hx'))

/-- With all other items related to themselves, one exchanged item decides. -/
theorem forall₂_exchange_iff {a b : α} {front back : List α}
    (hf : ∀ x ∈ front, R x x) (hb : ∀ x ∈ back, R x x) :
    List.Forall₂ R (front ++ a :: back) (front ++ b :: back) ↔ R a b := by
  induction front with
  | nil => exact List.forall₂_cons.trans (and_iff_left (List.forall₂_same.mpr hb))
  | cons x front ih =>
    obtain ⟨hx, hf⟩ := List.forall_mem_cons.mp hf
    exact List.forall₂_cons.trans ((and_iff_right hx).trans (ih hf))

end

theorem rel_refl {α : Type} {R : α → α → Prop} (h : ∀ x, R x x) (o : Option α) :
    Option.Rel R o o := by
  cases o with
  | none => exact .none
  | some x => exact .some (h x)

theorem eq_of_rel_eq {α : Type} {o o' : Option α} (h : Option.Rel Eq o o') : o = o' := by
  cases h with
  | none => rfl
  | some hx => exact congrArg some hx

theorem rel_map {α β γ δ : Type} {R : α → β → Prop} {S : γ → δ → Prop} {f : α → γ} {g : β → δ}
    (hf : ∀ x y, R x y → S (f x) (g y)) {o : Option α} {o' : Option β} (h : Option.Rel R o o') :
    Option.Rel S (o.map f) (o'.map g) := by
  cases h with
  | none => exact .none
  | some hr => exact .some (hf _ _ hr)

end QueryWire

/-
  Documents repeat no key.

  What stands in brackets is read item by item (`yields_bracketed`), and an
  object is made of its pairs by `Fields.ofPairs`, so a key that the text
  repeats is merged at every depth: `distinct_of_document`.
-/
import QueryWire.Json.Document

namespace QueryWire.Json

/-- Everything that the reader yields has the property. -/
def Yields {α : Type} (read : Reader α) (P : α → Prop) : Prop :=
  ∀ cs x left, read cs = .ok (x, left) → P x

/-! ## Items that were read -/

section

variable {α β : Type} {P : α → Prop}

theorem map_eq_ok {f : α → β} {r : Except Fault α} {y : β} (h : r.map f = .ok y) :
    ∃ x, r = .ok x ∧ f x = y := by
  cases r with
  | error fault => cases h
  | ok x => cases h; exact ⟨x, rfl, rfl⟩

theorem yields_moreItems {item : Reader α} (h : Yields item P) (brackets : Brackets)
    (limit : Nat) : Yields (moreItems brackets item limit) (fun xs => ∀ x ∈ xs, P x) := by
  induction limit with
  | zero => intro cs xs left he; cases he
  | succ limit ih =>
    intro cs xs left he
    unfold moreItems at he
    split at he
    · cases he
    · split at he
      · cases he; simp
      · split at he
        · split at he
          · cases he
          · split at he
            · cases he
            · rename_i hx
              obtain ⟨_, hm, he⟩ := map_eq_ok he
              cases he
              exact List.forall_mem_cons.mpr ⟨h _ _ _ hx, ih _ _ _ hm⟩
        · cases he

theorem yields_bracketed {item : Reader α} (h : Yields item P) (brackets : Brackets) :
    Yields (bracketed brackets item) (fun xs => ∀ x ∈ xs, P x) := by
  intro cs xs left he
  unfold bracketed at he
  split at he
  · cases he
  · split at he
    · cases he; simp
    · split at he
      · cases he
      · rename_i hx
        obtain ⟨_, hm, he⟩ := map_eq_ok he
        cases he
        exact List.forall_mem_cons.mpr ⟨h _ _ _ hx, yields_moreItems h brackets _ _ _ _ hm⟩

theorem yields_entry {κ : Type} {item : Reader α} (h : Yields item P) (key : Reader κ) :
    Yields (entry item key) (fun p => P p.2) := by
  intro cs p left he
  unfold entry at he
  split at he
  · split at he
    · cases he
    · split at he
      · cases he
      · obtain ⟨_, hx, he⟩ := map_eq_ok he
        cases he
        exact h _ _ _ hx
  · cases he
  · cases he

end

/-! ## Values -/

theorem yields_valueWith {inner : Option (Reader Node)}
    (h : ∀ read ∈ inner, Yields read Node.Distinct) :
    Yields (valueWith inner) Node.Distinct := by
  intro cs node left he
  unfold valueWith at he
  split at he
  · cases he
  iterate 5
    split at he
    · obtain ⟨_, _, he⟩ := map_eq_ok he
      cases he
      trivial
  split at he
  · split at he
    · cases he
    · rename_i read
      have hr := h read rfl
      split at he
      · obtain ⟨_, hx, he⟩ := map_eq_ok he
        cases he
        exact (Node.distinctItems_iff _).mpr (yields_bracketed hr .list _ _ _ hx)
      · obtain ⟨_, hx, he⟩ := map_eq_ok he
        cases he
        exact Node.distinct_object (yields_bracketed (yields_entry hr _) .object _ _ _ hx)
  · cases he

theorem yields_value (opens : Nat) : Yields (value opens) Node.Distinct := by
  induction opens with
  | zero => exact yields_valueWith (by simp)
  | succ opens ih => exact yields_valueWith (by simpa using ih)

theorem distinct_of_document {text : String} {node : Node} (h : document text = .ok node) :
    node.Distinct := by
  unfold document whole at h
  split at h
  · cases h
  · rename_i hx
    obtain ⟨_, _, rfl⟩ := map_eq_ok h
    exact yields_value _ _ _ _ hx

end QueryWire.Json

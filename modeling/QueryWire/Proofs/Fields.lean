/-
  Fields in any order, and fields from pairs that repeat keys.

  Fields made of pairs stand where their keys first came up (`keys_ofPairs`) and
  have the last values (`get?_ofPairs`).  Values can be mapped before or after
  repeated keys are merged (`ofPairs_mapValues`).

  Two lists of fields are matched by looking up each field of the first list in
  the second one (`Fields.Matched`), which treats the two sides differently.
  With distinct keys and equal lengths this is a matter of order only: the
  second list is a rearrangement of one that agrees with the first field by
  field (`Matched.exists_perm`).  Symmetry follows from that (`Matched.symm`).
-/
import Mathlib.Data.List.Induction
import QueryWire.Fields
import QueryWire.Proofs.Related

namespace QueryWire.Fields

variable {α β γ : Type}

/-! ## Looking up members -/

theorem mem_middle_iff {x y : β} {front back : List β} :
    x ∈ front ++ y :: back ↔ x = y ∨ x ∈ front ++ back :=
  List.perm_middle.mem_iff.trans List.mem_cons

theorem mem_of_get? {k : String} {v : α} {fields : List (String × α)}
    (h : get? k fields = some v) : (k, v) ∈ fields := by
  induction fields with
  | nil => cases h
  | cons p rest ih =>
    rw [get?] at h
    split at h
    · rename_i hk
      cases h
      exact hk ▸ List.mem_cons_self
    · exact List.mem_cons_of_mem _ (ih h)

theorem get?_of_mem {fields : List (String × α)} (hd : Distinct fields) {p : String × α}
    (h : p ∈ fields) : get? p.1 fields = some p.2 := by
  induction fields with
  | nil => cases h
  | cons q rest ih =>
    obtain ⟨hq, hr⟩ := List.nodup_cons.mp hd
    rw [get?]
    rcases List.mem_cons.mp h with rfl | hm
    · rw [if_pos rfl]
    · have hne : q.1 ≠ p.1 := fun he => hq (he ▸ List.mem_map_of_mem hm)
      rw [if_neg hne, ih hr hm]

theorem distinct_perm {xs ys : List (String × α)} (h : xs.Perm ys) (hd : Distinct xs) :
    Distinct ys :=
  (h.map Prod.fst).nodup hd

theorem distinct_singleton (k : String) (v : α) : Distinct [(k, v)] :=
  List.nodup_cons.mpr ⟨List.not_mem_nil, List.nodup_nil⟩

theorem get?_append (key : String) (xs ys : List (String × α)) :
    get? key (xs ++ ys) = (get? key xs).or (get? key ys) := by
  induction xs with
  | nil => rfl
  | cons p rest ih =>
    simp only [List.cons_append, get?, ih]
    split
    · rfl
    · rfl

/-- The first field under a key is found. -/
theorem get?_eq_some_iff {key : String} {v : α} {fields : List (String × α)} :
    get? key fields = some v ↔
      ∃ front back, fields = front ++ (key, v) :: back ∧ key ∉ keys front := by
  constructor
  · intro h
    induction fields with
    | nil => cases h
    | cons p rest ih =>
      obtain ⟨k, w⟩ := p
      by_cases hk : k = key
      · subst hk
        cases (if_pos rfl).symm.trans h
        exact ⟨[], rest, rfl, List.not_mem_nil⟩
      · rw [get?, if_neg hk] at h
        obtain ⟨front, back, rfl, hf⟩ := ih h
        exact ⟨(k, w) :: front, back, rfl, by simpa [keys, Ne.symm hk] using hf⟩
  · rintro ⟨front, back, rfl, hf⟩
    rw [get?_append, (get?_eq_none_iff key front).mpr hf, Option.none_or]
    exact if_pos rfl

/-- A field under another key can be left out. -/
theorem get?_append_cons_of_ne {j k : String} (h : k ≠ j) (v : α) (front back : List (String × α)) :
    get? j (front ++ (k, v) :: back) = get? j (front ++ back) := by
  rw [get?_append, get?_append, get?, if_neg h]

/-! ## Repeated keys -/

theorem ofPairs_append_singleton (pairs : List (String × α)) (p : String × α) :
    ofPairs (pairs ++ [p]) = insert p.1 p.2 (ofPairs pairs) :=
  List.foldl_append

/-- A repeated key keeps its first place. -/
theorem keys_ofPairs (pairs : List (String × α)) :
    keys (ofPairs pairs) = (keys pairs).eraseDups := by
  induction pairs using List.reverseRecOn with
  | nil => rfl
  | append_singleton pairs p ih =>
    have hk : keys (pairs ++ [p]) = keys pairs ++ [p.1] := List.map_append
    rw [ofPairs_append_singleton, keys_insert, ih, hk, List.eraseDups_append]
    by_cases hm : p.1 ∈ keys pairs
    · simp [List.removeAll, hm]
    · simp [List.removeAll, hm, List.eraseDups_cons]

/-- A repeated key takes its last value. -/
theorem get?_ofPairs (key : String) (pairs : List (String × α)) :
    get? key (ofPairs pairs) = get? key pairs.reverse := by
  induction pairs using List.reverseRecOn with
  | nil => rfl
  | append_singleton pairs p ih =>
    rw [ofPairs_append_singleton, get?_insert, ih, List.reverse_append]
    rfl

example : ofPairs [("a", 1), ("b", 2), ("a", 3)] = [("a", 3), ("b", 2)] := by
  decide

/-- The last of the pairs under one key counts. -/
theorem get?_ofPairs_eq_some_iff {key : String} {v : α} {pairs : List (String × α)} :
    get? key (ofPairs pairs) = some v ↔
      ∃ front back, pairs = front ++ (key, v) :: back ∧ key ∉ keys back := by
  rw [get?_ofPairs, get?_eq_some_iff]
  constructor
  · rintro ⟨front, back, hp, hf⟩
    refine ⟨back.reverse, front.reverse, ?_, by simpa [keys] using hf⟩
    rw [← List.reverse_reverse pairs, hp]
    simp
  · rintro ⟨front, back, rfl, hb⟩
    exact ⟨back.reverse, front.reverse, by simp, by simpa [keys] using hb⟩

section

variable {R : α → β → Prop}

/-- A set field keeps the agreement of fields one by one. -/
theorem forall₂_insert {k : String} {x : α} {y : β} (hr : R x y) {xs : List (String × α)}
    {ys : List (String × β)} (h : List.Forall₂ (fun p q => p.1 = q.1 ∧ R p.2 q.2) xs ys) :
    List.Forall₂ (fun p q => p.1 = q.1 ∧ R p.2 q.2) (insert k x xs) (insert k y ys) := by
  induction h with
  | nil => exact .cons ⟨rfl, hr⟩ .nil
  | @cons p q xs ys hpq hrest ih =>
    rw [insert, insert, ← hpq.1]
    split
    · exact .cons ⟨rfl, hr⟩ hrest
    · exact .cons ⟨rfl, hpq.2⟩ ih

theorem forall₂_foldl_insert {pairs fields : List (String × α)} {pairs' fields' : List (String × β)}
    (h : List.Forall₂ (fun p q => p.1 = q.1 ∧ R p.2 q.2) pairs pairs')
    (hf : List.Forall₂ (fun p q => p.1 = q.1 ∧ R p.2 q.2) fields fields') :
    List.Forall₂ (fun p q => p.1 = q.1 ∧ R p.2 q.2)
      (pairs.foldl (fun fields p => insert p.1 p.2 fields) fields)
      (pairs'.foldl (fun fields p => insert p.1 p.2 fields) fields') := by
  induction h generalizing fields fields' with
  | nil => exact hf
  | @cons p q pairs pairs' hpq _ ih =>
    rw [List.foldl_cons, List.foldl_cons, ← hpq.1]
    exact ih (forall₂_insert hpq.2 hf)

/-- Pairs that agree one by one make fields that do so, also if they repeat keys. -/
theorem forall₂_ofPairs {pairs : List (String × α)} {pairs' : List (String × β)}
    (h : List.Forall₂ (fun p q => p.1 = q.1 ∧ R p.2 q.2) pairs pairs') :
    List.Forall₂ (fun p q => p.1 = q.1 ∧ R p.2 q.2) (ofPairs pairs) (ofPairs pairs') :=
  forall₂_foldl_insert h .nil

theorem forall₂_iff_mapValues_eq {f : α → β} {xs : List (String × α)} {ys : List (String × β)} :
    List.Forall₂ (fun p q => p.1 = q.1 ∧ f p.2 = q.2) xs ys ↔ mapValues f xs = ys := by
  rw [mapValues, ← List.forall₂_eq_eq_eq, List.forall₂_map_left_iff]
  simp only [Prod.ext_iff]

/-- Values can be mapped before or after later ones take the place of earlier ones. -/
theorem ofPairs_mapValues (f : α → β) (pairs : List (String × α)) :
    ofPairs (mapValues f pairs) = mapValues f (ofPairs pairs) := by
  have h : List.Forall₂ (fun p q => p.1 = q.1 ∧ f p.2 = q.2) pairs (mapValues f pairs) :=
    forall₂_iff_mapValues_eq.mpr rfl
  exact (forall₂_iff_mapValues_eq.mp (forall₂_ofPairs (R := fun x y => f x = y) h)).symm

end

/-! ## Matched fields -/

/-- There are as many fields on both sides, and under the key of each field of
    the first list the second one has a related value. -/
def Matched (R : α → β → Prop) (xs : List (String × α)) (ys : List (String × β)) : Prop :=
  xs.length = ys.length ∧ ∀ p ∈ xs, ∃ y, get? p.1 ys = some y ∧ R p.2 y

section

variable {R : α → β → Prop} {xs : List (String × α)} {ys : List (String × β)}

/-- Matched fields agree one by one after a rearrangement. -/
theorem Matched.exists_perm (h : Matched R xs ys) (hd : Distinct xs) :
    ∃ zs, zs.Perm ys ∧ List.Forall₂ (fun p q => p.1 = q.1 ∧ R p.2 q.2) xs zs := by
  induction xs generalizing ys with
  | nil =>
    have hy : ys = [] := List.length_eq_zero_iff.mp h.1.symm
    exact ⟨[], hy ▸ List.Perm.refl _, .nil⟩
  | cons p xs ih =>
    obtain ⟨hl, hm⟩ := h
    obtain ⟨hp, hd⟩ := List.nodup_cons.mp hd
    obtain ⟨y, hy, hr⟩ := hm p List.mem_cons_self
    obtain ⟨front, back, rfl⟩ := List.append_of_mem (mem_of_get? hy)
    -- without the partner of `p`, the other fields are still matched
    have hrest : Matched R xs (front ++ back) := by
      refine ⟨?_, fun q hq => ?_⟩
      · simp only [List.length_cons, List.length_append] at hl ⊢
        omega
      · have hne : p.1 ≠ q.1 := fun he => hp (he ▸ List.mem_map_of_mem hq)
        rw [← get?_append_cons_of_ne hne y]
        exact hm q (List.mem_cons_of_mem _ hq)
    obtain ⟨zs, hz, hf⟩ := ih hrest hd
    exact ⟨(p.1, y) :: zs, (hz.cons _).trans List.perm_middle.symm, .cons ⟨rfl, hr⟩ hf⟩

theorem Matched.imp {S : α → β → Prop} (h : Matched R xs ys)
    (hs : ∀ p ∈ xs, ∀ y, R p.2 y → S p.2 y) : Matched S xs ys := by
  refine ⟨h.1, fun p hp => ?_⟩
  obtain ⟨y, hy, hr⟩ := h.2 p hp
  exact ⟨y, hy, hs p hp y hr⟩

theorem Matched.and {S : α → β → Prop} (h : Matched R xs ys) (h' : Matched S xs ys) :
    Matched (fun x y => R x y ∧ S x y) xs ys := by
  refine ⟨h.1, fun p hp => ?_⟩
  obtain ⟨y, hy, hr⟩ := h.2 p hp
  obtain ⟨z, hz, hs⟩ := h'.2 p hp
  cases hy.symm.trans hz
  exact ⟨y, hy, hr, hs⟩

/-- Of matched values, one relation holds exactly if the other one does. -/
theorem Matched.congr {S T : α → β → Prop} (h : Matched R xs ys)
    (hst : ∀ p ∈ xs, ∀ y, R p.2 y → (S p.2 y ↔ T p.2 y)) :
    Matched S xs ys ↔ Matched T xs ys := by
  constructor
  · exact fun hs => (h.and hs).imp fun p hp y hy => (hst p hp y hy.1).mp hy.2
  · exact fun ht => (h.and ht).imp fun p hp y hy => (hst p hp y hy.1).mpr hy.2

theorem matched_mapValues {γ δ : Type} {R : γ → δ → Prop} {f : α → γ} {g : β → δ} :
    Matched R (mapValues f xs) (mapValues g ys) ↔ Matched (fun x y => R (f x) (g y)) xs ys := by
  simp only [Matched, mapValues, List.length_map, List.forall_mem_map]
  refine and_congr_right fun _ => forall₂_congr fun p _ => ?_
  have hg := get?_mapValues g p.1 ys
  rw [mapValues] at hg
  simp [hg]

/-- The partner of a single field is single. -/
theorem matched_singleton_iff {k : String} {x : α} :
    Matched R [(k, x)] ys ↔ ∃ y, ys = [(k, y)] ∧ R x y := by
  constructor
  · rintro ⟨hl, hm⟩
    obtain ⟨y, hy, hr⟩ := hm _ List.mem_cons_self
    obtain ⟨q, rfl⟩ := List.length_eq_one_iff.mp hl.symm
    have hq := List.mem_singleton.mp (mem_of_get? hy)
    exact ⟨y, by rw [hq], hr⟩
  · rintro ⟨y, rfl, hr⟩
    exact ⟨rfl, List.forall_mem_singleton.mpr ⟨y, if_pos rfl, hr⟩⟩

/-- Fields that agree one by one are matched. -/
theorem matched_of_forall₂ (h : List.Forall₂ (fun p q => p.1 = q.1 ∧ R p.2 q.2) xs ys)
    (hd : Distinct xs) : Matched R xs ys := by
  have hk : keys xs = keys ys := by
    induction h with
    | nil => rfl
    | cons hpq _ ih => exact congrArg₂ List.cons hpq.1 (ih (List.nodup_cons.mp hd).2)
  have hd' : Distinct ys := by rwa [Distinct, ← hk]
  refine ⟨h.length_eq, fun p hp => ?_⟩
  obtain ⟨q, hq, hkq, hr⟩ := exists_mem_left h.flip hp
  exact ⟨q.2, hkq ▸ get?_of_mem hd' hq, hr⟩

theorem Matched.refl {R : α → α → Prop} (hd : Distinct xs) (h : ∀ p ∈ xs, R p.2 p.2) :
    Matched R xs xs :=
  ⟨rfl, fun p hp => ⟨p.2, get?_of_mem hd hp, h p hp⟩⟩

theorem Matched.symm {S : β → α → Prop} (h : Matched R xs ys) (hd : Distinct xs)
    (hs : ∀ p ∈ xs, ∀ y, R p.2 y → S y p.2) : Matched S ys xs := by
  obtain ⟨zs, hz, hf⟩ := h.exists_perm hd
  refine ⟨h.1.symm, fun q hq => ?_⟩
  obtain ⟨p, hp, hk, hr⟩ := exists_mem_left hf (hz.mem_iff.mpr hq)
  exact ⟨p.2, hk ▸ get?_of_mem hd hp, hs p hp q.2 hr⟩

theorem Matched.trans {S : β → γ → Prop} {T : α → γ → Prop} {zs : List (String × γ)}
    (h : Matched R xs ys) (h' : Matched S ys zs)
    (ht : ∀ p ∈ xs, ∀ y z, R p.2 y → S y z → T p.2 z) : Matched T xs zs := by
  refine ⟨h.1.trans h'.1, fun p hp => ?_⟩
  obtain ⟨y, hy, hr⟩ := h.2 p hp
  obtain ⟨z, hz, hs⟩ := h'.2 (p.1, y) (mem_of_get? hy)
  exact ⟨z, hz, ht p hp y z hr hs⟩

/-- Fields in another order are matched. -/
theorem matched_of_perm {R : α → α → Prop} {ys : List (String × α)} (h : xs.Perm ys)
    (hd : Distinct xs) (hr : ∀ p ∈ xs, R p.2 p.2) : Matched R xs ys :=
  ⟨h.length_eq, fun p hp =>
    ⟨p.2, get?_of_mem (distinct_perm h hd) (h.mem_iff.mp hp), hr p hp⟩⟩

/-- With all other fields related to themselves, one exchanged value decides. -/
theorem matched_exchange_iff {R : α → α → Prop} {k : String} {a b : α}
    {front back : List (String × α)} (hd : Distinct (front ++ (k, a) :: back))
    (hr : ∀ p ∈ front ++ back, R p.2 p.2) :
    Matched R (front ++ (k, a) :: back) (front ++ (k, b) :: back) ↔ R a b := by
  have hd' : Distinct (front ++ (k, b) :: back) := by
    simpa [Distinct, keys] using hd
  have hk : get? k (front ++ (k, b) :: back) = some b :=
    get?_of_mem (p := (k, b)) hd' (mem_middle_iff.mpr (.inl rfl))
  constructor
  · rintro ⟨_, h⟩
    obtain ⟨y, hy, hry⟩ := h (k, a) (mem_middle_iff.mpr (.inl rfl))
    cases hk.symm.trans hy
    exact hry
  · intro h
    refine ⟨by simp, fun p hp => ?_⟩
    rcases mem_middle_iff.mp hp with rfl | hp
    · exact ⟨b, hk, h⟩
    · exact ⟨p.2, get?_of_mem hd' (mem_middle_iff.mpr (.inr hp)), hr p hp⟩

end

end QueryWire.Fields

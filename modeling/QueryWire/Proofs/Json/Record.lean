/-
  Records read back from any of their texts.

  While a record is read, its draft depends only on the keys that have been seen,
  not on their order nor on the keys that are skipped (`Assembles`).  One member
  adds one key (`member_memberText`), so the members of an object add all of
  theirs (`members_objectText`), and the draft that they lead to is complete.
-/
import QueryWire.Proofs.Fields
import QueryWire.Proofs.Json.Skipping

namespace QueryWire.Json

variable {α δ : Type} {slots : List (Slot δ)} {parts : List Part} {draft : List String → δ}

/-! ## Slots and parts -/

/-- The slot is filled by each text of the part; `draft` is what the given keys have led to. -/
structure Fits (draft : List String → δ) (slot : Slot δ) (part : Part) : Prop where
  key : slot.key = part.key
  vacant : ∀ {seen}, part.key ∉ seen → slot.isFilled (draft seen) = false
  fill : ∀ {seen b v}, part.key ∉ seen → Blanks b → part.Text v →
    Takes (slot.fill (draft seen)) (draft (part.key :: seen)) (b ++ v)

/-- From the empty draft, the slots lead to the datum that the parts make up. -/
structure Assembles (slots : List (Slot δ)) (empty : δ) (complete : δ → Option α)
    (parts : List Part) (draft : List String → δ) (x : α) : Prop where
  fits : List.Forall₂ (Fits draft) slots parts
  empty_eq : draft [] = empty
  ignores : ∀ {seen key}, key ∉ parts.map Part.key → draft (key :: seen) = draft seen
  completes : ∀ {seen}, (∀ part ∈ parts, part.key ∈ seen ∨ part.optional) →
    complete (draft seen) = some x

/-- A slot that sets one field of the draft to what a reader has read. -/
theorem fits_of_covers {β : Type} {slot : Slot δ} {part : Part} {read : Reader β}
    {Text : β → List Char → Prop} {y : β} (h : Covers read Text) (set : δ → β → δ)
    (hk : slot.key = part.key) (ht : part.Text = Text y)
    (hf : ∀ d cs, slot.fill d cs = (read cs).map (fun (y, left) => (set d y, left)))
    (hs : ∀ {seen}, part.key ∉ seen → slot.isFilled (draft seen) = false ∧
      set (draft seen) y = draft (part.key :: seen)) : Fits draft slot part where
  key := hk
  vacant hn := (hs hn).1
  fill := by
    intro seen b v hn hb hv rest hr
    rw [ht] at hv
    rw [hf, h.takes hb hv rest hr, ← (hs hn).2]
    rfl

/-- The slot under a key is that of a part, or there is no part with this key. -/
theorem find?_slot (h : List.Forall₂ (Fits draft) slots parts) (key : String) :
    (∃ slot part, slots.find? (fun slot => slot.key == key) = some slot ∧ part ∈ parts ∧
      part.key = key ∧ Fits draft slot part) ∨
    slots.find? (fun slot => slot.key == key) = none ∧ key ∉ parts.map Part.key := by
  induction h with
  | nil => exact .inr ⟨rfl, List.not_mem_nil⟩
  | @cons slot part slots parts hfits _ ih =>
    by_cases hk : part.key = key
    · have hb : (slot.key == key) = true := beq_iff_eq.mpr (hfits.key.trans hk)
      exact .inl ⟨slot, part, List.find?_cons_of_pos hb, List.mem_cons_self, hk, hfits⟩
    · have hb : ¬ (slot.key == key) = true := fun hb => hk (hfits.key ▸ beq_iff_eq.mp hb)
      have hf : (slot :: slots).find? (fun slot => slot.key == key) =
          slots.find? (fun slot => slot.key == key) := List.find?_cons_of_neg hb
      rw [hf, List.map_cons, List.mem_cons, not_or]
      rcases ih with ⟨slot', part', hf, hp, hk', hfits'⟩ | ⟨hn, hp⟩
      · exact .inl ⟨slot', part', hf, List.mem_cons_of_mem _ hp, hk', hfits'⟩
      · exact .inr ⟨hn, Ne.symm hk, hp⟩

/-! ## Members -/

/-- The value of a member is written as its part asks, or in any way if it has none. -/
structure IsMember (parts : List Part) (p : String × List Char) : Prop where
  known : ∀ part ∈ parts, part.key = p.1 → part.Text p.2
  unknown : p.1 ∉ parts.map Part.key → ∃ nesting, ValueText nesting p.2

theorem IsRecord.isMember {members : List (String × List Char)} (h : IsRecord parts members)
    {p : String × List Char} (hp : p ∈ members) : IsMember parts p := by
  refine ⟨fun part hpart hk => ?_, h.unknown p hp⟩
  rcases h.known part hpart with ⟨v, hv, ht⟩ | ⟨-, hn⟩
  · have hget := Fields.get?_of_mem h.distinct hp
    rw [← hk, Fields.get?_of_mem h.distinct hv] at hget
    cases hget
    exact ht
  · exact absurd (List.mem_map_of_mem hp) (hk ▸ hn)

variable {empty : δ} {complete : δ → Option α} {x : α} {cs : List Char}

/-- A member that has not been seen adds its key to the draft. -/
theorem member_memberText (h : Assembles slots empty complete parts draft x) {seen : List String}
    {p : String × List Char} (hs : p.1 ∉ seen) (hp : IsMember parts p)
    (ht : MemberText StringText Eq p cs) :
    ∃ tail, cs = '"' :: tail ∧ Takes (member slots (draft seen)) (draft (p.1 :: seen)) tail := by
  obtain ⟨key, value⟩ := p
  obtain ⟨k, b, b', v, rfl, hb, hb', hkey, rfl⟩ := ht
  obtain ⟨tail, rfl, hread⟩ := coversKeys_stringBody hkey
  refine ⟨tail ++ (b ++ ':' :: (b' ++ value)), rfl, fun rest hr => ?_⟩
  simp only [List.append_assoc, List.cons_append]
  rw [member, hread _ (stopsNumber_append hb (stopsNumber_mark (by decide) _))]
  dsimp only
  rcases find?_slot h.fits key with ⟨slot, part, hf, hpart, rfl, hfits⟩ | ⟨hf, hn⟩
  · have hfill := hfits.fill hs hb' (hp.known part hpart rfl) rest hr
    rw [List.append_assoc] at hfill
    rw [hf]
    dsimp only
    rw [hfits.vacant hs, if_neg (by decide), colon_blanks hb]
    exact hfill
  · have hskip := covers_skipValue.takes (x := ()) hb' (hp.unknown hn) rest hr
    rw [List.append_assoc] at hskip
    rw [hf]
    dsimp only
    rw [colon_blanks hb]
    dsimp only
    rw [hskip, h.ignores hn]
    rfl

/-- The induction is on the text; each member adds its key to those that have been seen. -/
theorem moreMembers_tailText (h : Assembles slots empty complete parts draft x)
    {members : List (String × List Char)}
    (ht : TailText '\x7d' (MemberText StringText Eq) members cs)
    (hm : ∀ p ∈ members, IsMember parts p) (hd : Fields.Distinct members) {seen : List String}
    (hs : ∀ p ∈ members, p.1 ∉ seen) (rest : List Char) {limit : Nat}
    (hl : members.length < limit) :
    moreMembers slots limit (draft seen) (cs ++ rest) =
      .ok (draft ((Fields.keys members).reverse ++ seen), rest) := by
  induction ht generalizing seen limit with
  | close hb =>
    obtain ⟨limit, rfl⟩ : ∃ l, limit = l + 1 := ⟨limit - 1, by omega⟩
    rw [List.append_assoc, moreMembers, List.singleton_append, skipBlanks_append_cons hb rfl]
    rfl
  | @comma b b' t cs p members hb hb' ht hts ih =>
    rw [List.length_cons] at hl
    obtain ⟨limit, rfl⟩ : ∃ l, limit = l + 1 := ⟨limit - 1, by omega⟩
    obtain ⟨hp, hm⟩ := List.forall_mem_cons.mp hm
    obtain ⟨hsp, hs⟩ := List.forall_mem_cons.mp hs
    obtain ⟨hpd, hd⟩ := List.nodup_cons.mp hd
    obtain ⟨tail, rfl, hread⟩ := member_memberText h hsp hp ht
    have hmore := @ih hm hd (p.1 :: seen) (fun q hq hqs => ?_) limit (by omega)
    · simp only [List.append_assoc, List.cons_append]
      rw [moreMembers, skipBlanks_append_cons hb rfl]
      dsimp only
      rw [if_neg (by decide), if_pos rfl, skipBlanks_append_cons hb' rfl]
      simp only
      rw [hread _ (hts.stopsNumber (by decide) rest)]
      dsimp only
      rw [hmore, Fields.keys, Fields.keys, List.map_cons, List.reverse_cons, List.append_assoc,
        List.singleton_append]
    · rcases List.mem_cons.mp hqs with hqp | hqs
      · exact hpd (hqp ▸ List.mem_map_of_mem hq)
      · exact hs q hq hqs

theorem members_objectText (h : Assembles slots empty complete parts draft x)
    {members : List (String × List Char)} (hm : IsRecord parts members)
    (ht : ObjectText StringText Eq members cs) :
    ∃ tail, cs = '\x7b' :: tail ∧ ∀ rest, Json.members slots empty (tail ++ rest) =
      .ok (draft (Fields.keys members).reverse, rest) := by
  have hmember : ∀ p ∈ members, IsMember parts p := fun p hp => hm.isMember hp
  have hdistinct := hm.distinct
  clear hm
  cases ht with
  | empty hb =>
    refine ⟨_, rfl, fun rest => ?_⟩
    rw [List.append_assoc, Json.members, List.singleton_append, skipBlanks_append_cons hb rfl,
      ← h.empty_eq]
    rfl
  | @items b t cs p members hb ht hts =>
    refine ⟨_, rfl, fun rest => ?_⟩
    obtain ⟨hp, hm⟩ := List.forall_mem_cons.mp hmember
    obtain ⟨hpd, hd⟩ := List.nodup_cons.mp hdistinct
    obtain ⟨tail, rfl, hread⟩ := member_memberText h List.not_mem_nil hp ht
    have hl := hts.length_lt
    have hs : ∀ q ∈ members, q.1 ∉ [p.1] := fun q hq hqs =>
      hpd (List.mem_singleton.mp hqs ▸ List.mem_map_of_mem hq)
    simp only [List.append_assoc, List.cons_append]
    rw [Json.members, skipBlanks_append_cons hb rfl, ← h.empty_eq]
    simp only
    rw [hread _ (hts.stopsNumber (by decide) rest)]
    dsimp only
    rw [moreMembers_tailText h hts hm hd hs rest (by rw [List.length_append]; omega),
      Fields.keys, Fields.keys, List.map_cons, List.reverse_cons]

/-! ## Records -/

/-- The members of a record, in any order and among any others, complete it. -/
theorem covers_record {parts : α → List Part} {draft : α → List String → δ}
    (h : ∀ x, Assembles slots empty complete (parts x) (draft x) x) :
    Covers (record slots empty complete) (fun x => RecordText (parts x)) where
  begins := fun ⟨_, _, ht⟩ => BracketText.begins ht rfl (by decide)
  takes := by
    rintro x b cs hb ⟨members, hm, ht⟩ rest -
    obtain ⟨tail, rfl, hread⟩ := members_objectText (h x) hm ht
    have hc : complete (draft x (Fields.keys members).reverse) = some x := by
      refine (h x).completes fun part hpart => ?_
      rcases hm.known part hpart with ⟨v, hv, -⟩ | ⟨ho, -⟩
      · exact .inl (List.mem_reverse.mpr (List.mem_map_of_mem hv))
      · exact .inr ho
    rw [List.append_assoc, List.cons_append, record, skipBlanks_append_cons hb rfl]
    simp only
    rw [hread]
    dsimp only
    rw [hc]

/-! ## Layouts of a record -/

section

variable {members : List (String × List Char)}

/-- A record with one member for each part, in their order. -/
theorem isRecord_of_forall₂ (hd : Fields.Distinct members)
    (h : List.Forall₂ (fun part p => part.key = p.1 ∧ part.Text p.2) parts members) :
    IsRecord parts members := by
  refine ⟨hd, fun part hpart => ?_, fun p hp hn => ?_⟩
  · obtain ⟨p, hp, hk, ht⟩ := exists_mem_left h.flip hpart
    exact .inl ⟨p.2, hk ▸ hp, ht⟩
  · obtain ⟨part, hpart, hk, -⟩ := exists_mem_left h hp
    exact absurd (List.mem_map.mpr ⟨part, hpart, hk⟩) hn

theorem IsRecord.append_optional (h : IsRecord parts members) {part : Part} (ho : part.optional)
    (hk : part.key ∉ Fields.keys members) : IsRecord (parts ++ [part]) members := by
  refine ⟨h.distinct, fun part' hpart => ?_, fun p hp hn => h.unknown p hp fun hm => hn ?_⟩
  · rcases List.mem_append.mp hpart with hpart | hpart
    · exact h.known part' hpart
    · rw [List.mem_singleton.mp hpart]
      exact .inr ⟨ho, hk⟩
  · rw [List.map_append]
    exact List.mem_append_left _ hm

theorem IsRecord.perm {members' : List (String × List Char)} (h : IsRecord parts members)
    (hp : members.Perm members') : IsRecord parts members' where
  distinct := Fields.distinct_perm hp h.distinct
  known part hpart := by
    rcases h.known part hpart with ⟨v, hv, ht⟩ | ⟨ho, hk⟩
    · exact .inl ⟨v, hp.mem_iff.mp hv, ht⟩
    · exact .inr ⟨ho, fun hm => hk ((hp.map Prod.fst).mem_iff.mpr hm)⟩
  unknown p hm := h.unknown p (hp.mem_iff.mpr hm)

theorem IsRecord.cons_unknown (h : IsRecord parts members) {key : String} {v : List Char}
    (hk : key ∉ parts.map Part.key) (hn : key ∉ Fields.keys members)
    (hv : ∃ nesting, ValueText nesting v) : IsRecord parts ((key, v) :: members) where
  distinct := List.nodup_cons.mpr ⟨hn, h.distinct⟩
  known part hpart := by
    rcases h.known part hpart with ⟨w, hw, ht⟩ | ⟨ho, hm⟩
    · exact .inl ⟨w, List.mem_cons_of_mem _ hw, ht⟩
    · have hne : part.key ≠ key := fun he => hk (List.mem_map.mpr ⟨part, hpart, he⟩)
      exact .inr ⟨ho, fun hc => (List.mem_cons.mp hc).elim hne hm⟩
  unknown := List.forall_mem_cons.mpr ⟨fun _ => hv, h.unknown⟩

end

/-- A written object is a record if its fields, as they are written, are those of one. -/
theorem recordText_object {fields : List (String × Node)}
    (h : IsRecord parts (Fields.mapValues Node.chars fields)) :
    RecordText parts (Node.object fields).chars := by
  have ht : ObjectText StringText (fun node t => node.chars = t) fields
      (Node.object fields).chars := objectText_object fun _ _ => rfl
  exact ⟨_, h, ht.mapValues Node.chars⟩

end QueryWire.Json

/-
  Readers against the grammar of texts.

  A reader covers a relation between data and texts if it takes each text, with
  blanks in front and whatever follows, for the data (`Covers`).  The reader of
  strings does so whatever the escapes (`covers_typedString`), and the loops that
  read lists and objects do so if the readers of their parts do
  (`covers_typedList`, `entries_objectText`).
-/
import QueryWire.Json.Typed
import QueryWire.Proofs.Json.NumberText
import QueryWire.Proofs.Json.StringText

namespace QueryWire.Json

/-! ## Readers and texts -/

section

variable {α : Type}

/-- The reader takes the characters for the datum, and leaves what follows them. -/
def Takes (read : Reader α) (x : α) (cs : List Char) : Prop :=
  ∀ rest, StopsNumber rest → read (cs ++ rest) = .ok (x, rest)

/-- The text begins with neither a blank nor the end of a list. -/
def Begins (cs : List Char) : Prop :=
  ∃ c tail, cs = c :: tail ∧ isBlank c = false ∧ c ≠ ']'

/-- The reader takes each text for what it is a text of. -/
structure Covers (read : Reader α) (Text : α → List Char → Prop) : Prop where
  begins : ∀ {x cs}, Text x cs → Begins cs
  takes : ∀ {x b cs}, Blanks b → Text x cs → Takes read x (b ++ cs)

end

/-! ## Blanks -/

section

variable {b cs : List Char}

theorem blanks_nil : Blanks [] :=
  fun _ hc => by cases hc

theorem skipBlanks_cons {c : Char} (h : isBlank c = false) (cs : List Char) :
    skipBlanks (c :: cs) = c :: cs :=
  List.dropWhile_cons_of_neg (by rw [h]; decide)

theorem skipBlanks_append (hb : Blanks b) (cs : List Char) :
    skipBlanks (b ++ cs) = skipBlanks cs :=
  List.dropWhile_append_of_pos hb

theorem skipBlanks_append_cons (hb : Blanks b) {c : Char} (hc : isBlank c = false) :
    skipBlanks (b ++ c :: cs) = c :: cs := by
  rw [skipBlanks_append hb, skipBlanks_cons hc]

theorem skipBlanks_eq_nil (hb : Blanks b) : skipBlanks b = [] := by
  have h := skipBlanks_append hb []
  rwa [List.append_nil] at h

theorem stopsNumber_of_isBlank {c : Char} (hc : isBlank c = true) (cs : List Char) :
    StopsNumber (c :: cs) := by
  rintro _ ⟨⟩
  simp only [isBlank, Bool.or_eq_true, beq_iff_eq] at hc
  rcases hc with ((rfl | rfl) | rfl) | rfl <;> decide

/-- No number goes on with a mark between tokens. -/
theorem stopsNumber_mark {c : Char} (hc : c ∈ [',', ':', ']', '\x7d']) (cs : List Char) :
    StopsNumber (c :: cs) := by
  rintro _ ⟨⟩
  simp only [List.mem_cons, List.not_mem_nil, or_false] at hc
  rcases hc with rfl | rfl | rfl | rfl <;> decide

theorem stopsNumber_append (hb : Blanks b) (hc : StopsNumber cs) : StopsNumber (b ++ cs) := by
  cases b with
  | nil => exact hc
  | cons c b => exact stopsNumber_of_isBlank (hb c List.mem_cons_self) _

theorem stopsNumber_nil : StopsNumber [] :=
  fun _ hc => by cases hc

end

/-! ## Strings -/

theorem StringText.exists_takes {s : String} {cs : List Char} (h : StringText s cs) :
    ∃ tail, cs = '"' :: tail ∧ Takes stringBody s tail := by
  obtain ⟨tail, rfl, hread⟩ := h.exists_stringBody
  exact ⟨tail, rfl, fun rest _ => hread rest⟩

theorem begins_quote (tail : List Char) : Begins ('"' :: tail) :=
  ⟨_, _, rfl, rfl, by decide⟩

theorem covers_typedString : Covers typedString StringText where
  begins h := by
    obtain ⟨tail, rfl, -⟩ := h.exists_takes
    exact begins_quote tail
  takes hb h rest hr := by
    obtain ⟨tail, rfl, ht⟩ := h.exists_takes
    rw [List.append_assoc, List.cons_append, typedString, skipBlanks_append_cons hb rfl]
    exact ht rest hr

/-! ## Lists -/

section

variable {α : Type} {read : Reader α} {xs : List α} {cs : List Char}

/-- An item that can be read where no blanks are in front of it, and that is not
    taken for the end. -/
def Item (closing : Char) (read : Reader α) (x : α) (t : List Char) : Prop :=
  (∃ c tail, t = c :: tail ∧ isBlank c = false ∧ c ≠ closing) ∧ Takes read x t

theorem Covers.item {Text : α → List Char → Prop} (h : Covers read Text) {x : α} {t : List Char}
    (ht : Text x t) : Item ']' read x t :=
  ⟨h.begins ht, h.takes blanks_nil ht⟩

theorem TailText.stopsNumber {closing : Char} {Text : α → List Char → Prop}
    (h : TailText closing Text xs cs) (hc : closing ∈ [',', ':', ']', '\x7d'])
    (rest : List Char) : StopsNumber (cs ++ rest) := by
  cases h with
  | close hb =>
    rw [List.append_assoc]
    exact stopsNumber_append hb (stopsNumber_mark hc _)
  | comma hb =>
    rw [List.append_assoc]
    exact stopsNumber_append hb (stopsNumber_mark (by decide) _)

variable {brackets : Brackets}

theorem Brackets.closing_mark (brackets : Brackets) :
    brackets.closing ∈ [',', ':', ']', '\x7d'] := by
  cases brackets <;> decide

theorem Brackets.isBlank_closing (brackets : Brackets) : isBlank brackets.closing = false := by
  cases brackets <;> rfl

theorem Brackets.comma_ne_closing (brackets : Brackets) : ',' ≠ brackets.closing := by
  cases brackets <;> decide

theorem moreItems_comma {b b' : List Char} (hb : Blanks b) (hb' : Blanks b') {c : Char}
    {cs left : List Char} {x : α} (hc : isBlank c = false) (hne : c ≠ brackets.closing)
    (h : read (c :: cs) = .ok (x, left)) (limit : Nat) :
    moreItems brackets read (limit + 1) (b ++ ',' :: (b' ++ c :: cs)) =
      (moreItems brackets read limit left).map (fun (xs, left) => (x :: xs, left)) := by
  have hhead : (c :: cs).head? ≠ some brackets.closing := fun he => hne (Option.some.inj he)
  rw [moreItems, skipBlanks_append_cons hb rfl]
  dsimp only
  rw [if_neg brackets.comma_ne_closing, if_pos rfl, skipBlanks_append_cons hb' hc, if_neg hhead, h]

theorem moreItems_tailText (h : TailText brackets.closing (Item brackets.closing read) xs cs)
    (rest : List Char) {limit : Nat} (hl : xs.length < limit) :
    moreItems brackets read limit (cs ++ rest) = .ok (xs, rest) := by
  induction h generalizing limit with
  | close hb =>
    obtain ⟨limit, rfl⟩ : ∃ l, limit = l + 1 := ⟨limit - 1, by omega⟩
    rw [List.append_assoc, moreItems, List.singleton_append,
      skipBlanks_append_cons hb brackets.isBlank_closing]
    exact if_pos rfl
  | comma hb hb' hx hxs ih =>
    rw [List.length_cons] at hl
    obtain ⟨limit, rfl⟩ : ∃ l, limit = l + 1 := ⟨limit - 1, by omega⟩
    obtain ⟨⟨c, tail, rfl, hc, hne⟩, htakes⟩ := hx
    have hread := htakes _ (hxs.stopsNumber brackets.closing_mark rest)
    simp only [List.append_assoc, List.cons_append] at hread ⊢
    rw [moreItems_comma hb hb' hc hne hread, ih (by omega)]
    rfl

theorem bracketed_bracketText {opening : Char}
    (h : BracketText opening brackets.closing (Item brackets.closing read) xs cs) :
    ∃ tail, cs = opening :: tail ∧
      ∀ rest, bracketed brackets read (tail ++ rest) = .ok (xs, rest) := by
  cases h with
  | empty hb =>
    refine ⟨_, rfl, fun rest => ?_⟩
    rw [List.append_assoc, bracketed, List.singleton_append,
      skipBlanks_append_cons hb brackets.isBlank_closing]
    exact if_pos rfl
  | items hb hx hxs =>
    refine ⟨_, rfl, fun rest => ?_⟩
    obtain ⟨⟨c, tail, rfl, hc, hne⟩, htakes⟩ := hx
    have hread := htakes _ (hxs.stopsNumber brackets.closing_mark rest)
    have hl := hxs.length_lt
    simp only [List.append_assoc, List.cons_append] at hread ⊢
    rw [bracketed, skipBlanks_append_cons hb hc]
    dsimp only
    rw [if_neg hne, hread]
    dsimp only
    rw [moreItems_tailText hxs rest (by rw [List.length_append]; omega)]
    rfl

theorem items_listText (h : ListText (Item ']' read) xs cs) :
    ∃ tail, cs = '[' :: tail ∧ ∀ rest, items read (tail ++ rest) = .ok (xs, rest) :=
  @bracketed_bracketText α read xs cs .list '[' h

theorem covers_typedList {Text : α → List Char → Prop} (h : Covers read Text) :
    Covers (typedList read) (ListText Text) where
  begins ht := by cases ht <;> exact ⟨_, _, rfl, rfl, by decide⟩
  takes hb ht rest _ := by
    obtain ⟨tail, rfl, hitems⟩ := items_listText (ht.imp fun _ _ hx _ => h.item hx)
    rw [List.append_assoc, List.cons_append, typedList, skipBlanks_append_cons hb rfl]
    exact hitems rest

end

/-! ## Objects -/

theorem colon_blanks {b : List Char} (hb : Blanks b) (cs : List Char) :
    colon (b ++ ':' :: cs) = .ok ((), cs) := by
  rw [colon, skipBlanks_append_cons hb rfl]
  rfl

section

variable {κ α : Type} {Key : κ → List Char → Prop} {Value : α → List Char → Prop}
  {key : Reader κ} {read : Reader α}

/-- The reader of the inside of a key, with its closing mark, takes the keys for what they are. -/
def CoversKeys (key : Reader κ) (Key : κ → List Char → Prop) : Prop :=
  ∀ {k cs}, Key k cs → ∃ tail, cs = '"' :: tail ∧ Takes key k tail

theorem coversKeys_stringBody : CoversKeys stringBody StringText :=
  StringText.exists_takes

theorem entry_memberText (hk : CoversKeys key Key) (hv : Covers read Value) {p : κ × α}
    {cs : List Char} (h : MemberText Key Value p cs) : Item '\x7d' (entry read key) p cs := by
  obtain ⟨k, b, b', v, rfl, hb, hb', hkey, hvalue⟩ := h
  obtain ⟨tail, rfl, hread⟩ := hk hkey
  refine ⟨⟨_, _, rfl, rfl, by decide⟩, fun rest hr => ?_⟩
  simp only [List.append_assoc, List.cons_append]
  rw [entry, hread _ (stopsNumber_append hb (stopsNumber_mark (by decide) _))]
  dsimp only
  rw [colon_blanks hb]
  dsimp only
  rw [← List.append_assoc, hv.takes hb' hvalue rest hr]
  rfl

end

theorem entries_bracketText {π : Type} {pair : Reader π} {ps : List π} {cs : List Char}
    (h : BracketText '\x7b' '\x7d' (Item '\x7d' pair) ps cs) :
    ∃ tail, cs = '\x7b' :: tail ∧ ∀ rest, entries pair (tail ++ rest) = .ok (ps, rest) :=
  @bracketed_bracketText π pair ps cs .object '\x7b' h

theorem entries_objectText {κ α : Type} {Key : κ → List Char → Prop}
    {Value : α → List Char → Prop} {key : Reader κ} {read : Reader α} (hk : CoversKeys key Key)
    (hv : Covers read Value) {members : List (κ × α)} {cs : List Char}
    (h : ObjectText Key Value members cs) :
    ∃ tail, cs = '\x7b' :: tail ∧
      ∀ rest, entries (entry read key) (tail ++ rest) = .ok (members, rest) :=
  entries_bracketText (BracketText.imp h fun _ _ ht _ => entry_memberText hk hv ht)

end QueryWire.Json

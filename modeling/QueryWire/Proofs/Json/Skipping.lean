/-
  Skipping takes any value of the grammar.

  Strings are skipped with escapes that stand for no character, and numbers of
  any size.  The induction is on the nesting of the value; the brackets that may
  be open are more than its characters, and a part has fewer characters than the
  value (`covers_skipNested`).  So no value is nested too deep to be skipped
  (`covers_skipValue`).
-/
import QueryWire.Json.Typed
import QueryWire.Proofs.Json.DocumentText

namespace QueryWire.Json

open Text
open Numeral (StopsDigits stopsDigits_cons dropWhile_digits)

/-! ## Strings -/

theorem skipEscape_short {e : Char} (he : (shortEscape? e).isSome = true) (cs : List Char) :
    skipEscape (e :: cs) = .ok ((), cs) := by
  have hu : e ≠ 'u' := by
    rintro rfl
    cases he
  rw [skipEscape, if_neg hu, if_pos he]

theorem skipEscape_code {n : Nat} {digits : List Char} (hd : HexText n digits) (cs : List Char) :
    skipEscape ('u' :: (digits ++ cs)) = .ok ((), cs) := by
  rw [skipEscape, if_pos rfl, codeUnit_append hd]
  rfl

theorem skipStringTail_escape {limit : Nat} {cs left : List Char}
    (h : skipEscape cs = .ok ((), left)) :
    skipStringTail (limit + 1) ('\\' :: cs) = skipStringTail limit left := by
  rw [skipStringTail, if_neg (by decide), if_pos rfl, h]

theorem skipStringTail_rawText {cs : List Char} (h : RawText cs) (rest : List Char) {limit : Nat}
    (hl : cs.length < limit) : skipStringTail limit (cs ++ '"' :: rest) = .ok ((), rest) := by
  induction h generalizing limit with
  | nil =>
    obtain ⟨limit, rfl⟩ : ∃ l, limit = l + 1 := ⟨limit - 1, by omega⟩
    rfl
  | plain hc _ ih =>
    rw [List.length_cons] at hl
    obtain ⟨limit, rfl⟩ : ∃ l, limit = l + 1 := ⟨limit - 1, by omega⟩
    rw [List.cons_append, skipStringTail, if_neg hc.quote, if_neg hc.backslash,
      if_neg (Nat.not_lt.mpr hc.control), ih (by omega)]
  | short he _ ih =>
    simp only [List.length_cons] at hl
    obtain ⟨limit, rfl⟩ : ∃ l, limit = l + 1 := ⟨limit - 1, by omega⟩
    rw [List.cons_append, List.cons_append, skipStringTail_escape (skipEscape_short he _),
      ih (by omega)]
  | code hd _ ih =>
    simp only [List.length_cons, List.length_append] at hl
    obtain ⟨limit, rfl⟩ : ∃ l, limit = l + 1 := ⟨limit - 1, by omega⟩
    rw [List.cons_append, List.cons_append, List.append_assoc,
      skipStringTail_escape (skipEscape_code hd _), ih (by omega)]

theorem coversKeys_skipString : CoversKeys skipString (fun (_ : Unit) => RawString) := by
  rintro _ _ ⟨inside, rfl, h⟩
  refine ⟨_, rfl, fun rest _ => ?_⟩
  rw [List.append_assoc, List.singleton_append, skipString,
    skipStringTail_rawText h rest (by rw [List.length_append]; omega)]

/-! ## Numbers -/

theorem Digits.exists_cons {ds : List Char} (h : Digits ds) :
    ∃ c tail, ds = c :: tail ∧ c.isDigit = true ∧ ∀ d ∈ tail, d.isDigit = true := by
  obtain ⟨hne, hd⟩ := h
  obtain ⟨c, tail, rfl⟩ := List.exists_cons_of_ne_nil hne
  exact ⟨c, tail, rfl, List.forall_mem_cons.mp hd⟩

theorem ne_of_isDigit {c d : Char} (hc : c.isDigit = true) (hd : d.isDigit = false) : c ≠ d := by
  rintro rfl
  rw [hc] at hd
  cases hd

theorem takes_skipSomeDigits {ds : List Char} (h : Digits ds) : Takes skipSomeDigits () ds := by
  intro rest hr
  obtain ⟨c, tail, rfl, hc, hd⟩ := h.exists_cons
  rw [List.cons_append, skipSomeDigits, if_pos hc, dropWhile_digits hd hr.stopsDigits]

theorem takes_skipExponent {cs : List Char} (h : ExponentText cs) : Takes skipExponent () cs := by
  intro rest hr
  rcases h with rfl | ⟨e, sign, ds, he, hs, hd, rfl⟩
  · cases rest with
    | nil => rfl
    | cons c cs =>
      obtain ⟨-, -, he, hE⟩ := hr c rfl
      rw [List.nil_append, skipExponent.eq_def]
      exact if_neg fun h => h.elim he hE
  · have hdigits := takes_skipSomeDigits hd rest hr
    rw [List.cons_append, List.append_assoc, skipExponent.eq_def]
    dsimp only
    rw [if_pos he]
    rcases hs with rfl | rfl | rfl
    · obtain ⟨c, tail, rfl, hc, -⟩ := hd.exists_cons
      rw [List.nil_append]
      split
      · rename_i heq
        exact absurd (List.cons.inj heq).1 (ne_of_isDigit hc rfl)
      · rename_i heq
        exact absurd (List.cons.inj heq).1 (ne_of_isDigit hc rfl)
      · exact hdigits
    · exact hdigits
    · exact hdigits

/-- Neither a fraction nor an exponent nor what follows a number begins with a digit. -/
theorem stopsDigits_tail {fraction exponent : List Char} (hf : FractionText fraction)
    (he : ExponentText exponent) {rest : List Char} (hr : StopsNumber rest) :
    StopsDigits (fraction ++ (exponent ++ rest)) := by
  rcases hf with rfl | ⟨ds, -, rfl⟩
  · rcases he with rfl | ⟨e, sign, ds, rfl | rfl, -, -, rfl⟩
    · exact hr.stopsDigits
    · exact stopsDigits_cons rfl _
    · exact stopsDigits_cons rfl _
  · exact stopsDigits_cons rfl _

theorem skipFraction_of_ne {cs : List Char} (h : ∀ c ∈ cs.head?, c ≠ '.') :
    skipFraction cs = skipExponent cs := by
  unfold skipFraction
  split
  · exact absurd rfl (h '.' rfl)
  · rfl

theorem skipFraction_text {fraction exponent : List Char} (hf : FractionText fraction)
    (he : ExponentText exponent) {rest : List Char} (hr : StopsNumber rest) :
    skipFraction (fraction ++ (exponent ++ rest)) = .ok ((), rest) := by
  have hexponent := takes_skipExponent he rest hr
  rcases hf with rfl | ⟨ds, hd, rfl⟩
  · rw [List.nil_append, skipFraction_of_ne, hexponent]
    rcases he with rfl | ⟨e, sign, ds, rfl | rfl, -, -, rfl⟩
    · exact fun c hc => (hr c hc).2.1
    · rintro _ ⟨⟩
      decide
    · rintro _ ⟨⟩
      decide
  · -- digits end where the exponent begins, which need not end a number
    have hstops : StopsDigits (exponent ++ rest) := stopsDigits_tail (.inl rfl) he hr
    obtain ⟨c, tail, rfl, hc, htail⟩ := hd.exists_cons
    rw [List.cons_append, skipFraction, List.cons_append, skipSomeDigits, if_pos hc,
      dropWhile_digits htail hstops]
    exact hexponent

theorem skipUnsigned_text {whole fraction exponent : List Char} (hw : Digits whole)
    (hz : whole.head? = some '0' → whole = ['0']) (hf : FractionText fraction)
    (he : ExponentText exponent) {rest : List Char} (hr : StopsNumber rest) :
    skipUnsigned (whole ++ (fraction ++ (exponent ++ rest))) = .ok ((), rest) := by
  have hstops := stopsDigits_tail hf he hr
  have hskip := skipFraction_text hf he hr
  obtain ⟨c, tail, rfl, hc, htail⟩ := hw.exists_cons
  by_cases h0 : c = '0'
  · subst h0
    cases hz rfl
    rw [List.singleton_append, skipUnsigned.eq_def]
    dsimp only
    rw [if_pos rfl]
    split
    · rename_i d left heq
      rw [heq] at hstops hskip
      rw [if_neg (by rw [hstops d rfl]; decide), hskip]
    · rename_i heq
      rw [heq] at hskip
      exact hskip
  · rw [List.cons_append, skipUnsigned.eq_def]
    dsimp only
    rw [if_neg h0, if_pos hc, dropWhile_digits htail hstops, hskip]

theorem takes_skipNumber {cs : List Char} (h : NumberText cs) : Takes skipNumber () cs := by
  intro rest hr
  obtain ⟨sign, whole, fraction, exponent, rfl, hs, hw, hz, hf, he⟩ := h
  have hskip := skipUnsigned_text hw hz hf he hr
  simp only [List.append_assoc]
  rcases hs with rfl | rfl
  · obtain ⟨c, tail, rfl, hc, -⟩ := hw.exists_cons
    rw [List.nil_append]
    unfold skipNumber
    split
    · rename_i heq
      exact absurd (List.cons.inj heq).1 (ne_of_isDigit hc rfl)
    · exact hskip
  · exact hskip

theorem NumberText.exists_cons {cs : List Char} (h : NumberText cs) :
    ∃ c tail, cs = c :: tail ∧ startsNumber c = true := by
  obtain ⟨sign, whole, fraction, exponent, rfl, hs, hw, -⟩ := h
  rcases hs with rfl | rfl
  · obtain ⟨c, tail, rfl, hc, -⟩ := hw.exists_cons
    exact ⟨c, _, rfl, by rw [startsNumber, hc, Bool.or_true]⟩
  · exact ⟨'-', _, rfl, rfl⟩

/-! ## Values -/

variable {inner : Reader Unit} {cs : List Char}

theorem skipWith_blanks {b : List Char} (hb : Blanks b) (cs : List Char) :
    skipWith inner (b ++ cs) = skipWith inner cs := by
  rw [skipWith, skipWith, skipBlanks_append hb]

theorem skipWith_number {c : Char} (h : startsNumber c = true) (cs : List Char) :
    skipWith inner (c :: cs) = skipNumber (c :: cs) := by
  have hn := isNumberChar_of_startsNumber h
  have hne : ∀ d, Decimal.isNumberChar d = false → c ≠ d := fun d => ne_of_isNumberChar hn
  rw [skipWith, skipBlanks_cons (isBlank_of_isNumberChar hn)]
  dsimp only
  rw [if_neg (hne 'n' rfl), if_neg (hne 't' rfl), if_neg (hne 'f' rfl), if_neg (hne '"' rfl),
    if_pos h]

theorem takes_skipWith_scalar (h : ScalarText cs) : Takes (skipWith inner) () cs := by
  intro rest hr
  rcases h with (rfl | rfl | rfl) | hstring | hnumber
  · rfl
  · rfl
  · rfl
  · obtain ⟨tail, rfl, hread⟩ := coversKeys_skipString (k := ()) hstring
    exact hread rest hr
  · have hread := takes_skipNumber hnumber rest hr
    obtain ⟨c, tail, rfl, hc⟩ := hnumber.exists_cons
    rw [List.cons_append, skipWith_number hc]
    exact hread

theorem takes_skipWith_list {items : List Unit} (h : ListText (Item ']' inner) items cs) :
    Takes (skipWith inner) () cs := by
  intro rest _
  obtain ⟨tail, rfl, hread⟩ := items_listText h
  have hv : ∀ cs, skipWith inner ('[' :: cs) =
      (Json.items inner cs).map (fun p => ((), p.2)) := fun cs => rfl
  rw [List.cons_append, hv, hread]
  rfl

theorem takes_skipWith_object {members : List (Unit × Unit)}
    (h : BracketText '\x7b' '\x7d' (Item '\x7d' (entry inner skipString)) members cs) :
    Takes (skipWith inner) () cs := by
  intro rest _
  obtain ⟨tail, rfl, hread⟩ := entries_bracketText h
  have hv : ∀ cs, skipWith inner ('\x7b' :: cs) =
      (entries (entry inner skipString) cs).map (fun p => ((), p.2)) := fun cs => rfl
  rw [List.cons_append, hv, hread]
  rfl

theorem ScalarText.begins (h : ScalarText cs) : Begins cs := by
  rcases h with (rfl | rfl | rfl) | ⟨inside, rfl, -⟩ | hnumber
  · exact ⟨_, _, rfl, rfl, by decide⟩
  · exact ⟨_, _, rfl, rfl, by decide⟩
  · exact ⟨_, _, rfl, rfl, by decide⟩
  · exact begins_quote _
  · obtain ⟨c, tail, rfl, hc⟩ := hnumber.exists_cons
    have hn := isNumberChar_of_startsNumber hc
    exact ⟨c, tail, rfl, isBlank_of_isNumberChar hn, ne_of_isNumberChar hn rfl⟩

theorem BracketText.begins {α : Type} {opening closing : Char} {Text : α → List Char → Prop}
    {xs : List α} (h : BracketText opening closing Text xs cs) (hb : isBlank opening = false)
    (hc : opening ≠ ']') : Begins cs := by
  cases h <;> exact ⟨_, _, rfl, hb, hc⟩

theorem ValueText.begins {nesting : Nat} (h : ValueText nesting cs) : Begins cs := by
  cases nesting with
  | zero => exact ScalarText.begins h
  | succ nesting =>
    rcases h with h | ⟨items, h⟩ | ⟨members, h⟩
    · exact h.begins
    · exact BracketText.begins h rfl (by decide)
    · exact BracketText.begins h rfl (by decide)

/-- The value of a member is shorter than the object. -/
theorem ObjectText.imp_value {κ α : Type} {Key : κ → List Char → Prop}
    {Value Value' : α → List Char → Prop} {members : List (κ × α)}
    (h : ObjectText Key Value members cs)
    (hi : ∀ x t, Value x t → t.length < cs.length → Value' x t) :
    ObjectText Key Value' members cs := by
  refine BracketText.imp h ?_
  rintro p t ⟨k, b, b', v, rfl, hb, hb', hk, hv⟩ hl
  simp only [List.length_append, List.length_cons] at hl
  exact ⟨k, b, b', v, rfl, hb, hb', hk, hi _ _ hv (by omega)⟩

theorem covers_skipNested (nesting opens : Nat) :
    Covers (skipNested opens) (fun _ cs => ValueText nesting cs ∧ cs.length < opens) := by
  refine ⟨fun h => h.1.begins, ?_⟩
  induction nesting generalizing opens with
  | zero =>
    rintro _ b cs hb ⟨h, hl⟩ rest hr
    obtain ⟨opens, rfl⟩ : ∃ o, opens = o + 1 := ⟨opens - 1, by omega⟩
    rw [skipNested, List.append_assoc, skipWith_blanks hb]
    exact takes_skipWith_scalar h rest hr
  | succ nesting ih =>
    rintro _ b cs hb ⟨h, hl⟩ rest hr
    obtain ⟨opens, rfl⟩ : ∃ o, opens = o + 1 := ⟨opens - 1, by omega⟩
    have hc : Covers (skipNested opens)
        (fun (_ : Unit) cs => ValueText nesting cs ∧ cs.length < opens) :=
      ⟨fun h => h.1.begins, ih opens⟩
    rw [skipNested, List.append_assoc, skipWith_blanks hb]
    rcases h with h | ⟨items, h⟩ | ⟨members, h⟩
    · exact takes_skipWith_scalar h rest hr
    · refine takes_skipWith_list (BracketText.imp h fun x t ht htl => ?_) rest hr
      exact hc.item (x := x) ⟨ht, by omega⟩
    · have hshort := h.imp_value fun x t ht htl => (⟨ht, by omega⟩ : _ ∧ t.length < opens)
      refine takes_skipWith_object (BracketText.imp hshort fun p t ht _ => ?_) rest hr
      exact entry_memberText coversKeys_skipString hc ht

/-- Any value is skipped: no text opens more brackets than it has characters. -/
theorem covers_skipValue : Covers skipValue (fun _ cs => ∃ nesting, ValueText nesting cs) where
  begins := fun ⟨_, h⟩ => h.begins
  takes := by
    rintro _ b cs hb ⟨nesting, h⟩ rest hr
    have hl : cs.length < (b ++ cs ++ rest).length + 1 := by
      simp only [List.length_append]
      omega
    exact (covers_skipNested nesting _).takes hb ⟨h, hl⟩ rest hr

end QueryWire.Json

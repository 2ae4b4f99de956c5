/-
  Strings read back from any of their texts, whatever follows.

  Reading goes on behind each text of a character (`stringTail_charText`), so a
  string ends at the quotation mark behind the texts of its characters and at
  none inside (`StringText.exists_stringBody`).  The escaped form that is written
  is one of these texts (`stringText_stringChars`).
-/
import QueryWire.Json.Text
import QueryWire.Proofs.Json.Grammar

namespace QueryWire.Json

open Text (Numeral.hexDigit?)

/-! ## Escapes -/

theorem fourHexDigits?_append {n : Nat} {digits : List Char} (h : HexText n digits)
    (rest : List Char) : fourHexDigits? (digits ++ rest) = some (n, rest) := by
  unfold HexText fourHexDigits? at h
  split at h
  · rename_i a b c d tail
    split at h
    · rename_i ha hb hc hd
      cases h
      simp only [List.cons_append, List.nil_append, fourHexDigits?, ha, hb, hc, hd]
    · cases h
  · cases h

theorem codeUnit_append {n : Nat} {digits : List Char} (h : HexText n digits)
    (rest : List Char) : codeUnit (digits ++ rest) = .ok (n, rest) := by
  rw [codeUnit, fourHexDigits?_append h]

/-- A character is no half of a pair of surrogates. -/
theorem not_isSurrogate (c : Char) :
    isTrailingSurrogate c.toNat = false ∧ isLeadingSurrogate c.toNat = false := by
  have hv : c.toNat < 0xD800 ∨ 0xDFFF < c.toNat ∧ c.toNat < 0x110000 := c.valid
  refine ⟨decide_eq_false ?_, decide_eq_false ?_⟩ <;> omega

theorem unicodeEscape_code {c : Char} {digits : List Char} (h : HexText c.toNat digits)
    (rest : List Char) : unicodeEscape (digits ++ rest) = .ok (c, rest) := by
  obtain ⟨ht, hl⟩ := not_isSurrogate c
  rw [unicodeEscape, codeUnit_append h]
  dsimp only
  rw [ht, hl, Char.ofNat_toNat]
  rfl

theorem unicodeEscape_surrogates {m n : Nat} {ds es : List Char}
    (hm : isLeadingSurrogate m = true) (hn : isTrailingSurrogate n = true) (hd : HexText m ds)
    (he : HexText n es) (rest : List Char) :
    unicodeEscape (ds ++ '\\' :: 'u' :: (es ++ rest)) = .ok (surrogatePair m n, rest) := by
  have hmt : isTrailingSurrogate m = false := by
    have := of_decide_eq_true hm
    exact decide_eq_false (by omega)
  rw [unicodeEscape, codeUnit_append hd]
  dsimp only
  rw [hmt, if_neg (by decide), if_pos hm, trailingSurrogate, codeUnit_append he]
  dsimp only
  rw [if_pos hn]

theorem escapeSequence_short {c e : Char} (h : shortEscape? e = some c) (cs : List Char) :
    escapeSequence (e :: cs) = .ok (c, cs) := by
  have hu : e ≠ 'u' := by
    rintro rfl
    cases h
  rw [escapeSequence, if_neg hu, h]

/-! ## Strings -/

theorem stringTail_escape {limit : Nat} {c e : Char} {cs left : List Char}
    (h : escapeSequence (e :: cs) = .ok (c, left)) :
    stringTail (limit + 1) ('\\' :: e :: cs) =
      (stringTail limit left).map (fun (s, left) => (c :: s, left)) := by
  rw [stringTail, if_neg (by decide), if_pos rfl, h]

/-- Reading goes on behind each text of a character. -/
theorem stringTail_charText {c : Char} {t : List Char} (h : CharText c t) (limit : Nat)
    (cs : List Char) : stringTail (limit + 1) (t ++ cs) =
      (stringTail limit cs).map (fun (s, left) => (c :: s, left)) := by
  cases h with
  | plain hc =>
    rw [List.singleton_append, stringTail, if_neg hc.quote, if_neg hc.backslash,
      if_neg (Nat.not_lt.mpr hc.control)]
  | short he => exact stringTail_escape (escapeSequence_short he cs)
  | code hd => exact stringTail_escape (unicodeEscape_code hd cs)
  | surrogates hm hn hd he =>
    simp only [List.cons_append, List.append_assoc]
    exact stringTail_escape (unicodeEscape_surrogates hm hn hd he cs)

theorem stringTail_charsText {s cs : List Char} (h : CharsText s cs) (rest : List Char)
    {limit : Nat} (hl : s.length < limit) :
    stringTail limit (cs ++ '"' :: rest) = .ok (s, rest) := by
  induction h generalizing limit with
  | nil =>
    obtain ⟨limit, rfl⟩ : ∃ l, limit = l + 1 := ⟨limit - 1, by omega⟩
    rfl
  | cons hc _ ih =>
    rw [List.length_cons] at hl
    obtain ⟨limit, rfl⟩ : ∃ l, limit = l + 1 := ⟨limit - 1, by omega⟩
    rw [List.append_assoc, stringTail_charText hc, ih (by omega)]
    rfl

theorem CharsText.length_le {s cs : List Char} (h : CharsText s cs) : s.length ≤ cs.length := by
  induction h with
  | nil => exact Nat.le_refl _
  | cons hc _ ih =>
    have h1 : ∀ {c t}, CharText c t → 1 ≤ t.length := by rintro _ _ ⟨⟩ <;> simp
    have := h1 hc
    rw [List.length_append, List.length_cons]
    omega

/-- A text of a string without its opening mark is read, and reading stops right
    behind its closing mark. -/
theorem StringText.exists_stringBody {s : String} {cs : List Char} (h : StringText s cs) :
    ∃ tail, cs = '"' :: tail ∧ ∀ rest, stringBody (tail ++ rest) = .ok (s, rest) := by
  obtain ⟨inside, rfl, hs⟩ := h
  refine ⟨_, rfl, fun rest => ?_⟩
  have hl := hs.length_le
  rw [List.append_assoc, stringBody, List.singleton_append,
    stringTail_charsText hs rest (by rw [List.length_append]; omega)]
  exact congrArg (fun s => Except.ok (s, rest)) String.ofList_toList

/-! ## Written strings -/

theorem hexDigit?_digitChar {n : Nat} (h : n < 16) :
    Numeral.hexDigit? (Nat.digitChar n) = some n := by
  have ha : ∀ k, k < 16 → Numeral.hexDigit? (Nat.digitChar k) = some k := by decide
  exact ha n h

/-- A control is written by its code in four hexadecimal digits. -/
theorem hexText_control {c : Char} (h : c.toNat < 0x20) :
    HexText c.toNat ['0', '0', Nat.digitChar (c.toNat / 16), Nat.digitChar (c.toNat % 16)] := by
  have h0 : Numeral.hexDigit? '0' = some 0 := rfl
  rw [HexText, fourHexDigits?, h0, hexDigit?_digitChar (by omega), hexDigit?_digitChar (by omega)]
  have : ((0 * 16 + 0) * 16 + c.toNat / 16) * 16 + c.toNat % 16 = c.toNat := by omega
  exact congrArg (fun n => some (n, [])) this

theorem charText_escapedChar (c : Char) : CharText c (escapedChar c) := by
  unfold escapedChar
  by_cases hq : c = '"'
  · subst hq; exact .short rfl
  rw [if_neg hq]
  by_cases hb : c = '\\'
  · subst hb; exact .short rfl
  rw [if_neg hb]
  by_cases hn : c = '\n'
  · subst hn; exact .short rfl
  rw [if_neg hn]
  by_cases hr : c = '\r'
  · subst hr; exact .short rfl
  rw [if_neg hr]
  by_cases ht : c = '\t'
  · subst ht; exact .short rfl
  rw [if_neg ht]
  by_cases h8 : c.toNat = 8
  · obtain rfl : c = Char.ofNat 8 := by rw [← h8, Char.ofNat_toNat]
    exact .short rfl
  rw [if_neg h8]
  by_cases h12 : c.toNat = 12
  · obtain rfl : c = Char.ofNat 12 := by rw [← h12, Char.ofNat_toNat]
    exact .short rfl
  rw [if_neg h12]
  by_cases hc : c.toNat < 0x20
  · rw [if_pos hc]
    exact .code (hexText_control hc)
  · rw [if_neg hc]
    exact .plain ⟨Nat.not_lt.mp hc, hq, hb⟩

theorem charsText_flatMap (s : List Char) : CharsText s (s.flatMap escapedChar) := by
  induction s with
  | nil => exact .nil
  | cons c s ih => exact .cons (charText_escapedChar c) ih

theorem stringText_stringChars (s : String) : StringText s (stringChars s) :=
  ⟨_, rfl, charsText_flatMap s.toList⟩

theorem stringBody_stringChars (s : String) (rest : List Char) :
    stringBody ((stringChars s).tail ++ rest) = .ok (s, rest) := by
  obtain ⟨tail, ht, hread⟩ := (stringText_stringChars s).exists_stringBody
  rw [ht]
  exact hread rest

theorem stringChars_eq_cons (s : String) : stringChars s = '"' :: (stringChars s).tail :=
  rfl

/-- A written string ends in one place only. -/
theorem stringChars_append_inj {s t : String} {rest rest' : List Char}
    (h : stringChars s ++ rest = stringChars t ++ rest') : s = t ∧ rest = rest' := by
  rw [stringChars_eq_cons s, stringChars_eq_cons t, List.cons_append, List.cons_append] at h
  have hs := stringBody_stringChars s rest
  rw [(List.cons.inj h).2, stringBody_stringChars t rest'] at hs
  cases hs
  exact ⟨rfl, rfl⟩

end QueryWire.Json

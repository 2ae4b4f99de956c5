/-
  Numbers read back from their texts, whatever follows.

  The reader of numbers looks at one character beyond the number and no
  further.  So what it reads from a text it reads as well when more text
  follows that does not go on with the number (`streams_number`), and it is
  enough to know what it makes of the text alone.  The integers of 64 bits are
  read back in full (`number_ofNat`, `number_ofInt`).
-/
import QueryWire.Json.Numeral
import QueryWire.Json.Text
import QueryWire.Proofs.Numeral

namespace QueryWire.Json

open Text

/-- The text does not go on with a digit, a point or an exponent. -/
def StopsNumber (rest : List Char) : Prop :=
  ∀ c ∈ rest.head?, c.isDigit = false ∧ c ≠ '.' ∧ c ≠ 'e' ∧ c ≠ 'E'

theorem StopsNumber.stopsDigits {rest : List Char} (h : StopsNumber rest) :
    Numeral.StopsDigits rest :=
  fun c hc => (h c hc).1

/-- What the reader leaves is an end of its text, and text that stops a number
    can be added without a change. -/
def Streams {α : Type} (read : Reader α) : Prop :=
  ∀ cs x left, read cs = .ok (x, left) →
    left <:+ cs ∧ ∀ rest, StopsNumber rest → read (cs ++ rest) = .ok (x, left ++ rest)

/-! ## Digits -/

theorem digit?_of_isDigit {c : Char} (h : c.isDigit = true) :
    Numeral.digit? c = some (c.toNat - 48) :=
  if_pos h

theorem digit?_of_not_isDigit {c : Char} (h : c.isDigit = false) : Numeral.digit? c = none :=
  if_neg (by simp [h])

theorem gather_append {cs rest : List Char} (hr : Numeral.StopsDigits rest) (s t : Nat) :
    gather s t (cs ++ rest) =
      ((gather s t cs).1, (gather s t cs).2.1, (gather s t cs).2.2 ++ rest) := by
  induction cs generalizing s t with
  | nil =>
    cases rest with
    | nil => rfl
    | cons c cs => simp [gather, digit?_of_not_isDigit (hr c rfl)]
  | cons c cs ih =>
    rw [List.cons_append, gather, gather]
    cases Numeral.digit? c with
    | none => rfl
    | some d =>
      dsimp only
      split
      · exact ih _ _
      · rfl

theorem gather_suffix (cs : List Char) (s t : Nat) : (gather s t cs).2.2 <:+ cs := by
  induction cs generalizing s t with
  | nil => exact List.suffix_refl _
  | cons c cs ih =>
    rw [gather]
    cases Numeral.digit? c with
    | none => exact List.suffix_refl _
    | some d =>
      dsimp only
      split
      · exact (ih _ _).trans (List.suffix_cons _ _)
      · exact List.suffix_refl _

theorem skipDigits_append {cs rest : List Char} (hr : Numeral.StopsDigits rest) :
    skipDigits (cs ++ rest) = ((skipDigits cs).1, (skipDigits cs).2 ++ rest) := by
  unfold skipDigits
  induction cs with
  | nil =>
    cases rest with
    | nil => rfl
    | cons c cs => simp [hr c rfl]
  | cons c cs ih =>
    rw [Prod.mk.injEq] at ih
    by_cases h : c.isDigit = true
    · simp [h, ih.1, ih.2]
    · simp [h]

theorem skipDigits_suffix (cs : List Char) : (skipDigits cs).2 <:+ cs :=
  List.dropWhile_suffix _

theorem exponentDigits_append {cs rest : List Char} (hr : Numeral.StopsDigits rest) (e : Nat) :
    exponentDigits e (cs ++ rest) =
      ((exponentDigits e cs).1, (exponentDigits e cs).2 ++ rest) := by
  induction cs generalizing e with
  | nil =>
    cases rest with
    | nil => rfl
    | cons c cs => simp [exponentDigits, digit?_of_not_isDigit (hr c rfl)]
  | cons c cs ih =>
    rw [List.cons_append, exponentDigits, exponentDigits]
    cases Numeral.digit? c with
    | none => rfl
    | some d =>
      dsimp only
      split
      · exact ih _
      · rfl

theorem exponentDigits_suffix (cs : List Char) (e : Nat) : (exponentDigits e cs).2 <:+ cs := by
  induction cs generalizing e with
  | nil => exact List.suffix_refl _
  | cons c cs ih =>
    rw [exponentDigits]
    cases Numeral.digit? c with
    | none => exact List.suffix_refl _
    | some d =>
      dsimp only
      split
      · exact (ih _).trans (List.suffix_cons _ _)
      · exact List.suffix_cons _ _

/-! ## The parts of a number -/

theorem floatNumber_append {negative : Bool} {x : Option Binary64} {cs left : List Char}
    {n : Number} (h : floatNumber negative x cs = .ok (n, left)) :
    left = cs ∧ ∀ rest, floatNumber negative x rest = .ok (n, rest) := by
  cases x with
  | none => cases h
  | some x =>
    rw [floatNumber] at h
    by_cases hf : (if negative = true then x.negate else x).isFinite = true
    · rw [dif_pos hf] at h
      cases h
      refine ⟨rfl, fun rest => ?_⟩
      rw [floatNumber]
      exact dif_pos hf
    · rw [dif_neg hf] at h
      cases h

theorem integerNumber_append {negative : Bool} {s : Nat} {cs left : List Char} {n : Number}
    (h : integerNumber negative s cs = .ok (n, left)) :
    left = cs ∧ ∀ rest, integerNumber negative s rest = .ok (n, rest) := by
  unfold integerNumber at h
  split at h
  · rename_i hn
    dsimp only at h
    split at h
    · rename_i hi
      cases h
      refine ⟨rfl, fun rest => ?_⟩
      rw [integerNumber, if_pos hn]
      exact dif_pos hi
    · rename_i hi
      obtain ⟨rfl, hr⟩ := floatNumber_append h
      refine ⟨rfl, fun rest => ?_⟩
      rw [integerNumber, if_pos hn, ← hr rest]
      exact dif_neg hi
  · rename_i hn
    cases h
    refine ⟨rfl, fun rest => ?_⟩
    rw [integerNumber, if_neg hn]

/-- The sign of an exponent, and what follows it. -/
def exponentSign (cs : List Char) : Bool × List Char :=
  match cs with
  | '+' :: rest => (false, rest)
  | '-' :: rest => (true, rest)
  | _ => (false, cs)

/-- An exponent after its sign. -/
def exponentValue (negative : Bool) (significand : Nat) (start : Int) (down : Bool) :
    Reader Number
  | [] => .error (.before .endInValue [])
  | c :: cs =>
    if c.isDigit then
      match exponentDigits 0 (c :: cs) with
      | (some e, left) =>
        floatNumber negative (scale significand (if down then start - e else start + e)) left
      | (none, left) =>
        if significand ≠ 0 ∧ down = false then .error (.before .numberOutOfRange left)
        else floatNumber negative (some (.zero false)) (skipDigits left).2
    else .error (.atByte .invalidNumber (c :: cs))

theorem exponentPart_eq (negative : Bool) (s : Nat) (start : Int) (cs : List Char) :
    exponentPart negative s start cs =
      exponentValue negative s start (exponentSign cs).1 (exponentSign cs).2 := by
  rw [exponentPart.eq_def]
  split
  rename_i down after hm
  have hs : exponentSign cs = (down, after) := hm
  rw [hs]
  cases after with
  | nil => rfl
  | cons c after => rfl

theorem exponentSign_append {cs : List Char} (hc : cs ≠ []) (rest : List Char) :
    exponentSign (cs ++ rest) = ((exponentSign cs).1, (exponentSign cs).2 ++ rest) := by
  cases cs with
  | nil => exact absurd rfl hc
  | cons c cs =>
    by_cases hp : c = '+'
    · subst hp; rfl
    by_cases hm : c = '-'
    · subst hm; rfl
    have ho : ∀ cs : List Char, exponentSign (c :: cs) = (false, c :: cs) := by
      intro cs
      simp [exponentSign, hp, hm]
    rw [List.cons_append, ho, ho, List.cons_append]

theorem exponentSign_suffix (cs : List Char) : (exponentSign cs).2 <:+ cs := by
  unfold exponentSign
  split
  · exact List.suffix_cons _ _
  · exact List.suffix_cons _ _
  · exact List.suffix_refl _

theorem streams_exponentValue (negative : Bool) (s : Nat) (start : Int) (down : Bool) :
    Streams (exponentValue negative s start down) := by
  intro cs x left h
  cases cs with
  | nil => cases h
  | cons c cs =>
    rw [exponentValue] at h
    by_cases hc : c.isDigit = true
    · rw [if_pos hc] at h
      have hs := exponentDigits_suffix (c :: cs) 0
      have ha := fun rest (hr : StopsNumber rest) =>
        @exponentDigits_append (c :: cs) rest hr.stopsDigits 0
      cases he : exponentDigits 0 (c :: cs) with
      | mk e after =>
      rw [he] at h hs
      cases e with
      | some e =>
        obtain ⟨rfl, hf⟩ := floatNumber_append h
        refine ⟨hs, fun rest hr => ?_⟩
        have hg := ha rest hr
        rw [he] at hg
        rw [List.cons_append] at hg ⊢
        rw [exponentValue, if_pos hc, hg]
        exact hf _
      | none =>
        dsimp only at h
        split at h
        · cases h
        · rename_i hz
          obtain ⟨rfl, hf⟩ := floatNumber_append h
          refine ⟨(skipDigits_suffix after).trans hs, fun rest hr => ?_⟩
          have hg := ha rest hr
          rw [he] at hg
          rw [List.cons_append] at hg ⊢
          rw [exponentValue, if_pos hc, hg]
          dsimp only
          rw [if_neg hz, skipDigits_append hr.stopsDigits]
          exact hf _
    · rw [if_neg hc] at h
      cases h

theorem streams_exponentPart (negative : Bool) (s : Nat) (start : Int) :
    Streams (exponentPart negative s start) := by
  intro cs x left h
  cases cs with
  | nil => cases h
  | cons c cs =>
    rw [exponentPart_eq] at h
    obtain ⟨hs, ha⟩ := streams_exponentValue _ _ _ _ _ _ _ h
    refine ⟨hs.trans (exponentSign_suffix _), fun rest hr => ?_⟩
    rw [exponentPart_eq, exponentSign_append (List.cons_ne_nil c cs)]
    exact ha rest hr

theorem streams_floatEnd (negative : Bool) (s : Nat) (exponent : Int) :
    Streams (floatEnd negative s exponent) := by
  intro cs x left h
  cases cs with
  | nil =>
    obtain ⟨rfl, hf⟩ := floatNumber_append h
    refine ⟨List.suffix_refl _, fun rest hr => ?_⟩
    cases rest with
    | nil => exact hf []
    | cons c cs =>
      obtain ⟨-, -, he, hE⟩ := hr c rfl
      rw [List.nil_append, floatEnd, if_neg (not_or.mpr ⟨he, hE⟩)]
      exact hf _
  | cons c cs =>
    rw [floatEnd] at h
    by_cases hc : c = 'e' ∨ c = 'E'
    · rw [if_pos hc] at h
      obtain ⟨hs, ha⟩ := streams_exponentPart _ _ _ _ _ _ h
      refine ⟨hs.trans (List.suffix_cons _ _), fun rest hr => ?_⟩
      rw [List.cons_append, floatEnd, if_pos hc]
      exact ha rest hr
    · rw [if_neg hc] at h
      obtain ⟨rfl, hf⟩ := floatNumber_append h
      refine ⟨List.suffix_refl _, fun rest hr => ?_⟩
      rw [List.cons_append, floatEnd, if_neg hc]
      exact hf _

theorem streams_fractionPart (negative : Bool) (s extra : Nat) :
    Streams (fractionPart negative s extra) := by
  intro cs x left h
  have hg := gather_suffix cs s 0
  have ha := fun rest (hr : StopsNumber rest) => @gather_append cs rest hr.stopsDigits s 0
  unfold fractionPart at h ⊢
  cases he : gather s 0 cs with
  | mk s' p =>
  obtain ⟨taken, after⟩ := p
  rw [he] at h hg
  simp only [he] at ha
  dsimp only at h
  have hd := skipDigits_suffix after
  by_cases hz : taken = 0 ∧ (skipDigits after).1 = 0
  · rw [if_pos hz] at h
    split at h <;> cases h
  · rw [if_neg hz] at h
    obtain ⟨hs, hf⟩ := streams_floatEnd _ _ _ _ _ _ h
    refine ⟨(hs.trans hd).trans hg, fun rest hr => ?_⟩
    rw [ha rest hr]
    dsimp only
    rw [skipDigits_append hr.stopsDigits, if_neg hz]
    exact hf rest hr

theorem streams_integerNumber (negative : Bool) (s : Nat) :
    Streams (integerNumber negative s) := by
  intro cs x left h
  obtain ⟨rfl, hi⟩ := integerNumber_append h
  exact ⟨List.suffix_refl _, fun rest _ => hi _⟩

theorem streams_afterWhole (negative : Bool) (s extra : Nat) :
    Streams (afterWhole negative s extra) := by
  intro cs x left h
  cases cs with
  | nil =>
    rw [afterWhole] at h
    have hn : ∀ rest, StopsNumber rest → afterWhole negative s extra rest =
        if extra = 0 then integerNumber negative s rest
        else floatEnd negative s extra rest := by
      intro rest hr
      cases rest with
      | nil => rfl
      | cons c cs =>
        obtain ⟨-, hp, he, hE⟩ := hr c rfl
        rw [afterWhole, if_neg hp]
        simp only [he, hE, ne_eq, not_false_eq_true, and_self, and_true]
    by_cases hx : extra = 0
    · rw [if_pos hx] at h
      obtain ⟨hs, ha⟩ := streams_integerNumber _ _ _ _ _ h
      refine ⟨hs, fun rest hr => ?_⟩
      rw [List.nil_append, hn rest hr, if_pos hx]
      exact ha rest hr
    · rw [if_neg hx] at h
      obtain ⟨hs, ha⟩ := streams_floatEnd _ _ _ _ _ _ h
      refine ⟨hs, fun rest hr => ?_⟩
      rw [List.nil_append, hn rest hr, if_neg hx]
      exact ha rest hr
  | cons c cs =>
    rw [afterWhole] at h
    by_cases hp : c = '.'
    · rw [if_pos hp] at h
      obtain ⟨hs, ha⟩ := streams_fractionPart _ _ _ _ _ _ h
      refine ⟨hs.trans (List.suffix_cons _ _), fun rest hr => ?_⟩
      rw [List.cons_append, afterWhole, if_pos hp]
      exact ha rest hr
    rw [if_neg hp] at h
    by_cases hx : extra = 0 ∧ c ≠ 'e' ∧ c ≠ 'E'
    · rw [if_pos hx] at h
      obtain ⟨hs, ha⟩ := streams_integerNumber _ _ _ _ _ h
      refine ⟨hs, fun rest hr => ?_⟩
      rw [List.cons_append, afterWhole, if_neg hp, if_pos hx]
      exact ha rest hr
    · rw [if_neg hx] at h
      obtain ⟨hs, ha⟩ := streams_floatEnd _ _ _ _ _ _ h
      refine ⟨hs, fun rest hr => ?_⟩
      rw [List.cons_append, afterWhole, if_neg hp, if_neg hx]
      exact ha rest hr

/-! ## Numbers -/

theorem unsignedNumber_zero (negative : Bool) {cs : List Char}
    (h : Numeral.StopsDigits cs) :
    unsignedNumber negative ('0' :: cs) = afterWhole negative 0 0 cs := by
  cases cs with
  | nil => rfl
  | cons d cs =>
    have hd := h d rfl
    simp [unsignedNumber, hd]

theorem unsignedNumber_zero_error (negative : Bool) {d : Char} (h : d.isDigit = true)
    (cs : List Char) :
    unsignedNumber negative ('0' :: d :: cs) = .error (.atByte .invalidNumber (d :: cs)) := by
  simp [unsignedNumber, h]

theorem unsignedNumber_digit (negative : Bool) {c : Char} (hz : c ≠ '0')
    (hc : c.isDigit = true) (cs : List Char) :
    unsignedNumber negative (c :: cs) =
      afterWhole negative (gather 0 0 (c :: cs)).1 (skipDigits (gather 0 0 (c :: cs)).2.2).1
        (skipDigits (gather 0 0 (c :: cs)).2.2).2 := by
  rw [unsignedNumber.eq_def]
  dsimp only
  rw [if_neg hz, if_pos hc]

theorem streams_unsignedNumber (negative : Bool) : Streams (unsignedNumber negative) := by
  intro cs x left h
  cases cs with
  | nil => cases h
  | cons c cs =>
    by_cases hz : c = '0'
    · subst hz
      by_cases hd : ∃ d tail, cs = d :: tail ∧ d.isDigit = true
      · obtain ⟨d, tail, rfl, hd⟩ := hd
        rw [unsignedNumber_zero_error negative hd] at h
        cases h
      · have hs : ∀ rest, StopsNumber rest → Numeral.StopsDigits (cs ++ rest) := by
          intro rest hr
          cases cs with
          | nil => exact hr.stopsDigits
          | cons d tail =>
            intro e he
            cases he
            exact Bool.eq_false_iff.mpr fun h => hd ⟨d, tail, rfl, h⟩
        have h0 := hs [] fun c hc => by cases hc
        rw [List.append_nil] at h0
        rw [unsignedNumber_zero negative h0] at h
        obtain ⟨hx, ha⟩ := streams_afterWhole _ _ _ _ _ _ h
        refine ⟨hx.trans (List.suffix_cons _ _), fun rest hr => ?_⟩
        rw [List.cons_append, unsignedNumber_zero negative (hs rest hr)]
        exact ha rest hr
    by_cases hc : c.isDigit = true
    · have hg := gather_suffix (c :: cs) 0 0
      have hd := skipDigits_suffix (gather 0 0 (c :: cs)).2.2
      rw [unsignedNumber_digit negative hz hc] at h
      obtain ⟨hs, ha⟩ := streams_afterWhole _ _ _ _ _ _ h
      refine ⟨(hs.trans hd).trans hg, fun rest hr => ?_⟩
      have hga := @gather_append (c :: cs) rest hr.stopsDigits 0 0
      rw [List.cons_append] at hga ⊢
      rw [unsignedNumber_digit negative hz hc, hga]
      dsimp only
      rw [skipDigits_append hr.stopsDigits]
      exact ha rest hr
    · rw [unsignedNumber.eq_def] at h
      dsimp only at h
      rw [if_neg hz, if_neg hc] at h
      cases h

theorem streams_number : Streams number := by
  intro cs x left h
  cases cs with
  | nil => cases h
  | cons c cs =>
    by_cases hm : c = '-'
    · subst hm
      obtain ⟨hs, ha⟩ := streams_unsignedNumber _ _ _ _ h
      exact ⟨hs.trans (List.suffix_cons _ _), ha⟩
    · have hu : ∀ cs : List Char, number (c :: cs) = unsignedNumber false (c :: cs) := by
        intro cs
        simp [number, hm]
      rw [hu] at h
      obtain ⟨hs, ha⟩ := streams_unsignedNumber _ _ _ _ h
      refine ⟨hs, fun rest hr => ?_⟩
      rw [List.cons_append, hu]
      exact ha rest hr

/-! ## Integers -/

theorem le_ofDigitChars (ds : List Char) (s : Nat) : s ≤ Nat.ofDigitChars 10 ds s := by
  induction ds generalizing s with
  | nil => exact Nat.le_refl _
  | cons d ds ih =>
    rw [Nat.ofDigitChars_cons]
    exact Nat.le_trans (by omega) (ih _)

theorem gather_digits {ds : List Char} (hd : ∀ c ∈ ds, c.isDigit = true) (s t : Nat)
    (hs : Nat.ofDigitChars 10 ds s < UInt64.size) :
    gather s t ds = (Nat.ofDigitChars 10 ds s, t + ds.length, []) := by
  induction ds generalizing s t with
  | nil => rfl
  | cons d ds ih =>
    have hc := hd d List.mem_cons_self
    rw [Nat.ofDigitChars_cons] at hs
    have he : 10 * s + (d.toNat - '0'.toNat) = s * 10 + (d.toNat - 48) := by
      rw [Nat.mul_comm]
      rfl
    rw [he] at hs
    have hl := le_ofDigitChars ds (s * 10 + (d.toNat - 48))
    rw [gather, digit?_of_isDigit hc]
    dsimp only
    rw [if_pos (by omega), ih (fun c hm => hd c (List.mem_cons_of_mem _ hm)) _ _ hs,
      Nat.ofDigitChars_cons, he, List.length_cons]
    congr 2
    omega

theorem unsignedNumber_ofNat (negative : Bool) {n : Nat} (hn : n < UInt64.size) :
    unsignedNumber negative (Numeral.ofNat n) = integerNumber negative n [] := by
  by_cases hz : n = 0
  · subst hz
    rw [Numeral.ofNat_zero, unsignedNumber_zero negative Numeral.stopsDigits_nil, afterWhole,
      if_pos rfl]
  have hv : Nat.ofDigitChars 10 (Numeral.ofNat n) 0 = n := Numeral.value_ofNat n
  have hd : ∀ c ∈ Numeral.ofNat n, c.isDigit = true := fun c => Numeral.isDigit_of_mem_ofNat
  have hg := gather_digits hd 0 0 (by rw [hv]; exact hn)
  rw [hv] at hg
  cases ho : Numeral.ofNat n with
  | nil => exact absurd ho (Numeral.ofNat_ne_nil n)
  | cons c cs =>
    rw [ho] at hg hd
    rw [unsignedNumber_digit negative (Numeral.head_ofNat_ne_zero (by omega) ho)
      (hd c List.mem_cons_self), hg]
    show afterWhole negative n 0 [] = _
    rw [afterWhole, if_pos rfl]

/-- What the reader of numbers makes of a text alone, it makes of it before
    everything that is not part of a number. -/
theorem number_append {cs rest : List Char} {n : Number} (h : number cs = .ok (n, []))
    (hr : StopsNumber rest) : number (cs ++ rest) = .ok (n, rest) :=
  (streams_number cs n [] h).2 rest hr

theorem number_ofNat (n : UInt64) : number (Number.natural n).chars = .ok (.natural n, []) := by
  have hu := unsignedNumber_ofNat false (n := n.toNat) n.toNat_lt
  have hn : integerNumber false n.toNat [] = .ok (.natural n, []) := by
    rw [integerNumber, if_neg (by decide), UInt64.ofNat_toNat]
  rw [Number.chars]
  cases ho : Numeral.ofNat n.toNat with
  | nil => exact absurd ho (Numeral.ofNat_ne_nil _)
  | cons c cs =>
    have hd : c.isDigit = true :=
      Numeral.isDigit_of_mem_ofNat (n := n.toNat) (ho ▸ List.mem_cons_self)
    have hm : c ≠ '-' := by
      rintro rfl
      cases hd
    rw [ho, hn] at hu
    rw [← hu]
    simp [number, hm]

theorem number_ofInt {n : Int64} (hn : n < 0) :
    number (Number.negative n hn).chars = .ok (.negative n hn, []) := by
  have hl : n.toInt < 0 := Int64.lt_iff_toInt_lt.mp hn
  have hb : -2 ^ 63 ≤ n.toInt := n.le_toInt
  have ha : n.toInt.natAbs ≤ Number.int64End := by
    unfold Number.int64End
    omega
  have hi : Int64.ofInt (-(n.toInt.natAbs : Int)) = n := by
    have : -(n.toInt.natAbs : Int) = n.toInt := by omega
    rw [this, Int64.ofInt_toInt]
  have hs : n.toInt.natAbs < UInt64.size := by
    unfold Number.int64End at ha
    unfold UInt64.size
    omega
  rw [Number.chars, Numeral.ofInt, if_pos hl]
  show unsignedNumber true (Numeral.ofNat n.toInt.natAbs) = _
  rw [unsignedNumber_ofNat true hs, integerNumber, if_pos rfl]
  dsimp only
  rw [dif_pos ⟨by rw [hi]; exact hn, ha⟩]
  simp only [hi]

end QueryWire.Json

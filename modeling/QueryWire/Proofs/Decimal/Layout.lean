/-
  The written form of numbers, read exactly.

  `ofText` reads digits, a fraction and an exponent as the decimal they denote.
  Whatever the layout, the decimal of a text is worth the number it was written
  for (`toBinary64_ofText_magnitudeText`), so numbers with one text are one
  number, bit for bit (`text_injective`).  A text is made of the characters of
  numbers and is no integer (`exists_point_or_exponent`).
-/
import QueryWire.Decimal.Layout
import QueryWire.Proofs.Decimal.Shortest
import QueryWire.Proofs.Numeral

namespace QueryWire.Decimal

open Text

/-! ## Reading -/

/-- The digits after a point, and what follows them. -/
def fractionOf : List Char → List Char × List Char
  | '.' :: cs => (cs.takeWhile Char.isDigit, cs.dropWhile Char.isDigit)
  | cs => ([], cs)

def exponentOf : List Char → Int
  | 'e' :: '-' :: digits => -(Numeral.value digits : Int)
  | 'e' :: _ :: digits => Numeral.value digits
  | _ => 0

/-- The decimal that a text without sign denotes. -/
def ofText (cs : List Char) : Decimal :=
  let whole := cs.takeWhile Char.isDigit
  let fraction := fractionOf (cs.dropWhile Char.isDigit)
  ⟨Numeral.value (whole ++ fraction.1), exponentOf fraction.2 - fraction.1.length⟩

section

variable {whole fraction after : List Char}

theorem ofText_point (hw : ∀ c ∈ whole, c.isDigit = true) (hf : ∀ c ∈ fraction, c.isDigit = true)
    (ha : Numeral.StopsDigits after) :
    ofText (whole ++ '.' :: (fraction ++ after)) =
      ⟨Numeral.value (whole ++ fraction), exponentOf after - fraction.length⟩ := by
  have hs : Numeral.StopsDigits ('.' :: (fraction ++ after)) := Numeral.stopsDigits_cons rfl _
  unfold ofText
  rw [Numeral.takeWhile_digits hw hs, Numeral.dropWhile_digits hw hs, fractionOf,
    Numeral.takeWhile_digits hf ha, Numeral.dropWhile_digits hf ha]

theorem ofText_exponent (hw : ∀ c ∈ whole, c.isDigit = true) (cs : List Char) :
    ofText (whole ++ 'e' :: cs) = ⟨Numeral.value whole, exponentOf ('e' :: cs)⟩ := by
  have hs : Numeral.StopsDigits ('e' :: cs) := Numeral.stopsDigits_cons rfl _
  have hf : fractionOf ('e' :: cs) = ([], 'e' :: cs) := rfl
  unfold ofText
  rw [Numeral.takeWhile_digits hw hs, Numeral.dropWhile_digits hw hs, hf]
  dsimp only
  rw [List.append_nil]
  exact congrArg (Decimal.mk _) (Int.sub_zero _)

end

theorem exponentOf_signed (power : Int) :
    exponentOf ('e' :: (if power < 0 then '-' else '+') :: Numeral.ofNat power.natAbs) =
      power := by
  by_cases h : power < 0
  · rw [if_pos h, exponentOf, Numeral.value_ofNat]
    omega
  · rw [if_neg h]
    show (Numeral.value (Numeral.ofNat power.natAbs) : Int) = power
    rw [Numeral.value_ofNat]
    omega

/-! ## Layouts -/

theorem isDigit_of_mem_zero : ∀ c ∈ ['0'], c.isDigit = true := by
  intro c hc
  rw [List.mem_singleton.mp hc]
  rfl

section

variable {digits : List Char} (hd : ∀ c ∈ digits, c.isDigit = true)

include hd

theorem ofText_below (n : Nat) :
    ofText ('0' :: '.' :: (List.replicate n '0' ++ digits)) =
      ⟨Numeral.value digits, -(n + digits.length : Nat)⟩ := by
  have hf : ∀ c ∈ List.replicate n '0' ++ digits, c.isDigit = true := by
    intro c hc
    rcases List.mem_append.mp hc with hc | hc
    · rw [List.eq_of_mem_replicate hc]
      rfl
    · exact hd c hc
  have h := @ofText_point ['0'] _ [] isDigit_of_mem_zero hf Numeral.stopsDigits_nil
  rw [List.append_nil, List.singleton_append, List.singleton_append] at h
  have hv : Numeral.value ('0' :: (List.replicate n '0' ++ digits)) = Numeral.value digits :=
    Numeral.value_zeros (n + 1) digits
  rw [h, hv, List.length_append, List.length_replicate]
  exact congrArg (Decimal.mk _) (Int.zero_sub _)

theorem toBinary64_ofText_pointAfter (n : Nat) :
    (ofText (pointAfter n digits)).toBinary64 =
      toBinary64 ⟨Numeral.value digits, (n : Int) - digits.length⟩ := by
  have hz : ∀ k, ∀ c ∈ List.replicate k '0', c.isDigit = true := by
    intro k c hc
    rw [List.eq_of_mem_replicate hc]
    rfl
  unfold pointAfter
  dsimp only
  by_cases hl : digits.length ≤ n
  · have ht : digits.take n = digits := List.take_of_length_le hl
    have hdr : digits.drop n = [] := List.drop_of_length_le hl
    have hw : ∀ c ∈ digits ++ List.replicate (n - digits.length) '0', c.isDigit = true := by
      intro c hc
      rcases List.mem_append.mp hc with hc | hc
      · exact hd c hc
      · exact hz _ c hc
    have h := @ofText_point _ ['0'] [] hw isDigit_of_mem_zero Numeral.stopsDigits_nil
    have hv : Numeral.value (digits ++ List.replicate (n - digits.length) '0' ++ ['0']) =
        Numeral.value digits * Nat.pow 10 (n - digits.length + 1) := by
      rw [List.append_assoc, ← List.replicate_succ', value_append_zeros]
    rw [List.append_nil, hv] at h
    rw [ht, hdr]
    show (ofText (digits ++ List.replicate (n - digits.length) '0' ++ '.' :: ['0'])).toBinary64 = _
    rw [h, toBinary64_zeros]
    congr 2
    show (0 : Int) - 1 + (n - digits.length + 1 : Nat) = n - digits.length
    omega
  · have ht : n - digits.length = 0 := by omega
    have hne : (digits.drop n).isEmpty = false := by
      rw [List.isEmpty_eq_false_iff]
      intro h
      have := List.drop_eq_nil_iff.mp h
      omega
    have h := @ofText_point (digits.take n) (digits.drop n) []
      (fun c hc => hd c (List.mem_of_mem_take hc)) (fun c hc => hd c (List.mem_of_mem_drop hc))
      Numeral.stopsDigits_nil
    rw [List.append_nil, List.take_append_drop, List.length_drop] at h
    rw [ht, hne, List.replicate_zero, List.append_nil]
    show (ofText (digits.take n ++ '.' :: digits.drop n)).toBinary64 = _
    rw [h]
    congr 2
    show (0 : Int) - (digits.length - n : Nat) = n - digits.length
    omega

/-- A text in any layout denotes a decimal of the value it was written for. -/
theorem toBinary64_ofText_write (layout : Layout) (hne : digits ≠ []) (power : Int) :
    (ofText (layout.write digits power)).toBinary64 =
      toBinary64 ⟨Numeral.value digits, power - digits.length + 1⟩ := by
  unfold Layout.write
  by_cases hl : layout.least ≤ power ∧ power ≤ layout.greatest
  · rw [if_pos hl]
    by_cases hp : power < 0
    · rw [if_pos hp, ofText_below hd]
      congr 2
      omega
    · rw [if_neg hp, toBinary64_ofText_pointAfter hd]
      congr 2
      omega
  rw [if_neg hl]
  cases digits with
  | nil => exact absurd rfl hne
  | cons c cs =>
    cases cs with
    | nil =>
      have h := ofText_exponent hd
        ((if power < 0 then '-' else '+') :: Numeral.ofNat power.natAbs)
      rw [exponentOf_signed] at h
      show (ofText ([c] ++ 'e' :: _)).toBinary64 = _
      rw [h]
      congr 2
      show power = power - 1 + 1
      omega
    | cons d ds =>
      have h := @ofText_point [c] (d :: ds)
        ('e' :: (if power < 0 then '-' else '+') :: Numeral.ofNat power.natAbs)
        (fun x hx => hd x (List.mem_singleton.mp hx ▸ List.mem_cons_self))
        (fun x hx => hd x (List.mem_cons_of_mem _ hx))
        (Numeral.stopsDigits_cons rfl _)
      rw [exponentOf_signed] at h
      show (ofText ([c] ++ '.' :: ((d :: ds) ++ 'e' :: _))).toBinary64 = _
      rw [h]
      congr 2
      show power - ((d :: ds).length : Int) = power - ((d :: ds).length + 1 : Nat) + 1
      omega

end

/-! ## Texts of numbers -/

section

variable {layout : Layout} {x y : Binary64}

/-- The text of a number without its sign. -/
def magnitudeText (layout : Layout) (x : Binary64) : List Char :=
  if x.isZero then ['0', '.', '0']
  else layout.write (shortest x.magnitude).scientific.1 (shortest x.magnitude).scientific.2

theorem text_eq (layout : Layout) (x : Binary64) :
    text layout x =
      if x.isNegative then '-' :: magnitudeText layout x else magnitudeText layout x :=
  rfl

theorem digits_ne_nil (hf : x.isFinite = true) (hz : x.isZero = false) :
    (shortest x.magnitude).scientific.1 ≠ [] := by
  intro h
  have hd := toBinary64_digits (shortest x.magnitude)
  rw [toBinary64_shortest (Binary64.isFinite_magnitude hf) (Binary64.isNegative_magnitude x), h]
    at hd
  have hm : x.magnitude = .zero false := hd.symm.trans (toBinary64_zero _)
  rw [(Binary64.magnitude_eq_zero x).mp hm] at hz
  cases hz

theorem toBinary64_ofText_magnitudeText (hf : x.isFinite = true) :
    (ofText (magnitudeText layout x)).toBinary64 = x.magnitude := by
  unfold magnitudeText
  cases hz : x.isZero with
  | true =>
    have h0 : ofText ['0', '.', '0'] = ⟨0, -1⟩ := rfl
    rw [if_pos rfl, h0, toBinary64_zero, (Binary64.magnitude_eq_zero x).mpr hz]
  | false =>
    rw [if_neg (by decide), toBinary64_ofText_write (fun c => isDigit_of_mem_scientific) layout
      (digits_ne_nil hf hz), toBinary64_digits,
      toBinary64_shortest (Binary64.isFinite_magnitude hf) (Binary64.isNegative_magnitude x)]

theorem write_eq_cons {digits : List Char} (hd : ∀ c ∈ digits, c.isDigit = true)
    (hne : digits ≠ []) (power : Int) :
    ∃ c cs, layout.write digits power = c :: cs ∧ c.isDigit = true := by
  cases digits with
  | nil => exact absurd rfl hne
  | cons c cs =>
    unfold Layout.write
    split
    · split
      · exact ⟨'0', _, rfl, rfl⟩
      · exact ⟨c, _, rfl, hd c List.mem_cons_self⟩
    · exact ⟨c, _, rfl, hd c List.mem_cons_self⟩

theorem magnitudeText_eq_cons (hf : x.isFinite = true) :
    ∃ c cs, magnitudeText layout x = c :: cs ∧ c.isDigit = true := by
  unfold magnitudeText
  cases hz : x.isZero with
  | true => exact ⟨'0', _, if_pos rfl, rfl⟩
  | false =>
    rw [if_neg (by decide)]
    exact write_eq_cons (fun c => isDigit_of_mem_scientific) (digits_ne_nil hf hz) _

/-- Finite numbers with one text are the same bits. -/
theorem text_injective (hx : x.isFinite = true) (hy : y.isFinite = true)
    (h : text layout x = text layout y) : x = y := by
  have hm : magnitudeText layout x = magnitudeText layout y → x.magnitude = y.magnitude := by
    intro h
    rw [← @toBinary64_ofText_magnitudeText layout x hx, h,
      toBinary64_ofText_magnitudeText hy]
  have hd : ∀ {z : Binary64} {cs : List Char}, z.isFinite = true →
      '-' :: cs ≠ magnitudeText layout z := by
    intro z cs hz he
    obtain ⟨c, cs', hc, hdig⟩ := @magnitudeText_eq_cons layout z hz
    rw [hc] at he
    cases he
    cases hdig
  rw [text_eq, text_eq] at h
  cases hnx : x.isNegative <;> cases hny : y.isNegative <;> rw [hnx, hny] at h
  · exact Binary64.eq_of_magnitude (hnx.trans hny.symm) (hm h)
  · exact absurd h.symm (hd hx)
  · exact absurd h (hd hy)
  · exact Binary64.eq_of_magnitude (hnx.trans hny.symm) (hm (List.cons.inj h).2)

end

/-! ## Characters -/

/-- The characters of integers and of decimals. -/
def isNumberChar (c : Char) : Bool :=
  c.isDigit || c == '.' || c == 'e' || c == '+' || c == '-'

theorem isNumberChar_of_isDigit {c : Char} (h : c.isDigit = true) : isNumberChar c = true := by
  unfold isNumberChar
  rw [h]
  rfl

section

variable {layout : Layout} {digits : List Char} (hd : ∀ c ∈ digits, c.isDigit = true)

include hd

theorem isNumberChar_of_mem_pointAfter {n : Nat} {c : Char} (h : c ∈ pointAfter n digits) :
    isNumberChar c = true := by
  unfold pointAfter at h
  dsimp only at h
  rcases List.mem_append.mp h with hw | hf
  · rcases List.mem_append.mp hw with ht | hz
    · exact isNumberChar_of_isDigit (hd c (List.mem_of_mem_take ht))
    · rw [List.eq_of_mem_replicate hz]
      rfl
  · rcases List.mem_cons.mp hf with rfl | hf
    · rfl
    split at hf
    · rw [List.mem_singleton.mp hf]
      rfl
    · exact isNumberChar_of_isDigit (hd c (List.mem_of_mem_drop hf))

theorem isNumberChar_of_mem_write {power : Int} {c : Char}
    (h : c ∈ layout.write digits power) : isNumberChar c = true := by
  unfold Layout.write at h
  split at h
  · split at h
    · rcases List.mem_cons.mp h with rfl | h
      · rfl
      rcases List.mem_cons.mp h with rfl | h
      · rfl
      rcases List.mem_append.mp h with hz | h
      · rw [List.eq_of_mem_replicate hz]
        rfl
      · exact isNumberChar_of_isDigit (hd c h)
    · exact isNumberChar_of_mem_pointAfter hd h
  · rcases List.mem_append.mp h with h | h
    · rcases List.mem_append.mp h with h | h
      · exact isNumberChar_of_isDigit (hd c (List.mem_of_mem_take h))
      · split at h
        · cases h
        rcases List.mem_cons.mp h with rfl | h
        · rfl
        · exact isNumberChar_of_isDigit (hd c (List.mem_of_mem_drop h))
    · rcases List.mem_cons.mp h with rfl | h
      · rfl
      rcases List.mem_cons.mp h with rfl | h
      · split <;> rfl
      · exact isNumberChar_of_isDigit (Numeral.isDigit_of_mem_ofNat h)

omit hd

theorem exists_point_or_exponent_write (power : Int) :
    ∃ c ∈ layout.write digits power, c = '.' ∨ c = 'e' := by
  unfold Layout.write
  split
  · refine ⟨'.', ?_, Or.inl rfl⟩
    split
    · simp
    · simp [pointAfter]
  · refine ⟨'e', ?_, Or.inr rfl⟩
    simp

end

theorem isNumberChar_of_mem_text {layout : Layout} {x : Binary64} {c : Char}
    (h : c ∈ text layout x) : isNumberChar c = true := by
  have hm : ∀ c ∈ magnitudeText layout x, isNumberChar c = true := by
    intro c hc
    unfold magnitudeText at hc
    split at hc
    · simp only [List.mem_cons, List.not_mem_nil, or_false] at hc
      rcases hc with rfl | rfl | rfl <;> rfl
    · exact isNumberChar_of_mem_write (fun c => isDigit_of_mem_scientific) hc
  rw [text_eq] at h
  split at h
  · rcases List.mem_cons.mp h with rfl | h
    · rfl
    · exact hm c h
  · exact hm c h

/-- No number is written like an integer. -/
theorem exists_point_or_exponent (layout : Layout) (x : Binary64) :
    ∃ c ∈ text layout x, c = '.' ∨ c = 'e' := by
  have hm : ∃ c ∈ magnitudeText layout x, c = '.' ∨ c = 'e' := by
    unfold magnitudeText
    split
    · exact ⟨'.', by decide, Or.inl rfl⟩
    · exact exists_point_or_exponent_write _
  rw [text_eq]
  split
  · obtain ⟨c, hc, h⟩ := hm
    exact ⟨c, List.mem_cons_of_mem _ hc, h⟩
  · exact hm

end QueryWire.Decimal

/-
  Runs of digits, as the writers make them.

  A padded numeral that fits has exactly the width asked for and holds digits
  only, so a reader that takes a run of digits, or a fixed count of them, takes
  the numeral and nothing else.  A numeral begins with a zero only if it is the
  numeral of zero (`head_ofNat_ne_zero`), and a run of `k` digits stands for a
  number below `10 ^ k` (`value_lt`).
-/
import QueryWire.Text.Numeral

namespace QueryWire.Text.Numeral

/-! ## Digits -/

theorem toNat_of_isDigit {c : Char} (h : c.isDigit = true) : 48 ≤ c.toNat ∧ c.toNat ≤ 57 := by
  simpa [Char.isDigit, UInt32.le_iff_toNat_le] using h

theorem value_cons (c : Char) (digits : List Char) :
    value (c :: digits) = Nat.pow 10 digits.length * (c.toNat - 48) + value digits := by
  unfold value
  rw [Nat.ofDigitChars_cons, Nat.ofDigitChars_eq_ofDigitChars_zero, Nat.mul_zero, Nat.zero_add]
  rfl

theorem value_lt {digits : List Char} (h : ∀ c ∈ digits, c.isDigit = true) :
    value digits < Nat.pow 10 digits.length := by
  induction digits with
  | nil => decide
  | cons c digits ih =>
    have hc := toNat_of_isDigit (h c List.mem_cons_self)
    have hr := ih fun d hd => h d (List.mem_cons_of_mem c hd)
    have hm : Nat.pow 10 digits.length * (c.toNat - 48) ≤ Nat.pow 10 digits.length * 9 :=
      Nat.mul_le_mul_left _ (by omega)
    have hp : Nat.pow 10 (c :: digits).length = Nat.pow 10 digits.length * 10 := rfl
    rw [value_cons, hp]
    omega

theorem ofNat_ne_nil (n : Nat) : ofNat n ≠ [] :=
  Nat.toDigits_ne_nil

theorem ofNat_injective {m n : Nat} (h : ofNat m = ofNat n) : m = n := by
  rw [← value_ofNat m, ← value_ofNat n, h]

theorem isDigit_of_mem_padded {width n : Nat} {c : Char} (h : c ∈ padded width n) :
    c.isDigit = true := by
  rcases List.mem_append.mp h with h | h
  · rw [List.eq_of_mem_replicate h]
    rfl
  · exact isDigit_of_mem_ofNat h

theorem padded_ne_nil (width n : Nat) : padded width n ≠ [] := by
  intro h
  exact ofNat_ne_nil n (List.append_eq_nil_iff.mp h).2

theorem length_ofNat_le {n width : Nat} (hw : 0 < width) (hn : n < Nat.pow 10 width) :
    (ofNat n).length ≤ width :=
  (Nat.length_toDigits_le_iff (by decide) hw).mpr hn

theorem length_padded {n width : Nat} (hw : 0 < width) (hn : n < Nat.pow 10 width) :
    (padded width n).length = width := by
  have := length_ofNat_le hw hn
  rw [padded, List.length_append, List.length_replicate]
  omega

/-- A positive numeral has no zero in front. -/
theorem head_ofNat_ne_zero {n : Nat} (hn : 0 < n) {c : Char} {cs : List Char}
    (h : ofNat n = c :: cs) : c ≠ '0' := by
  induction n using Nat.strongRecOn generalizing cs with
  | ind n ih =>
    unfold ofNat at h
    by_cases hb : n < 10
    · rw [Nat.toDigits_of_lt_base hb] at h
      cases h
      intro hz
      have := Nat.toNat_digitChar_of_lt_ten hb
      rw [hz] at this
      have : ('0' : Char).toNat = 48 := rfl
      omega
    · rw [Nat.toDigits_of_base_le (by decide) (by omega)] at h
      cases ht : Nat.toDigits 10 (n / 10) with
      | nil => exact absurd ht Nat.toDigits_ne_nil
      | cons d ds =>
        rw [ht] at h
        cases h
        exact ih (n / 10) (by omega) (by omega) ht

theorem ofNat_zero : ofNat 0 = ['0'] :=
  Nat.toDigits_zero 10

/-! ## Signs -/

theorem mem_ofInt {z : Int} {c : Char} (h : c ∈ ofInt z) : c = '-' ∨ c.isDigit = true := by
  unfold ofInt at h
  split at h
  · rcases List.mem_cons.mp h with rfl | h
    · exact Or.inl rfl
    · exact Or.inr (isDigit_of_mem_ofNat h)
  · exact Or.inr (isDigit_of_mem_ofNat h)

theorem ofInt_injective {y z : Int} (h : ofInt y = ofInt z) : y = z := by
  have hd : ∀ (n : Nat) (cs : List Char), '-' :: cs ≠ ofNat n := by
    intro n cs he
    have : ('-' : Char).isDigit = true := isDigit_of_mem_ofNat (he ▸ List.mem_cons_self)
    cases this
  unfold ofInt at h
  by_cases hy : y < 0 <;> by_cases hz : z < 0
  · rw [if_pos hy, if_pos hz] at h
    have := ofNat_injective (List.cons.inj h).2
    omega
  · rw [if_pos hy, if_neg hz] at h
    exact absurd h (hd _ _)
  · rw [if_neg hy, if_pos hz] at h
    exact absurd h.symm (hd _ _)
  · rw [if_neg hy, if_neg hz] at h
    have := ofNat_injective h
    omega

/-! ## Runs -/

section

variable {p : Char → Bool} {run rest : List Char}

theorem takeWhile_run (hd : ∀ c ∈ run, p c = true) (hr : ∀ c ∈ rest.head?, p c = false) :
    (run ++ rest).takeWhile p = run := by
  rw [List.takeWhile_append_of_pos hd]
  cases rest with
  | nil => simp
  | cons c cs => rw [List.takeWhile_cons_of_neg (by simp [hr c rfl]), List.append_nil]

theorem dropWhile_run (hd : ∀ c ∈ run, p c = true) (hr : ∀ c ∈ rest.head?, p c = false) :
    (run ++ rest).dropWhile p = rest := by
  rw [List.dropWhile_append_of_pos hd]
  cases rest with
  | nil => rfl
  | cons c cs => rw [List.dropWhile_cons_of_neg (by simp [hr c rfl])]

end

section

variable {ds rest : List Char}

/-- The text goes on with something else than a digit. -/
def StopsDigits (rest : List Char) : Prop :=
  ∀ c ∈ rest.head?, c.isDigit = false

theorem stopsDigits_nil : StopsDigits [] :=
  fun _ hc => by cases hc

theorem stopsDigits_cons {c : Char} (h : c.isDigit = false) (cs : List Char) :
    StopsDigits (c :: cs) := by
  intro d hd
  cases hd
  exact h

theorem takeWhile_digits (hd : ∀ c ∈ ds, c.isDigit = true) (hr : StopsDigits rest) :
    (ds ++ rest).takeWhile Char.isDigit = ds :=
  takeWhile_run hd hr

theorem dropWhile_digits (hd : ∀ c ∈ ds, c.isDigit = true) (hr : StopsDigits rest) :
    (ds ++ rest).dropWhile Char.isDigit = rest :=
  dropWhile_run hd hr

end

end QueryWire.Text.Numeral

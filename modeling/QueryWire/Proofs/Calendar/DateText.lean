/-
  Dates read back from their texts.

  The reader takes far more texts than the writer makes.  On a written date it
  takes the year up to the first hyphen, because the year is either four digits
  or a sign and digits, and two digits each for month and day.
-/
import QueryWire.Calendar.DateText
import QueryWire.Proofs.Calendar.Civil
import QueryWire.Proofs.Numeral

namespace QueryWire.Calendar

open Text (Numeral.padded Numeral.value Numeral.StopsDigits Numeral.stopsDigits_cons)
open Text.Numeral (isDigit_of_mem_padded length_padded padded_ne_nil value_padded)

/-! ## Runs of digits -/

theorem isBlank_of_isDigit {c : Char} (h : c.isDigit = true) : Text.isBlank c = false := by
  have hb := Text.Numeral.toNat_of_isDigit h
  simp only [Text.isBlank, Bool.or_eq_false_iff, Bool.and_eq_false_iff, decide_eq_false_iff_not,
    beq_eq_false_iff_ne]
  omega

theorem trimLeft_cons {c : Char} {cs : List Char} (h : Text.isBlank c = false) :
    Text.trimLeft (c :: cs) = c :: cs := by
  rw [Text.trimLeft, List.dropWhile_cons_of_neg (by simp [h])]

section

variable {ds rest : List Char}

theorem trimLeft_digits (hn : ds ≠ []) (hd : ∀ c ∈ ds, c.isDigit = true) :
    Text.trimLeft (ds ++ rest) = ds ++ rest := by
  cases ds with
  | nil => exact absurd rfl hn
  | cons c cs => exact trimLeft_cons (isBlank_of_isDigit (hd c List.mem_cons_self))

theorem digits?_append (hn : ds ≠ []) (hd : ∀ c ∈ ds, c.isDigit = true)
    (hr : Numeral.StopsDigits rest) : digits? (ds ++ rest) = some (Numeral.value ds, rest) := by
  unfold digits?
  rw [Text.Numeral.takeWhile_digits hd hr, Text.Numeral.dropWhile_digits hd hr]
  exact if_neg (by simpa using hn)

theorem digitsUpTo?_append {limit : Nat} (hn : ds ≠ []) (hd : ∀ c ∈ ds, c.isDigit = true)
    (hl : ds.length = limit) : digitsUpTo? limit (ds ++ rest) = some (Numeral.value ds, rest) := by
  have ht : (ds ++ rest).take limit = ds := by rw [← hl, List.take_left]
  have hw : ds.takeWhile Char.isDigit = ds := by
    have := @Text.Numeral.takeWhile_digits _ [] hd (by intro c hc; cases hc)
    rwa [List.append_nil] at this
  unfold digitsUpTo?
  rw [ht, hw]
  dsimp only
  rw [if_neg (by simpa using hn), List.drop_left]

theorem yearNumber?_digits (hn : ds ≠ []) (hd : ∀ c ∈ ds, c.isDigit = true)
    (hl : ds.length = 4) : yearNumber? (ds ++ rest) = some ((Numeral.value ds : Int), rest) := by
  cases ds with
  | nil => exact absurd rfl hn
  | cons c cs =>
    have hc := hd c List.mem_cons_self
    have h : yearNumber? (c :: cs ++ rest) =
        (digitsUpTo? 4 (c :: cs ++ rest)).map (fun p => ((p.1 : Int), p.2)) := by
      unfold yearNumber?
      split
      · rename_i he
        cases he
        exact absurd hc (by decide)
      · rename_i he
        cases he
        exact absurd hc (by decide)
      · rfl
    rw [h, digitsUpTo?_append hn hd hl]
    rfl

end

/-! ## Dates -/

theorem yearNumber?_yearChars (year : Int) (rest : List Char) :
    yearNumber? (yearChars year ++ '-' :: rest) = some (year, '-' :: rest) := by
  have hr : Numeral.StopsDigits ('-' :: rest) := Numeral.stopsDigits_cons rfl rest
  have hd : ∀ c ∈ Numeral.padded 4 year.natAbs, c.isDigit = true :=
    fun c hc => isDigit_of_mem_padded hc
  unfold yearChars
  by_cases h : 0 ≤ year ∧ year ≤ 9999
  · have hl : (Numeral.padded 4 year.natAbs).length = 4 :=
      length_padded (by decide) (show year.natAbs < 10000 by omega)
    rw [if_pos h, yearNumber?_digits (padded_ne_nil _ _) hd hl, value_padded]
    have : (year.natAbs : Int) = year := by omega
    rw [this]
  · rw [if_neg h]
    by_cases hy : year < 0
    · rw [if_pos hy, List.cons_append, yearNumber?, digits?_append (padded_ne_nil _ _) hd hr,
        value_padded]
      have : -(year.natAbs : Int) = year := by omega
      exact congrArg (fun y => some (y, '-' :: rest)) this
    · rw [if_neg hy, List.cons_append, yearNumber?, digits?_append (padded_ne_nil _ _) hd hr,
        value_padded]
      have : (year.natAbs : Int) = year := by omega
      exact congrArg (fun y => some (y, '-' :: rest)) this

theorem trimLeft_yearChars (year : Int) (rest : List Char) :
    Text.trimLeft (yearChars year ++ rest) = yearChars year ++ rest := by
  unfold yearChars
  split
  · exact trimLeft_digits (padded_ne_nil _ _) fun c hc => isDigit_of_mem_padded hc
  · split
    · exact trimLeft_cons (by decide)
    · exact trimLeft_cons (by decide)

/-- The days of a month are counted with two digits. -/
theorem IsDate.lt_hundred {year : Int} {month day : Nat} (h : IsDate year month day) :
    month < 100 ∧ day < 100 := by
  have hd : (monthLengths year).getD (month - 1) 0 ≤ 31 := by
    have hm := h.month_bounds
    have hc : month - 1 < 12 := by omega
    unfold monthLengths
    generalize month - 1 = i at hc
    match i, hc with
    | 0, _ | 1, _ | 2, _ | 3, _ | 4, _ | 5, _ | 6, _ | 7, _ | 8, _ | 9, _ | 10, _ | 11, _ =>
      simp <;> split <;> decide
  have := h.month_bounds
  have := h.day_bounds
  omega

theorem twoDigits?_padded {n : Nat} (hn : n < 100) (rest : List Char) :
    digitsUpTo? 2 (Text.trimLeft (Numeral.padded 2 n ++ rest)) = some (n, rest) := by
  have hd : ∀ c ∈ Numeral.padded 2 n, c.isDigit = true := fun c hc => isDigit_of_mem_padded hc
  rw [trimLeft_digits (padded_ne_nil _ _) hd,
    digitsUpTo?_append (padded_ne_nil _ _) hd (length_padded (by decide) hn), value_padded]

theorem ofChars?_dayChars {year : Int} {month day : Nat} (h : IsDate year month day) :
    Date.ofChars? (dayChars year month day) = some ⟨year, month, day, h⟩ := by
  obtain ⟨hm, hd⟩ := h.lt_hundred
  have ht := twoDigits?_padded hd []
  rw [List.append_nil] at ht
  unfold Date.ofChars? dayChars
  rw [List.append_assoc, List.cons_append, trimLeft_yearChars, yearNumber?_yearChars]
  simp only [Option.bind_eq_bind, Option.bind_some, hyphen?, twoDigits?_padded hm, ht]
  exact dif_pos h

theorem Date.ofText?_text (d : Date) : Date.ofText? d.text = some d := by
  unfold Date.ofText? Date.text Date.chars
  rw [String.toList_ofList]
  exact ofChars?_dayChars d.valid

theorem Date.text_injective {d e : Date} (h : d.text = e.text) : d = e := by
  have := congrArg Date.ofText? h
  rw [d.ofText?_text, e.ofText?_text] at this
  exact Option.some.inj this

end QueryWire.Calendar

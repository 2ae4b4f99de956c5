/-
  The text of a JSON tree determines the tree, and where it ends.

  The first character of a text tells the kind of the node (`chars_eq_cons`).
  A string ends at its closing mark, a list and an object at their closing
  brackets, and a number where the characters of numbers end; what follows a
  node delimits it (`Delimits`).  So a text that begins with the texts of two
  trees begins with the text of one tree (`chars_append_inj`).  Finite numbers
  take part with their bits, since no two of them are written alike.
-/
import QueryWire.Json.Lexeme
import QueryWire.Proofs.Decimal.Layout
import QueryWire.Proofs.Json.StringText

namespace QueryWire.Json

open Text
open Decimal (isNumberChar isNumberChar_of_isDigit)

/-- The text goes on with a comma or a closing bracket, or not at all. -/
def Delimits (rest : List Char) : Prop :=
  ∀ c ∈ rest.head?, c = ',' ∨ c = ']' ∨ c = '\x7d'

theorem delimits_nil : Delimits [] :=
  fun c hc => by cases hc

theorem Delimits.not_isNumberChar {rest : List Char} (h : Delimits rest) :
    ∀ c ∈ rest.head?, isNumberChar c = false := by
  intro c hc
  rcases h c hc with rfl | rfl | rfl <;> rfl

theorem ne_of_isNumberChar {c d : Char} (hc : isNumberChar c = true)
    (hd : isNumberChar d = false) : c ≠ d := by
  rintro rfl
  rw [hc] at hd
  cases hd

theorem isBlank_of_isNumberChar {c : Char} (h : isNumberChar c = true) : isBlank c = false := by
  have hs : c ≠ ' ' := ne_of_isNumberChar h rfl
  have ht : c ≠ '\t' := ne_of_isNumberChar h rfl
  have hn : c ≠ '\n' := ne_of_isNumberChar h rfl
  have hr : c ≠ '\r' := ne_of_isNumberChar h rfl
  simp [isBlank, hs, ht, hn, hr]

/-! ## Numbers -/

namespace Number

/-- The integer that a number was written as. -/
def int : Number → Option Int
  | .natural n => some n.toNat
  | .negative n _ => some n.toInt
  | .float _ _ => none

theorem chars_of_int {n : Number} {z : Int} (h : n.int = some z) : n.chars = Numeral.ofInt z := by
  cases n with
  | natural n =>
    cases h
    rw [chars, Numeral.ofInt, if_neg (by omega), Int.natAbs_natCast]
  | negative n hn =>
    cases h
    rfl
  | float x hx => cases h

theorem isNumberChar_of_mem_chars {n : Number} {c : Char} (h : c ∈ n.chars) :
    isNumberChar c = true := by
  have hi : ∀ z, c ∈ Numeral.ofInt z → isNumberChar c = true := by
    intro z hz
    rcases Numeral.mem_ofInt hz with rfl | hd
    · rfl
    · exact isNumberChar_of_isDigit hd
  cases n with
  | natural n => exact hi n.toNat (chars_of_int (n := .natural n) rfl ▸ h)
  | negative n hn => exact hi n.toInt h
  | float x hx => exact Decimal.isNumberChar_of_mem_text h

theorem chars_ne_nil (n : Number) : n.chars ≠ [] := by
  intro h
  cases n with
  | natural n => exact Numeral.ofNat_ne_nil _ h
  | negative n hn =>
    have hl : n.toInt < 0 := Int64.lt_iff_toInt_lt.mp hn
    rw [chars, Numeral.ofInt, if_pos hl] at h
    cases h
  | float x hx =>
    obtain ⟨c, hc, -⟩ := Decimal.exists_point_or_exponent .json x
    rw [chars] at h
    rw [h] at hc
    cases hc

/-- An integer and a floating point number are never written alike. -/
theorem ofInt_ne_text (z : Int) (x : Binary64) : Numeral.ofInt z ≠ Decimal.text .json x := by
  intro h
  obtain ⟨c, hc, hp⟩ := Decimal.exists_point_or_exponent .json x
  rw [← h] at hc
  rcases Numeral.mem_ofInt hc with rfl | hd
  · rcases hp with hp | hp <;> cases hp
  · rcases hp with rfl | rfl <;> cases hd

theorem int_injective {m n : Number} {z : Int} (hm : m.int = some z) (hn : n.int = some z) :
    m = n := by
  cases m with
  | float x hx => cases hm
  | natural m =>
    cases n with
    | float x hx => cases hn
    | natural n =>
      cases hm
      have : (n.toNat : Int) = m.toNat := Option.some.inj hn
      rw [UInt64.toNat_inj.mp (Int.ofNat_inj.mp this)]
    | negative n hl =>
      have := Int64.lt_iff_toInt_lt.mp hl
      cases hm
      have : n.toInt = m.toNat := Option.some.inj hn
      have : (0 : Int64).toInt = 0 := rfl
      omega
  | negative m hl =>
    have h0 : (0 : Int64).toInt = 0 := rfl
    have hlt := Int64.lt_iff_toInt_lt.mp hl
    cases n with
    | float x hx => cases hn
    | natural n =>
      cases hm
      have : (n.toNat : Int) = m.toInt := Option.some.inj hn
      omega
    | negative n hl' =>
      cases hm
      have : n.toInt = m.toInt := Option.some.inj hn
      obtain rfl := Int64.toInt_inj.mp this
      rfl

theorem chars_injective {m n : Number} (h : m.chars = n.chars) : m = n := by
  cases hm : m.int with
  | some y =>
    rw [chars_of_int hm] at h
    cases hn : n.int with
    | some z =>
      rw [chars_of_int hn] at h
      obtain rfl := Numeral.ofInt_injective h
      exact int_injective hm hn
    | none =>
      cases n with
      | float x hx => exact absurd h (ofInt_ne_text y x)
      | natural n => cases hn
      | negative n hl => cases hn
  | none =>
    cases m with
    | natural m => cases hm
    | negative m hl => cases hm
    | float x hx =>
      cases hn : n.int with
      | some z =>
        rw [chars_of_int hn] at h
        exact absurd h.symm (ofInt_ne_text z x)
      | none =>
        cases n with
        | natural n => cases hn
        | negative n hl => cases hn
        | float y hy =>
          obtain rfl := Decimal.text_injective hx hy h
          rfl

theorem chars_append_inj {m n : Number} {rest rest' : List Char} (hr : Delimits rest)
    (hr' : Delimits rest') (h : m.chars ++ rest = n.chars ++ rest') : m = n ∧ rest = rest' := by
  have hm : ∀ c ∈ m.chars, isNumberChar c = true := fun c => isNumberChar_of_mem_chars
  have hn : ∀ c ∈ n.chars, isNumberChar c = true := fun c => isNumberChar_of_mem_chars
  have ht := Numeral.takeWhile_run hm hr.not_isNumberChar
  have hd := Numeral.dropWhile_run hm hr.not_isNumberChar
  rw [h, Numeral.takeWhile_run hn hr'.not_isNumberChar] at ht
  rw [h, Numeral.dropWhile_run hn hr'.not_isNumberChar] at hd
  exact ⟨chars_injective ht.symm, hd.symm⟩

end Number

/-! ## First characters -/

/-- What the first character of a text tells of its node. -/
inductive Opening
  | null
  | yes
  | no
  | number
  | string
  | array
  | object

def Opening.ofChar (c : Char) : Opening :=
  if c = 'n' then .null
  else if c = 't' then .yes
  else if c = 'f' then .no
  else if c = '"' then .string
  else if c = '[' then .array
  else if c = '\x7b' then .object
  else .number

theorem Opening.ofChar_of_isNumberChar {c : Char} (h : isNumberChar c = true) :
    ofChar c = .number := by
  have hne : ∀ d, isNumberChar d = false → c ≠ d := fun d => ne_of_isNumberChar h
  rw [ofChar, if_neg (hne 'n' rfl), if_neg (hne 't' rfl), if_neg (hne 'f' rfl),
    if_neg (hne '"' rfl), if_neg (hne '[' rfl), if_neg (hne '\x7b' rfl)]

namespace Node

def opening : Node → Opening
  | .null => .null
  | .bool true => .yes
  | .bool false => .no
  | .number _ => .number
  | .string _ => .string
  | .array _ => .array
  | .object _ => .object

/-- A text begins with a character of its kind, and with none that could stand
    in front of it or in its place. -/
theorem chars_eq_cons (node : Node) : ∃ c cs, node.chars = c :: cs ∧
    Opening.ofChar c = node.opening ∧ isBlank c = false ∧ c ≠ ']' ∧ c ≠ '\x7d' := by
  cases node with
  | null => exact ⟨'n', _, rfl, rfl, rfl, by decide, by decide⟩
  | bool b =>
    cases b with
    | true => exact ⟨'t', _, rfl, rfl, rfl, by decide, by decide⟩
    | false => exact ⟨'f', _, rfl, rfl, rfl, by decide, by decide⟩
  | number n =>
    cases hc : n.chars with
    | nil => exact absurd hc n.chars_ne_nil
    | cons c cs =>
      have hn : isNumberChar c = true :=
        Number.isNumberChar_of_mem_chars (hc ▸ List.mem_cons_self)
      exact ⟨c, cs, hc, Opening.ofChar_of_isNumberChar hn, isBlank_of_isNumberChar hn,
        ne_of_isNumberChar hn rfl, ne_of_isNumberChar hn rfl⟩
  | string s => exact ⟨'"', _, rfl, rfl, rfl, by decide, by decide⟩
  | array items =>
    cases items with
    | nil => exact ⟨'[', _, rfl, rfl, rfl, by decide, by decide⟩
    | cons node rest => exact ⟨'[', _, rfl, rfl, rfl, by decide, by decide⟩
  | object entries =>
    cases entries with
    | nil => exact ⟨'\x7b', _, rfl, rfl, rfl, by decide, by decide⟩
    | cons p rest => exact ⟨'\x7b', _, rfl, rfl, rfl, by decide, by decide⟩

theorem opening_eq {m n : Node} {rest rest' : List Char}
    (h : m.chars ++ rest = n.chars ++ rest') : m.opening = n.opening := by
  obtain ⟨c, cs, hc, hm, -⟩ := m.chars_eq_cons
  obtain ⟨d, ds, hd, hn, -⟩ := n.chars_eq_cons
  rw [hc, hd, List.cons_append, List.cons_append] at h
  rw [← hm, ← hn, (List.cons.inj h).1]

theorem delimits_itemChars (nodes : List Node) (rest : List Char) :
    Delimits (itemChars nodes ++ rest) := by
  intro c hc
  cases nodes with
  | nil =>
    cases hc
    exact Or.inr (Or.inl rfl)
  | cons node nodes =>
    cases hc
    exact Or.inl rfl

theorem delimits_entryChars (entries : List (String × Node)) (rest : List Char) :
    Delimits (entryChars entries ++ rest) := by
  intro c hc
  cases entries with
  | nil =>
    cases hc
    exact Or.inr (Or.inr rfl)
  | cons p entries =>
    cases hc
    exact Or.inl rfl

/-- No item begins like the end of a list. -/
theorem chars_append_ne_close {node : Node} {c : Char} (hc : c = ']' ∨ c = '\x7d')
    (rest rest' : List Char) : c :: rest ≠ node.chars ++ rest' := by
  intro h
  obtain ⟨d, ds, hd, -, -, hs, ho⟩ := node.chars_eq_cons
  rw [hd, List.cons_append] at h
  obtain rfl := (List.cons.inj h).1
  rcases hc with hc | hc
  · exact hs hc
  · exact ho hc

/-! ## Trees -/

mutual
theorem chars_append_inj : (m n : Node) → {rest rest' : List Char} → Delimits rest →
    Delimits rest' → m.chars ++ rest = n.chars ++ rest' → m = n ∧ rest = rest'
  | .null, n, rest, rest', _, _, h => by
    have ho := opening_eq h
    cases n with
    | null => exact ⟨rfl, List.append_cancel_left h⟩
    | bool b => cases b <;> cases ho
    | number _ | string _ | array _ | object _ => cases ho
  | .bool a, n, rest, rest', _, _, h => by
    have ho := opening_eq h
    cases n with
    | bool b =>
      obtain rfl : a = b := by cases a <;> cases b <;> first | rfl | cases ho
      exact ⟨rfl, List.append_cancel_left h⟩
    | null | number _ | string _ | array _ | object _ => cases a <;> cases ho
  | .number m, n, rest, rest', hr, hr', h => by
    have ho := opening_eq h
    cases n with
    | number n =>
      obtain ⟨rfl, he⟩ := Number.chars_append_inj hr hr' h
      exact ⟨rfl, he⟩
    | bool b => cases b <;> cases ho
    | null | string _ | array _ | object _ => cases ho
  | .string s, n, rest, rest', _, _, h => by
    have ho := opening_eq h
    cases n with
    | string t =>
      obtain ⟨rfl, he⟩ := stringChars_append_inj h
      exact ⟨rfl, he⟩
    | bool b => cases b <;> cases ho
    | null | number _ | array _ | object _ => cases ho
  | .array [], n, rest, rest', _, _, h => by
    have ho := opening_eq h
    cases n with
    | array ys =>
      cases ys with
      | nil => exact ⟨rfl, List.append_cancel_left h⟩
      | cons y ys =>
        simp only [chars, List.cons_append, List.nil_append, List.append_assoc] at h
        exact absurd (List.cons.inj h).2 (chars_append_ne_close (Or.inl rfl) _ _)
    | bool b => cases b <;> cases ho
    | null | number _ | string _ | object _ => cases ho
  | .array (x :: xs), n, rest, rest', _, _, h => by
    have ho := opening_eq h
    cases n with
    | array ys =>
      cases ys with
      | nil =>
        simp only [chars, List.cons_append, List.nil_append, List.append_assoc] at h
        exact absurd (List.cons.inj h).2.symm (chars_append_ne_close (Or.inl rfl) _ _)
      | cons y ys =>
        rw [chars, chars, List.cons_append, List.cons_append, List.append_assoc,
          List.append_assoc] at h
        obtain ⟨rfl, hi⟩ := chars_append_inj x y (delimits_itemChars xs rest)
          (delimits_itemChars ys rest') (List.cons.inj h).2
        obtain ⟨rfl, he⟩ := itemChars_append_inj xs ys hi
        exact ⟨rfl, he⟩
    | bool b => cases b <;> cases ho
    | null | number _ | string _ | object _ => cases ho
  | .object [], n, rest, rest', _, _, h => by
    have ho := opening_eq h
    cases n with
    | object ys =>
      cases ys with
      | nil => exact ⟨rfl, List.append_cancel_left h⟩
      | cons p ys =>
        rw [chars, chars, stringChars_eq_cons] at h
        cases h
    | bool b => cases b <;> cases ho
    | null | number _ | string _ | array _ => cases ho
  | .object ((k, x) :: xs), n, rest, rest', _, _, h => by
    have ho := opening_eq h
    cases n with
    | object ys =>
      cases ys with
      | nil =>
        rw [chars, chars, stringChars_eq_cons] at h
        cases h
      | cons p ys =>
        obtain ⟨k', y⟩ := p
        rw [chars, chars, List.cons_append, List.cons_append, List.append_assoc,
          List.append_assoc] at h
        obtain ⟨rfl, hc⟩ := stringChars_append_inj (List.cons.inj h).2
        rw [List.cons_append, List.cons_append, List.append_assoc, List.append_assoc] at hc
        obtain ⟨rfl, hi⟩ := chars_append_inj x y (delimits_entryChars xs rest)
          (delimits_entryChars ys rest') (List.cons.inj hc).2
        obtain ⟨rfl, he⟩ := entryChars_append_inj xs ys hi
        exact ⟨rfl, he⟩
    | bool b => cases b <;> cases ho
    | null | number _ | string _ | array _ => cases ho

theorem itemChars_append_inj : (xs ys : List Node) → {rest rest' : List Char} →
    itemChars xs ++ rest = itemChars ys ++ rest' → xs = ys ∧ rest = rest'
  | [], [], _, _, h => ⟨rfl, List.append_cancel_left h⟩
  | [], _ :: _, _, _, h => by
    rw [itemChars, itemChars] at h
    cases h
  | _ :: _, [], _, _, h => by
    rw [itemChars, itemChars] at h
    cases h
  | x :: xs, y :: ys, rest, rest', h => by
    rw [itemChars, itemChars, List.cons_append, List.cons_append, List.append_assoc,
      List.append_assoc] at h
    obtain ⟨rfl, hi⟩ := chars_append_inj x y (delimits_itemChars xs rest)
      (delimits_itemChars ys rest') (List.cons.inj h).2
    obtain ⟨rfl, he⟩ := itemChars_append_inj xs ys hi
    exact ⟨rfl, he⟩

theorem entryChars_append_inj : (xs ys : List (String × Node)) → {rest rest' : List Char} →
    entryChars xs ++ rest = entryChars ys ++ rest' → xs = ys ∧ rest = rest'
  | [], [], _, _, h => ⟨rfl, List.append_cancel_left h⟩
  | [], (_, _) :: _, _, _, h => by
    rw [entryChars, entryChars] at h
    cases h
  | (_, _) :: _, [], _, _, h => by
    rw [entryChars, entryChars] at h
    cases h
  | (k, x) :: xs, (k', y) :: ys, rest, rest', h => by
    rw [entryChars, entryChars, List.cons_append, List.cons_append, List.append_assoc,
      List.append_assoc] at h
    obtain ⟨rfl, hc⟩ := stringChars_append_inj (List.cons.inj h).2
    rw [List.cons_append, List.cons_append, List.append_assoc, List.append_assoc] at hc
    obtain ⟨rfl, hi⟩ := chars_append_inj x y (delimits_entryChars xs rest)
      (delimits_entryChars ys rest') (List.cons.inj hc).2
    obtain ⟨rfl, he⟩ := entryChars_append_inj xs ys hi
    exact ⟨rfl, he⟩
end

/-- Trees with one text are one tree. -/
theorem text_injective {m n : Node} (h : m.text = n.text) : m = n := by
  have hc : m.chars ++ [] = n.chars ++ [] := by
    rw [List.append_nil, List.append_nil]
    exact String.ofList_injective h
  exact (chars_append_inj m n delimits_nil delimits_nil hc).1

end Node

end QueryWire.Json

/-
  Decimal numerals of natural numbers and integers.  `ofNat` writes without
  leading zeros, `padded` fills up with zeros to a least width, and `value`
  reads a run of digits back (`value_ofNat`, `value_padded`).  Hexadecimal
  digits may be large or small letters.
-/
namespace QueryWire.Text.Numeral

/-- The value of a decimal digit. -/
def digit? (c : Char) : Option Nat :=
  if c.isDigit then some (c.toNat - 48) else none

/-- The value of a hexadecimal digit. -/
def hexDigit? (c : Char) : Option Nat :=
  let n := c.toNat
  if 48 ≤ n ∧ n ≤ 57 then some (n - 48)
  else if 65 ≤ n ∧ n ≤ 70 then some (n - 55)
  else if 97 ≤ n ∧ n ≤ 102 then some (n - 87)
  else none

/-- The number that a run of digits denotes; zero for the empty run. -/
def value (digits : List Char) : Nat :=
  Nat.ofDigitChars 10 digits 0

def ofNat (n : Nat) : List Char :=
  Nat.toDigits 10 n

def ofInt (z : Int) : List Char :=
  if z < 0 then '-' :: ofNat z.natAbs else ofNat z.natAbs

/-- The numeral of `n` with zeros in front up to `width` digits. -/
def padded (width n : Nat) : List Char :=
  List.replicate (width - (ofNat n).length) '0' ++ ofNat n

theorem value_ofNat (n : Nat) : value (ofNat n) = n :=
  Nat.ofDigitChars_toDigits (by decide) (by decide)

theorem isDigit_of_mem_ofNat {n : Nat} {c : Char} (h : c ∈ ofNat n) : c.isDigit = true :=
  Nat.isDigit_of_mem_toDigits (by decide) (by decide) h

theorem value_zeros (k : Nat) (cs : List Char) : value (List.replicate k '0' ++ cs) = value cs := by
  induction k with
  | zero => rfl
  | succ k ih => rw [List.replicate_succ, List.cons_append, ← ih]; rfl

theorem value_padded (width n : Nat) : value (padded width n) = n := by
  rw [padded, value_zeros, value_ofNat]

end QueryWire.Text.Numeral

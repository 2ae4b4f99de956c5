/-
  The shortest decimal of a binary64 number.

  A decimal `coefficient * 10 ^ exponent` reads back to the number nearest to
  it.  `shortest x` looks at the grids of one, two, ... seventeen digits: on
  each only the two neighbours of `x` can be the closest decimals that read
  back to `x`, the first grid with such a neighbour wins, of two the nearer
  one, and an exact tie goes to the even coefficient.  Should no grid have one,
  the exact expansion is taken, so the result reads back in every case.
-/
import QueryWire.Binary64
import QueryWire.Text.Numeral

namespace QueryWire

/-- The positive decimal `coefficient * 10 ^ exponent`. -/
structure Decimal where
  coefficient : Nat
  exponent : Int
deriving DecidableEq

namespace Decimal

/-- The binary64 number nearest to a decimal. -/
def toBinary64 (d : Decimal) : Binary64 :=
  if d.exponent < 0 then Binary64.ofRatio false d.coefficient (Nat.pow 10 d.exponent.natAbs)
  else Binary64.ofRatio false (d.coefficient * Nat.pow 10 d.exponent.natAbs) 1

/-- The count of decimal digits. -/
def digitCount (n : Nat) : Nat :=
  (Text.Numeral.ofNat n).length

/-- The power of ten of the first digit of a positive number of units.  Below
    one it is found from the reciprocal, which is no power of ten. -/
def leadingExponent (units : Nat) : Int :=
  if Binary64.unitsOfOne ≤ units then (digitCount (units / Binary64.unitsOfOne) : Int) - 1
  else -(digitCount (Binary64.unitsOfOne / units) : Int)

/-- The two neighbours of a number of units on the grid of multiples of
    `10 ^ exponent`, the nearer one first. -/
def neighbours (units : Nat) (exponent : Int) : List Decimal :=
  let scale := Nat.pow 10 exponent.natAbs
  let num := if exponent < 0 then units * scale else units
  let den := if exponent < 0 then Binary64.unitsOfOne else Binary64.unitsOfOne * scale
  let q := num / den
  let r := num % den
  if den < 2 * r ∨ (den = 2 * r ∧ q % 2 = 1) then [⟨q + 1, exponent⟩, ⟨q, exponent⟩]
  else [⟨q, exponent⟩, ⟨q + 1, exponent⟩]

/-- The nearest neighbour of `x` on a grid that reads back to `x`. -/
def onGrid (x : Binary64) (exponent : Int) : Option Decimal :=
  (neighbours x.units exponent).find? (fun d => d.toBinary64 == x)

/-- The finite expansion of a number, digit for digit. -/
def exact (x : Binary64) : Decimal :=
  ⟨x.units * Nat.pow 5 1074, -1074⟩

/-- The shortest decimal that reads back to a positive finite number. -/
def shortest (x : Binary64) : Decimal :=
  let e := leadingExponent x.units
  ((List.range 17).findSome? (fun (n : Nat) => onGrid x (e - n))).getD (exact x)

/-- The digits of the coefficient without zeros at the end, and the power of
    ten of the first of them. -/
def scientific (d : Decimal) : List Char × Int :=
  let digits := Text.Numeral.ofNat d.coefficient
  ((digits.reverse.dropWhile (· == '0')).reverse, d.exponent + digits.length - 1)

theorem toBinary64_of_onGrid {x : Binary64} {e : Int} {d : Decimal} (h : onGrid x e = some d) :
    d.toBinary64 = x := by
  have := List.find?_some h
  exact eq_of_beq this

end Decimal

end QueryWire

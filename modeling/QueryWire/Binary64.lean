/-
  Binary floating point numbers of 64 bits, by exact integer arithmetic.

  A finite number is `scaled / 2 ^ 1074`, with `scaled` an integer whose
  absolute value is `units = significand * 2 ^ unitExponent`.  `round` takes a
  magnitude `a / (d * 2 ^ 1074)` to the nearest number, a tie to the even
  significand, and beyond the largest finite number to infinity.  Conversion,
  product and quotient are exact results rounded once.
-/
namespace QueryWire

/-- A binary64 number, given by its bits; equality of numbers is equality of bits. -/
structure Binary64 where
  bits : UInt64
deriving DecidableEq

namespace Binary64

/-- The units of `2 ^ -1074` in the number one. -/
def unitsOfOne : Nat :=
  Nat.pow 2 1074

/-- The bit of the sign, `2 ^ 63`. -/
def signBit : Nat := 0x8000000000000000

/-- The bit in front of the fraction, `2 ^ 52`; it is not stored. -/
def hiddenBit : Nat := 0x10000000000000

/-! ## Fields -/

def word (x : Binary64) : Nat :=
  x.bits.toNat

def isNegative (x : Binary64) : Bool :=
  decide (signBit ≤ x.word)

def exponentField (x : Binary64) : Nat :=
  x.word / hiddenBit % 2048

def fractionField (x : Binary64) : Nat :=
  x.word % hiddenBit

def isFinite (x : Binary64) : Bool :=
  x.exponentField != 2047

def isInfinite (x : Binary64) : Bool :=
  x.exponentField == 2047 && x.fractionField == 0

def isNaN (x : Binary64) : Bool :=
  x.exponentField == 2047 && x.fractionField != 0

def isZero (x : Binary64) : Bool :=
  x.word % signBit == 0

/-- The significand with its hidden bit, which subnormal numbers lack. -/
def significand (x : Binary64) : Nat :=
  if x.exponentField = 0 then x.fractionField else hiddenBit + x.fractionField

/-- The exponent of the last place, counted from `2 ^ -1074`. -/
def unitExponent (x : Binary64) : Nat :=
  x.exponentField - 1

/-- The magnitude of a finite number, counted in `2 ^ -1074`. -/
def units (x : Binary64) : Nat :=
  x.significand * Nat.pow 2 x.unitExponent

/-- A finite number, counted in `2 ^ -1074`. -/
def scaled (x : Binary64) : Int :=
  if x.isNegative then -(x.units : Int) else x.units

/-- The number with the given sign, significand and exponent of the last place. -/
def ofFields (negative : Bool) (significand unitExponent : Nat) : Binary64 :=
  ⟨UInt64.ofNat ((if negative then signBit else 0) +
    if significand < hiddenBit then significand
    else (unitExponent + 1) * hiddenBit + (significand - hiddenBit))⟩

def zero (negative : Bool) : Binary64 :=
  ofFields negative 0 0

def infinity (negative : Bool) : Binary64 :=
  ⟨UInt64.ofNat ((if negative then signBit else 0) + 2047 * hiddenBit)⟩

/-- The number without its sign. -/
def magnitude (x : Binary64) : Binary64 :=
  ⟨UInt64.ofNat (x.word % signBit)⟩

/-- The number with the opposite sign. -/
def negate (x : Binary64) : Binary64 :=
  ⟨UInt64.ofNat ((x.word + signBit) % UInt64.size)⟩

/-! ## Rounding -/

/-- The integer nearest to `a / d`, a tie to the even one. -/
def nearestQuotient (a d : Nat) : Nat :=
  let q := a / d
  let r := a % d
  if 2 * r < d then q
  else if d < 2 * r then q + 1
  else if q % 2 = 0 then q else q + 1

/-- The exponent of the last place for a magnitude of `a / d` units. -/
def placeOf (a d : Nat) : Nat :=
  let p := a.log2 - (d.log2 + 52)
  if p ≠ 0 ∧ a < d * Nat.pow 2 (p + 52) then p - 1 else p

/-- Significand and exponent of the last place of the nearest number; `none`
    beyond the largest finite one. -/
def roundMagnitude (a d : Nat) : Option (Nat × Nat) :=
  let p := placeOf a d
  let m := nearestQuotient a (d * Nat.pow 2 p)
  let (m, p) := if m = 2 * hiddenBit then (hiddenBit, p + 1) else (m, p)
  if p ≤ 2045 then some (m, p) else none

/-- The number nearest to `a / d` units. -/
def round (negative : Bool) (a d : Nat) : Binary64 :=
  match roundMagnitude a d with
  | some (m, p) => ofFields negative m p
  | none => infinity negative

/-- The number nearest to `a / d`. -/
def ofRatio (negative : Bool) (a d : Nat) : Binary64 :=
  round negative (a * unitsOfOne) d

def ofNat (n : Nat) : Binary64 :=
  ofRatio false n 1

/-- The exact product of finite numbers, rounded. -/
def mul (x y : Binary64) : Binary64 :=
  round (x.isNegative != y.isNegative) (x.units * y.units) unitsOfOne

/-- The exact quotient of finite numbers, rounded; the divisor is not zero. -/
def div (x y : Binary64) : Binary64 :=
  round (x.isNegative != y.isNegative) (x.units * unitsOfOne) y.units

/-! ## Comparing and converting -/

/-- Equality of numbers in the arithmetic sense: the zeros are equal, and a
    NaN is equal to nothing. -/
def sameNumber (x y : Binary64) : Bool :=
  !x.isNaN && !y.isNaN && (x == y || (x.isZero && y.isZero))

/-- The number truncated toward zero and clamped to 64 bits; NaN gives zero. -/
def toInt64 (x : Binary64) : Int64 :=
  if x.isNaN then 0
  else if x.isFinite then Int64.ofIntClamp (x.scaled.tdiv unitsOfOne)
  else if x.isNegative then Int64.minValue else Int64.maxValue

/-- The power `10 ^ k`, rounded. -/
def powerOfTen (k : Nat) : Binary64 :=
  ofNat (Nat.pow 10 k)

end Binary64

end QueryWire

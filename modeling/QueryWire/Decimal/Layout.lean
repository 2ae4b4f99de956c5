/-
  How a finite binary64 number is written: the digits are those of
  `Decimal.shortest`, and a `Layout` says from which to which power of ten of
  the first digit they are laid out positionally.  Outside that range one
  digit stands before the point and the power follows with its sign.
-/
import QueryWire.Decimal.Shortest

namespace QueryWire.Decimal

/-- The powers of ten of the first digit that are written positionally. -/
structure Layout where
  least : Int
  greatest : Int

/-- JSON texts are positional from 0.00001 up to 16 digits before the point. -/
def Layout.json : Layout := ⟨-5, 15⟩

/-- Digits with a point after the first `n`, filled up with zeros; a point is
    never the last character. -/
def pointAfter (n : Nat) (digits : List Char) : List Char :=
  let whole := digits.take n ++ List.replicate (n - digits.length) '0'
  let fraction := digits.drop n
  whole ++ '.' :: (if fraction.isEmpty then ['0'] else fraction)

/-- Digits whose first one has the given power of ten. -/
def Layout.write (layout : Layout) (digits : List Char) (power : Int) : List Char :=
  if layout.least ≤ power ∧ power ≤ layout.greatest then
    if power < 0 then '0' :: '.' :: (List.replicate (power.natAbs - 1) '0' ++ digits)
    else pointAfter (power.natAbs + 1) digits
  else
    digits.take 1 ++
      (if digits.length ≤ 1 then [] else '.' :: digits.drop 1) ++
      'e' :: (if power < 0 then '-' else '+') :: Text.Numeral.ofNat power.natAbs

/-- The text of a finite number. -/
def text (layout : Layout) (x : Binary64) : List Char :=
  let magnitude :=
    if x.isZero then ['0', '.', '0']
    else
      let (digits, power) := (shortest x.magnitude).scientific
      layout.write digits power
  if x.isNegative then '-' :: magnitude else magnitude

end QueryWire.Decimal

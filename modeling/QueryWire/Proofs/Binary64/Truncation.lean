/-
  Conversion to an integer, in exact arithmetic.

  `toRat` is the rational number that a finite double stands for.  Conversion
  drops the fraction of this number and clamps the rest to the signed integers
  of 64 bits (`toInt_toInt64`).  Both steps keep the order (`truncated_mono`,
  `clamped_mono`).  Rounding to a double first does no harm beyond the range:
  `2 ^ 63` is a double, so nothing above it is rounded to less
  (`le_toRat_ofNat`).
-/
import QueryWire.Proofs.Binary64.Nearest
import Mathlib.Data.Rat.Floor
import Mathlib.Tactic.NormNum

namespace QueryWire

/-! ## Integers out of rational numbers -/

/-- The rational number without its fraction. -/
def truncated (q : ℚ) : ℤ :=
  if 0 ≤ q then ⌊q⌋ else ⌈q⌉

/-- The signed integer of 64 bits that is nearest to an integer. -/
def clamped (n : ℤ) : ℤ :=
  max (-2 ^ 63) (min (2 ^ 63 - 1) n)

theorem truncated_mono {p q : ℚ} (h : p ≤ q) : truncated p ≤ truncated q := by
  unfold truncated
  split <;> split
  · exact Int.floor_mono h
  · linarith
  · rename_i hp hq
    have hp' : ⌈p⌉ ≤ 0 := Int.ceil_nonpos.mpr (le_of_not_ge hp)
    have hq' : 0 ≤ ⌊q⌋ := Int.floor_nonneg.mpr hq
    exact hp'.trans hq'
  · exact Int.ceil_mono h

theorem truncated_intCast (n : ℤ) : truncated n = n := by
  unfold truncated
  split
  · exact Int.floor_intCast n
  · exact Int.ceil_intCast n

/-- Of a quotient of integers, truncation gives the quotient toward zero. -/
theorem truncated_div (a : ℤ) {d : ℕ} (hd : 0 < d) : truncated (a / d) = a.tdiv d := by
  have hd' : (0 : ℚ) < d := Nat.cast_pos.mpr hd
  unfold truncated
  by_cases ha : 0 ≤ a
  · have hq : (0 : ℚ) ≤ a / d := div_nonneg (Int.cast_nonneg ha) hd'.le
    rw [if_pos hq, Rat.floor_intCast_div_natCast, Int.tdiv_eq_ediv_of_nonneg ha]
  · have hneg : a < 0 := Int.not_le.mp ha
    have hq : ¬ (0 : ℚ) ≤ a / d :=
      not_le.mpr (div_neg_of_neg_of_pos (Int.cast_lt_zero.mpr hneg) hd')
    have hdiv : (-a).tdiv d = -a / d := Int.tdiv_eq_ediv_of_nonneg (by omega)
    rw [if_neg hq, Rat.ceil_intCast_div_natCast, ← hdiv, Int.neg_tdiv, Int.neg_neg]

theorem clamped_mono {m n : ℤ} (h : m ≤ n) : clamped m ≤ clamped n := by
  unfold clamped
  omega

theorem clamped_of_bounds {n : ℤ} (hl : -2 ^ 63 ≤ n) (hu : n < 2 ^ 63) : clamped n = n := by
  unfold clamped
  omega

theorem clamped_of_le {n : ℤ} (h : 2 ^ 63 ≤ n) : clamped n = 2 ^ 63 - 1 := by
  unfold clamped
  omega

theorem toInt_ofIntClamp (n : ℤ) : (Int64.ofIntClamp n).toInt = clamped n := by
  have hmin : Int64.minValue.toInt = -2 ^ 63 := by decide
  have hmax : Int64.maxValue.toInt = 2 ^ 63 - 1 := by decide
  unfold Int64.ofIntClamp clamped
  split
  · split
    · rw [Int64.toInt_ofIntLE]
      omega
    · omega
  · omega

namespace Binary64

/-! ## The number that a double stands for -/

/-- The exact number: sign, significand and the power of two of its last place. -/
def toRat (x : Binary64) : ℚ :=
  (if x.isNegative then -1 else 1) * x.significand * 2 ^ ((x.unitExponent : ℤ) - 1074)

theorem unitsOfOne_pos : 0 < unitsOfOne := by
  unfold unitsOfOne
  exact natPow_pos Nat.two_pos _

theorem cast_unitsOfOne : (unitsOfOne : ℚ) = 2 ^ 1074 := by
  unfold unitsOfOne
  exact Nat.cast_pow 2 _

theorem toRat_eq (x : Binary64) : x.toRat = x.scaled / unitsOfOne := by
  have hu : (x.units : ℚ) = x.significand * 2 ^ x.unitExponent := by
    rw [units]
    exact Nat.cast_mul _ _ |>.trans (congrArg _ (Nat.cast_pow 2 _))
  have hp : (2 : ℚ) ^ ((x.unitExponent : ℤ) - 1074) = 2 ^ x.unitExponent / 2 ^ 1074 := by
    rw [zpow_sub₀ two_ne_zero, zpow_natCast]
    rfl
  unfold toRat scaled
  rw [hp, cast_unitsOfOne]
  cases x.isNegative
  · simp only [Bool.false_eq_true, if_false, Int.cast_natCast, hu]
    ring
  · simp only [if_true, Int.cast_neg, Int.cast_natCast, hu]
    ring

/-- A finite number is converted without rounding. -/
theorem toInt_toInt64 {x : Binary64} (h : x.isFinite = true) :
    x.toInt64.toInt = clamped (truncated x.toRat) := by
  have hn : x.isNaN = false := by
    have he : x.exponentField ≠ 2047 := by simpa [isFinite] using h
    simp [isNaN, he]
  rw [toInt64, if_neg (by simp [hn]), if_pos h, toInt_ofIntClamp, toRat_eq,
    truncated_div _ unitsOfOne_pos]

/-! ## Beyond the signed integers -/

/-- `2 ^ 63`, the least number beyond the signed integers of 64 bits. -/
theorem exists_scaled_eq_int64End :
    ∃ y : Binary64, y.isFinite = true ∧ y.scaled = (2 ^ 63 * unitsOfOne : ℕ) := by
  obtain ⟨hf, hn, hs, he⟩ :=
    ofFields_spec (m := hiddenBit) (p := 1085) (by decide) (by decide) (by decide)
  refine ⟨ofFields false hiddenBit 1085, hf, ?_⟩
  have hu : hiddenBit * Nat.pow 2 1085 = 2 ^ 63 * unitsOfOne := by
    have hb : hiddenBit = Nat.pow 2 52 := rfl
    have hb' : (2 ^ 63 : ℕ) = Nat.pow 2 63 := rfl
    rw [hb, hb', unitsOfOne, ← natPow_add, ← natPow_add]
  rw [scaled_of_nonneg hn, units, hs, he, hu]

/-- A natural number of 64 bits from `2 ^ 63` on is not rounded below `2 ^ 63`. -/
theorem le_toRat_ofNat {n : ℕ} (hl : 2 ^ 63 ≤ n) (hn : n < Nat.pow 2 64) :
    2 ^ 63 ≤ (ofNat n).toRat := by
  obtain ⟨y, hy, hs⟩ := exists_scaled_eq_int64End
  have hle := (isNearest_ofNat hn).le y hy
  have hmul : 2 ^ 63 * unitsOfOne ≤ n * unitsOfOne := Nat.mul_le_mul_right _ hl
  -- below `2 ^ 63` the rounded number would be farther away than `2 ^ 63` is
  have hscaled : ((2 ^ 63 * unitsOfOne : ℕ) : ℤ) ≤ (ofNat n).scaled := by
    unfold distance at hle
    omega
  rw [toRat_eq, le_div_iff₀ (Nat.cast_pos.mpr unitsOfOne_pos)]
  exact_mod_cast hscaled

end Binary64

end QueryWire

/-
  Numbers read as integers.

  A number of a document stands for a rational number (`Number.toRat`).  Read as
  an integer it is that number, truncated toward zero and clamped to 64 bits,
  whatever its class (`Number.toInt_toInt64`): natural numbers beyond the signed
  integers are rounded to a double first, but not below the bound.  Both readers
  give this integer (`LazyValue.int64?_of_number`), so the order of numbers is
  kept, and an integer that was written is read back.
-/
import QueryWire.Proofs.Binary64.Truncation
import QueryWire.Proofs.Wire.Coercions
import QueryWire.Proofs.Wire.Rewriting

namespace QueryWire

open Json (Node Number)

namespace Json.Number

/-- The rational number that a number stands for. -/
def toRat : Number → ℚ
  | .natural n => n.toNat
  | .negative n _ => n.toInt
  | .float x _ => x.toRat

/-- The number as a signed integer of 64 bits: the integer as which it was
    written, or else what its double is converted to. -/
def toInt64 (n : Number) : Int64 :=
  n.int64?.getD n.toDouble.toInt64

theorem toRat_of_int64? {n : Number} {i : Int64} (h : n.int64? = some i) :
    (i.toInt : ℚ) = n.toRat := by
  cases n with
  | natural n =>
    rw [int64?_natural] at h
    obtain ⟨hlt, hi⟩ := Option.ite_none_right_eq_some.mp h
    cases hi
    rw [toInt_toInt64_of_lt hlt]
    rfl
  | negative n lt =>
    cases h
    rfl
  | float x finite => cases h

/-- Whatever its class, a number is truncated and clamped as it stands. -/
theorem toInt_toInt64 (n : Number) : n.toInt64.toInt = clamped (truncated n.toRat) := by
  unfold toInt64
  cases hi : n.int64? with
  | some i =>
    rw [Option.getD_some, ← toRat_of_int64? hi, truncated_intCast]
    exact (clamped_of_bounds i.le_toInt i.toInt_lt).symm
  | none =>
    rw [Option.getD_none, Binary64.toInt_toInt64 (isFinite_toDouble hi)]
    cases n with
    | natural n =>
      -- the double and the number itself are both beyond the bound
      have hle : int64End ≤ n.toNat := by
        rw [int64?_natural] at hi
        simpa using hi
      have hd : (((2 ^ 63 : ℤ)) : ℚ) ≤ (Binary64.ofNat n.toNat).toRat := by
        exact_mod_cast Binary64.le_toRat_ofNat hle n.toNat_lt
      have hn : (((2 ^ 63 : ℤ)) : ℚ) ≤ n.toNat := by exact_mod_cast hle
      have hd' := truncated_mono hd
      have hn' := truncated_mono hn
      rw [truncated_intCast] at hd' hn'
      exact (clamped_of_le hd').trans (clamped_of_le hn').symm
    | negative n lt => cases hi
    | float x finite => rfl

theorem int64?_toValue (n : Number) : n.toValue.int64? = some n.toInt64 := by
  unfold toValue toInt64
  cases n.int64? <;> rfl

/-- The number that is written for a signed integer is read as this integer. -/
theorem toInt64_ofInt64 (i : Int64) : (ofInt64 i).toInt64 = i := by
  have h := int64?_toValue (ofInt64 i)
  rw [toValue_ofInt64] at h
  exact (Option.some.inj h).symm

end Json.Number

namespace LazyValue

variable {v : LazyValue}

theorem int64?_of_number {n : Number} (h : v.node = .number n) :
    v.int64? = some n.toInt64 ∧ v.toValue.int64? = some n.toInt64 := by
  unfold int64? toValue
  rw [h]
  exact ⟨rfl, n.int64?_toValue⟩

theorem int64?_of_not_number (h : ∀ n, v.node ≠ .number n) :
    v.int64? = none ∧ v.toValue.int64? = none := by
  obtain ⟨node, codec⟩ := v
  have hv := decodes_toValue ⟨node, codec⟩
  generalize (LazyValue.mk node codec).toValue = w at hv ⊢
  cases hv with
  | integer _ => exact absurd rfl (h _)
  | double _ => exact absurd rfl (h _)
  | _ => exact ⟨rfl, rfl⟩

/-- The document of a signed integer is read as this integer. -/
theorem exists_parse_integer (codec : Codec) (i : Int64) :
    ∃ text v, (Value.integer i).text = .ok text ∧ parse codec text = .ok v ∧
      v.int64? = some i ∧ v.toValue.int64? = some i := by
  have hp : parse codec (Node.text (.number (.ofInt64 i))) =
      .ok ⟨.number (.ofInt64 i), codec⟩ := by
    rw [parse, Number.readsBack_iff.mp (Number.readsBack_ofInt64 i)]
  have hi := @int64?_of_number ⟨.number (.ofInt64 i), codec⟩ _ rfl
  rw [Number.toInt64_ofInt64] at hi
  exact ⟨_, _, rfl, hp, hi⟩

/-- Read as an integer, in either way, a number of any class is its exact value,
    truncated toward zero and clamped to 64 bits.  So a greater number is not read
    as a smaller integer, an integer that was written is read back, and nothing
    but a number is read as an integer. -/
theorem int64?_exact :
    (∀ (v : LazyValue) (n : Number), v.node = .number n →
      ∃ i, v.int64? = some i ∧ v.toValue.int64? = some i ∧
        i.toInt = max (-2 ^ 63) (min (2 ^ 63 - 1) (truncated n.toRat))) ∧
    (∀ (v w : LazyValue) (m n : Number) (i j : Int64), v.node = .number m → w.node = .number n →
      v.int64? = some i → w.int64? = some j → m.toRat ≤ n.toRat → i ≤ j) ∧
    (∀ (codec : Codec) (i : Int64), ∃ text v, (Value.integer i).text = .ok text ∧
      parse codec text = .ok v ∧ v.int64? = some i ∧ v.toValue.int64? = some i) ∧
    ∀ v : LazyValue, (∀ n, v.node ≠ .number n) → v.int64? = none ∧ v.toValue.int64? = none := by
  refine ⟨?_, ?_, exists_parse_integer, fun v => int64?_of_not_number⟩
  · intro v n hn
    obtain ⟨hl, hv⟩ := int64?_of_number hn
    exact ⟨_, hl, hv, n.toInt_toInt64⟩
  · intro v w m n i j hm hn hi hj hle
    rw [(int64?_of_number hm).1] at hi
    rw [(int64?_of_number hn).1] at hj
    cases hi
    cases hj
    rw [Int64.le_iff_toInt_le, m.toInt_toInt64, n.toInt_toInt64]
    exact clamped_mono (truncated_mono hle)

/-- The double `-1.5`. -/
def minusThreeHalves : Number :=
  .float ⟨0xBFF8000000000000⟩ (by decide)

theorem toRat_minusThreeHalves : minusThreeHalves.toRat = -3 / 2 := by
  have hs : Binary64.significand ⟨0xBFF8000000000000⟩ = 3 * 2 ^ 51 := by decide
  have he : Binary64.unitExponent ⟨0xBFF8000000000000⟩ = 1022 := by decide
  have hn : Binary64.isNegative ⟨0xBFF8000000000000⟩ = true := by decide
  rw [minusThreeHalves, Number.toRat, Binary64.toRat, hs, he, if_pos hn]
  norm_num

/-- The greatest natural number is clamped, the fraction of a negative double is
    dropped, and a text is no integer. -/
theorem int64?_exact_ends :
    (LazyValue.mk (.number (.natural 18446744073709551615)) ⟨true⟩).toValue.int64? =
      some Int64.maxValue ∧
    (LazyValue.mk (.number minusThreeHalves) ⟨true⟩).int64? = some (-1) ∧
    (-1 : Int64) ≤ Int64.maxValue ∧
    (LazyValue.mk (.string "1") ⟨true⟩).int64? = none := by
  obtain ⟨hnumber, horder, -, hother⟩ := int64?_exact
  obtain ⟨i, hi, hi', hiv⟩ :=
    hnumber ⟨.number (.natural 18446744073709551615), ⟨true⟩⟩ _ rfl
  obtain ⟨j, hj, -, hjv⟩ := hnumber ⟨.number minusThreeHalves, ⟨true⟩⟩ _ rfl
  have him : i = Int64.maxValue := by
    have hr : (Number.natural 18446744073709551615).toRat = (18446744073709551615 : ℤ) := rfl
    rw [hr, truncated_intCast] at hiv
    exact Int64.toInt_inj.mp hiv
  have hjm : j = -1 := by
    have ht : truncated (-3 / 2) = -1 := by
      have := truncated_div (-3) (d := 2) (by decide)
      exact_mod_cast this
    rw [toRat_minusThreeHalves, ht] at hjv
    exact Int64.toInt_inj.mp hjv
  subst him hjm
  have hle : minusThreeHalves.toRat ≤ (Number.natural 18446744073709551615).toRat := by
    rw [toRat_minusThreeHalves]
    exact (by norm_num : (-3 / 2 : ℚ) ≤ 0).trans (Nat.cast_nonneg _)
  have hs := hother ⟨.string "1", ⟨true⟩⟩ fun n h => by cases h
  exact ⟨hi', hj, horder _ _ _ _ _ _ rfl rfl hj hi hle, hs.1⟩

end LazyValue

end QueryWire

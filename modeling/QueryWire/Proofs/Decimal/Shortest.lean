/-
  The shortest decimal reads back.

  A decimal may trade zeros at the end of its coefficient for its exponent
  without a change of the number nearest to it (`toBinary64_zeros`).  The exact
  expansion of a number reads back to it, so whichever grid the search ends on,
  its result does (`toBinary64_shortest`), and so do the digits without zeros
  at the end together with the power of the first one (`toBinary64_digits`).
-/
import QueryWire.Decimal.Shortest
import QueryWire.Proofs.Binary64.Rounding

namespace QueryWire.Decimal

open Text

theorem ten_pow_pos (n : Nat) : 0 < Nat.pow 10 n :=
  natPow_pos (by decide) n

theorem ten_pow_eq (n : Nat) : Nat.pow 10 n = Nat.pow 5 n * Nat.pow 2 n :=
  Nat.mul_pow 5 2 n

/-! ## Decimals of one value -/

theorem toBinary64_of_nonneg {c : Nat} {e : Int} (h : 0 ≤ e) :
    toBinary64 ⟨c, e⟩ = Binary64.ofRatio false (c * Nat.pow 10 e.natAbs) 1 :=
  if_neg (Int.not_lt.mpr h)

theorem toBinary64_of_neg {c : Nat} {e : Int} (h : e < 0) :
    toBinary64 ⟨c, e⟩ = Binary64.ofRatio false c (Nat.pow 10 e.natAbs) :=
  if_pos h

theorem toBinary64_zeros (c k : Nat) (e : Int) :
    toBinary64 ⟨c * Nat.pow 10 k, e⟩ = toBinary64 ⟨c, e + k⟩ := by
  by_cases he : 0 ≤ e
  · have hs : (e + k).natAbs = k + e.natAbs := by omega
    rw [toBinary64_of_nonneg he, toBinary64_of_nonneg (by omega), hs, natPow_add, Nat.mul_assoc]
  have hn : e < 0 := by omega
  rw [toBinary64_of_neg hn]
  by_cases hk : 0 ≤ e + k
  · have hs : k = (e + k).natAbs + e.natAbs := by omega
    have hm := Binary64.ofRatio_mul (ten_pow_pos e.natAbs) (Nat.one_pos) false
      (c * Nat.pow 10 (e + k).natAbs)
    rw [Nat.one_mul, Nat.mul_assoc, ← natPow_add, ← hs] at hm
    rw [toBinary64_of_nonneg hk, hm]
  · have hs : e.natAbs = (e + k).natAbs + k := by omega
    rw [toBinary64_of_neg (by omega), hs, natPow_add,
      Binary64.ofRatio_mul (ten_pow_pos k) (ten_pow_pos _)]

/-! ## The search -/

section

variable {x : Binary64}

theorem toBinary64_expansion {n : Nat} (hu : Binary64.unitsOfOne = Nat.pow 2 n)
    (h0 : 0 < n) (hf : x.isFinite = true) (hn : x.isNegative = false) :
    toBinary64 ⟨x.units * Nat.pow 5 n, -(n : Int)⟩ = x := by
  have ha : (-(n : Int)).natAbs = n := by omega
  have hp : 0 < Nat.pow 10 n := ten_pow_pos n
  rw [toBinary64_of_neg (by omega), ha, Binary64.ofRatio, hu, Nat.mul_assoc, ← ten_pow_eq]
  exact Binary64.round_units hp hf hn

theorem toBinary64_exact (hf : x.isFinite = true) (hn : x.isNegative = false) :
    (exact x).toBinary64 = x :=
  toBinary64_expansion Binary64.unitsOfOne.eq_1 (by decide) hf hn

theorem toBinary64_shortest (hf : x.isFinite = true) (hn : x.isNegative = false) :
    (shortest x).toBinary64 = x := by
  unfold shortest
  dsimp only
  cases hs : (List.range 17).findSome?
      (fun (n : Nat) => onGrid x (leadingExponent x.units - n)) with
  | none => exact toBinary64_exact hf hn
  | some d =>
    obtain ⟨n, -, hg⟩ := List.exists_of_findSome?_eq_some hs
    exact toBinary64_of_onGrid hg

end

theorem toBinary64_zero (e : Int) : toBinary64 ⟨0, e⟩ = .zero false := by
  have hr : ∀ d, 0 < d → Binary64.ofRatio false 0 d = .zero false := by
    intro d hd
    rw [Binary64.ofRatio, Nat.zero_mul, Binary64.round_zero hd]
  by_cases he : 0 ≤ e
  · rw [toBinary64_of_nonneg he, Nat.zero_mul, hr 1 Nat.one_pos]
  · rw [toBinary64_of_neg (by omega), hr _ (ten_pow_pos _)]

/-! ## Digits -/

theorem value_append_zeros (digits : List Char) (k : Nat) :
    Numeral.value (digits ++ List.replicate k '0') = Numeral.value digits * Nat.pow 10 k := by
  unfold Numeral.value
  rw [Nat.ofDigitChars_append, Nat.ofDigitChars_replicate_zero, Nat.mul_comm]
  rfl

/-- The digits of a coefficient are the ones kept and zeros. -/
theorem digits_scientific (d : Decimal) :
    ∃ k, Numeral.ofNat d.coefficient = d.scientific.1 ++ List.replicate k '0' ∧
      d.scientific.2 = d.exponent + (d.scientific.1.length + k : Nat) - 1 := by
  have hz : ∀ cs : List Char, ∃ k, cs = (cs.reverse.dropWhile (· == '0')).reverse ++
      List.replicate k '0' := by
    intro cs
    refine ⟨(cs.reverse.takeWhile (· == '0')).length, ?_⟩
    have ht : cs.reverse.takeWhile (· == '0') =
        List.replicate (cs.reverse.takeWhile (· == '0')).length '0' :=
      List.eq_replicate_iff.mpr ⟨rfl, fun c hc =>
        eq_of_beq (List.all_eq_true.mp List.all_takeWhile c hc)⟩
    have hr := congrArg List.reverse
      (List.takeWhile_append_dropWhile (p := (· == '0')) (l := cs.reverse))
    rw [ht, List.reverse_append, List.reverse_replicate, List.reverse_reverse] at hr
    exact hr.symm
  obtain ⟨k, hk⟩ := hz (Numeral.ofNat d.coefficient)
  refine ⟨k, hk, ?_⟩
  have hl := congrArg List.length hk
  rw [List.length_append, List.length_replicate] at hl
  rw [scientific]
  dsimp only
  rw [← hl]

theorem toBinary64_digits (d : Decimal) :
    toBinary64 ⟨Numeral.value d.scientific.1, d.scientific.2 - d.scientific.1.length + 1⟩ =
      d.toBinary64 := by
  obtain ⟨k, hd, hp⟩ := digits_scientific d
  have hv := congrArg Numeral.value hd
  rw [Numeral.value_ofNat, value_append_zeros] at hv
  have he : d.scientific.2 - d.scientific.1.length + 1 = d.exponent + k := by omega
  rw [he, ← toBinary64_zeros, ← hv]

theorem isDigit_of_mem_scientific {d : Decimal} {c : Char} (h : c ∈ d.scientific.1) :
    c.isDigit = true := by
  obtain ⟨k, hd, -⟩ := digits_scientific d
  exact Numeral.isDigit_of_mem_ofNat (hd ▸ List.mem_append_left _ h)

end QueryWire.Decimal

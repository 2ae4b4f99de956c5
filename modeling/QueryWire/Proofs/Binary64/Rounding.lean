/-
  Rounding to the nearest number, as a function of the ratio alone.

  `placeOf` finds the last place of a ratio by comparing bit lengths; it is the
  only place at which the significand has 53 bits, or the lowest one for
  smaller ratios (`placeOf_eq`).  So numerator and denominator may be multiplied
  by a common factor (`round_mul`), and the ratio of a number's own units is
  rounded to this number (`round_units`).
-/
import QueryWire.Binary64

namespace QueryWire

/-! ## Powers -/

theorem natPow_pos {b : Nat} (hb : 0 < b) (n : Nat) : 0 < Nat.pow b n :=
  Nat.pow_pos hb

theorem natPow_add (b m n : Nat) : Nat.pow b (m + n) = Nat.pow b m * Nat.pow b n :=
  Nat.pow_add b m n

theorem natPow_le {b m n : Nat} (hb : 0 < b) (h : m ≤ n) : Nat.pow b m ≤ Nat.pow b n :=
  Nat.pow_le_pow_right hb h

namespace Binary64

/-! ## The last place -/

section

variable {a d p q : Nat}

/-- At `p` the significand of `a / d` has 53 bits, or fewer if `p` is the lowest place. -/
def HasPlace (a d p : Nat) : Prop :=
  a < d * Nat.pow 2 (p + 53) ∧ (p = 0 ∨ d * Nat.pow 2 (p + 52) ≤ a)

theorem HasPlace.unique (hp : HasPlace a d p) (hq : HasPlace a d q) : p = q := by
  have hn : ∀ {p q}, HasPlace a d p → HasPlace a d q → ¬ p < q := by
    intro p q hp hq hlt
    have hle : d * Nat.pow 2 (p + 53) ≤ d * Nat.pow 2 (q + 52) :=
      Nat.mul_le_mul_left d (natPow_le Nat.two_pos (by omega))
    have := hp.1
    rcases hq.2 with hz | hq
    · omega
    · omega
  have h1 := hn hp hq
  have h2 := hn hq hp
  omega

theorem hasPlace_placeOf (hd : 0 < d) : HasPlace a d (placeOf a d) := by
  have hdl : Nat.pow 2 d.log2 ≤ d := Nat.log2_self_le (by omega)
  have hdu : d < Nat.pow 2 (d.log2 + 1) := Nat.lt_log2_self
  have hau : a < Nat.pow 2 (a.log2 + 1) := Nat.lt_log2_self
  -- the bound from above holds at the difference of the bit lengths already
  have hup : ∀ p, a.log2 ≤ d.log2 + 52 + p → a < d * Nat.pow 2 (p + 53) := by
    intro p hp
    calc a < Nat.pow 2 (a.log2 + 1) := hau
      _ ≤ Nat.pow 2 (d.log2 + (p + 53)) := natPow_le Nat.two_pos (by omega)
      _ = Nat.pow 2 d.log2 * Nat.pow 2 (p + 53) := natPow_add _ _ _
      _ ≤ d * Nat.pow 2 (p + 53) := Nat.mul_le_mul_right _ hdl
  unfold placeOf
  dsimp only
  split
  · rename_i h
    obtain ⟨hp, hlt⟩ := h
    refine ⟨?_, Or.inr ?_⟩
    · have : a.log2 - (d.log2 + 52) - 1 + 53 = a.log2 - (d.log2 + 52) + 52 := by omega
      rw [this]
      exact hlt
    · have ha : a ≠ 0 := by
        rintro rfl
        rw [Nat.log2_zero] at hp
        omega
      have hal : Nat.pow 2 a.log2 ≤ a := Nat.log2_self_le ha
      have hle : d * Nat.pow 2 (a.log2 - (d.log2 + 52) - 1 + 52) ≤
          Nat.pow 2 (d.log2 + 1) * Nat.pow 2 (a.log2 - (d.log2 + 52) - 1 + 52) :=
        Nat.mul_le_mul_right _ (Nat.le_of_lt hdu)
      rw [← natPow_add] at hle
      have : d.log2 + 1 + (a.log2 - (d.log2 + 52) - 1 + 52) = a.log2 := by omega
      rw [this] at hle
      omega
  · rename_i h
    refine ⟨hup _ (by omega), ?_⟩
    by_cases hp : a.log2 - (d.log2 + 52) = 0
    · exact Or.inl hp
    · exact Or.inr (Nat.le_of_not_lt fun hlt => h ⟨hp, hlt⟩)

theorem placeOf_eq (hd : 0 < d) (h : HasPlace a d p) : placeOf a d = p :=
  (hasPlace_placeOf hd).unique h

end

/-! ## Common factors -/

section

variable {k : Nat} (hk : 0 < k)

include hk

theorem hasPlace_mul {a d p : Nat} (h : HasPlace a d p) : HasPlace (a * k) (d * k) p := by
  have hm : ∀ n, d * k * n = d * n * k := by
    intro n
    rw [Nat.mul_assoc, Nat.mul_comm k, ← Nat.mul_assoc]
  unfold HasPlace
  rw [hm, hm]
  refine ⟨Nat.mul_lt_mul_of_pos_right h.1 hk, h.2.imp_right fun hle => ?_⟩
  exact Nat.mul_le_mul_right k hle

theorem placeOf_mul {d : Nat} (hd : 0 < d) (a : Nat) :
    placeOf (a * k) (d * k) = placeOf a d :=
  placeOf_eq (Nat.mul_pos hd hk) (hasPlace_mul hk (hasPlace_placeOf hd))

theorem nearestQuotient_mul (a d : Nat) :
    nearestQuotient (a * k) (d * k) = nearestQuotient a d := by
  have hlt : ∀ m n, m * k < n * k ↔ m < n := fun m n => Nat.mul_lt_mul_right hk
  unfold nearestQuotient
  rw [Nat.mul_div_mul_right _ _ hk, Nat.mul_mod_mul_right]
  dsimp only
  rw [← Nat.mul_assoc]
  simp only [hlt]

theorem roundMagnitude_mul {d : Nat} (hd : 0 < d) (a : Nat) :
    roundMagnitude (a * k) (d * k) = roundMagnitude a d := by
  unfold roundMagnitude
  have hm : ∀ n, d * k * n = d * n * k := by
    intro n
    rw [Nat.mul_assoc, Nat.mul_comm k, ← Nat.mul_assoc]
  rw [placeOf_mul hk hd]
  dsimp only
  rw [hm, nearestQuotient_mul hk]

/-- Rounding looks at the ratio only. -/
theorem round_mul {d : Nat} (hd : 0 < d) (negative : Bool) (a : Nat) :
    round negative (a * k) (d * k) = round negative a d := by
  unfold round
  rw [roundMagnitude_mul hk hd]

theorem ofRatio_mul {d : Nat} (hd : 0 < d) (negative : Bool) (a : Nat) :
    ofRatio negative (a * k) (d * k) = ofRatio negative a d := by
  unfold ofRatio
  rw [Nat.mul_assoc, Nat.mul_comm k, ← Nat.mul_assoc, round_mul hk hd]

end

/-! ## Numbers are their own nearest numbers -/

section

variable {x : Binary64}

theorem word_lt (x : Binary64) : x.word < 2 * signBit :=
  x.bits.toNat_lt

theorem exponentField_of_nonneg (h : x.isNegative = false) :
    x.exponentField = x.word / hiddenBit := by
  have hw : x.word < signBit := by
    have := of_decide_eq_false h
    omega
  unfold exponentField
  unfold signBit at hw
  unfold hiddenBit
  omega

theorem significand_lt (x : Binary64) : x.significand < 2 * hiddenBit := by
  have hf : x.fractionField < hiddenBit := Nat.mod_lt _ (by decide)
  unfold significand
  split <;> omega

theorem hasPlace_units (x : Binary64) : HasPlace x.units 1 x.unitExponent := by
  have hs := significand_lt x
  have hb : 2 * hiddenBit = Nat.pow 2 53 := rfl
  have hc : hiddenBit = Nat.pow 2 52 := rfl
  unfold HasPlace units
  rw [Nat.one_mul, Nat.one_mul, Nat.add_comm _ 53, Nat.add_comm _ 52, natPow_add, natPow_add,
    ← hb, ← hc]
  refine ⟨Nat.mul_lt_mul_of_pos_right hs (natPow_pos Nat.two_pos _), ?_⟩
  by_cases he : x.exponentField = 0
  · exact Or.inl (by rw [unitExponent, he])
  · refine Or.inr (Nat.mul_le_mul_right _ ?_)
    rw [significand, if_neg he]
    exact Nat.le_add_right _ _

theorem nearestQuotient_exact {m d : Nat} (hd : 0 < d) : nearestQuotient (m * d) d = m := by
  unfold nearestQuotient
  rw [Nat.mul_div_cancel _ hd, Nat.mul_mod_left]
  exact if_pos (by omega)

theorem ofFields_significand (h : x.isNegative = false) :
    ofFields false x.significand x.unitExponent = x := by
  have he := exponentField_of_nonneg h
  have hdm : hiddenBit * (x.word / hiddenBit) + x.fractionField = x.word :=
    Nat.div_add_mod x.word hiddenBit
  have hf : x.fractionField < hiddenBit := Nat.mod_lt _ (by decide)
  have hw : (if x.significand < hiddenBit then x.significand
      else (x.unitExponent + 1) * hiddenBit + (x.significand - hiddenBit)) = x.word := by
    rw [← he, Nat.mul_comm] at hdm
    unfold significand unitExponent
    by_cases hz : x.exponentField = 0
    · rw [hz, Nat.zero_mul, Nat.zero_add] at hdm
      rw [if_pos hz, if_pos hf, hdm]
    · rw [if_neg hz, if_neg (by omega), Nat.sub_add_cancel (by omega), Nat.add_sub_cancel_left,
        hdm]
  unfold ofFields
  rw [hw, if_neg (by decide), Nat.zero_add]
  show Binary64.mk (UInt64.ofNat x.bits.toNat) = x
  rw [UInt64.ofNat_toNat]

theorem round_of_place {a d m p : Nat} (hp : placeOf a d = p)
    (hq : nearestQuotient a (d * Nat.pow 2 p) = m) (hm : m < 2 * hiddenBit) (hl : p ≤ 2045) :
    round false a d = ofFields false m p := by
  have hr : roundMagnitude a d = some (m, p) := by
    unfold roundMagnitude
    dsimp only
    rw [hp, hq, if_neg (Nat.ne_of_lt hm)]
    exact if_pos hl
  unfold round
  rw [hr]

theorem round_zero {d : Nat} (hd : 0 < d) : round false 0 d = zero false := by
  have hp : placeOf 0 d = 0 :=
    placeOf_eq hd ⟨Nat.mul_pos hd (natPow_pos Nat.two_pos _), Or.inl rfl⟩
  have hq := nearestQuotient_exact (m := 0) (Nat.mul_pos hd (natPow_pos Nat.two_pos 0))
  rw [Nat.zero_mul] at hq
  exact round_of_place hp hq (by decide) (by decide)

/-- The ratio of the units of a number is rounded to this number. -/
theorem round_units {k : Nat} (hk : 0 < k) (hf : x.isFinite = true)
    (hn : x.isNegative = false) : round false (x.units * k) k = x := by
  have hp : placeOf x.units 1 = x.unitExponent := placeOf_eq (by decide) (hasPlace_units x)
  have hq : nearestQuotient x.units (1 * Nat.pow 2 x.unitExponent) = x.significand := by
    rw [Nat.one_mul (Nat.pow 2 x.unitExponent)]
    exact nearestQuotient_exact (natPow_pos Nat.two_pos _)
  have he : x.unitExponent ≤ 2045 := by
    have hne : x.exponentField ≠ 2047 := by simpa [isFinite] using hf
    have hlt : x.exponentField < 2048 := Nat.mod_lt _ (by decide)
    unfold unitExponent
    omega
  calc round false (x.units * k) k
      = round false (x.units * k) (1 * k) := by rw [Nat.one_mul k]
    _ = round false x.units 1 := round_mul hk (by decide) false x.units
    _ = ofFields false x.significand x.unitExponent :=
        round_of_place hp hq (significand_lt x) he
    _ = x := ofFields_significand hn

end

/-! ## Sign and magnitude -/

section

variable {x y : Binary64}

theorem magnitude_word (x : Binary64) : x.magnitude.word = x.word % signBit := by
  have hlt : x.word % signBit < signBit := Nat.mod_lt _ (by decide)
  show (UInt64.ofNat (x.word % signBit)).toNat = _
  exact UInt64.toNat_ofNat_of_lt' (Nat.lt_trans hlt (by decide))

theorem isNegative_magnitude (x : Binary64) : x.magnitude.isNegative = false := by
  have hlt : x.word % signBit < signBit := Nat.mod_lt _ (by decide)
  unfold isNegative
  rw [magnitude_word]
  exact decide_eq_false (by omega)

theorem isFinite_magnitude (h : x.isFinite = true) : x.magnitude.isFinite = true := by
  have he : x.magnitude.exponentField = x.exponentField := by
    unfold exponentField
    rw [magnitude_word]
    unfold signBit hiddenBit
    omega
  unfold isFinite
  rw [he]
  exact h

theorem magnitude_eq_zero (x : Binary64) : x.magnitude = zero false ↔ x.isZero = true := by
  unfold isZero
  constructor
  · intro h
    have hw := congrArg word h
    rw [magnitude_word] at hw
    exact beq_iff_eq.mpr hw
  · intro h
    unfold magnitude
    rw [eq_of_beq h]
    rfl

theorem eq_of_magnitude (hs : x.isNegative = y.isNegative) (hm : x.magnitude = y.magnitude) :
    x = y := by
  have hw := congrArg word hm
  rw [magnitude_word, magnitude_word] at hw
  have hx := word_lt x
  have hy := word_lt y
  have hn : signBit ≤ x.word ↔ signBit ≤ y.word := decide_eq_decide.mp hs
  have he : x.word = y.word := by
    unfold signBit at *
    omega
  obtain ⟨a⟩ := x
  obtain ⟨b⟩ := y
  exact congrArg Binary64.mk (UInt64.toNat_inj.mp he)

end

end Binary64

end QueryWire

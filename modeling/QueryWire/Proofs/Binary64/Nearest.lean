/-
  Rounding yields the nearest number, a tie the even one.

  A ratio `a / d` lies between two neighbouring multiples of its last place,
  and `nearestQuotient` takes the nearer one (`nearestQuotient_le`).  Every
  finite number whose own last place is not below is such a multiple; every
  other one is smaller than the least significand of 53 bits at this place
  (`exists_multiple`), which is a multiple, too.  So no finite number is nearer
  than the rounded one (`isNearest_round`).  Integers of 64 bits are far below
  the largest finite number (`isNearest_ofNat`).
-/
import QueryWire.Proofs.Binary64.Rounding

namespace QueryWire.Binary64

/-- How far the number is from `a / d` units, counted in `1 / d` units. -/
def distance (x : Binary64) (a d : Nat) : Nat :=
  (x.scaled * d - a).natAbs

/-- A finite number, none nearer to `a / d` units; between two numbers the one
    with the even significand. -/
structure IsNearest (x : Binary64) (a d : Nat) : Prop where
  finite : x.isFinite = true
  le : ∀ y : Binary64, y.isFinite = true → x.distance a d ≤ y.distance a d
  even : ∀ y : Binary64, y.isFinite = true → y.distance a d = x.distance a d →
    y.scaled = x.scaled ∨ x.significand % 2 = 0

/-! ## The nearest multiple -/

/-- How far `k` times the step is from `a`. -/
def gap (a step k : Nat) : Nat :=
  ((k * step : Nat) - a : Int).natAbs

theorem nearestQuotient_cases (a step : Nat) :
    (nearestQuotient a step = a / step ∧ 2 * (a % step) < step) ∨
    (nearestQuotient a step = a / step + 1 ∧ step < 2 * (a % step)) ∨
    (2 * (a % step) = step ∧ nearestQuotient a step % 2 = 0 ∧
      (nearestQuotient a step = a / step ∨ nearestQuotient a step = a / step + 1)) := by
  unfold nearestQuotient
  dsimp only
  split
  · omega
  · split
    · omega
    · split <;> omega

section

variable {step : Nat} (hs : 0 < step) (a : Nat)

theorem gap_div : gap a step (a / step) = a % step := by
  have ha : a / step * step + a % step = a := Nat.div_add_mod' a step
  unfold gap
  omega

include hs

theorem gap_div_succ : gap a step (a / step + 1) = step - a % step := by
  have hr : a % step < step := Nat.mod_lt _ hs
  have ha : a / step * step + a % step = a := Nat.div_add_mod' a step
  unfold gap
  rw [Nat.succ_mul]
  omega

/-- All multiples but the two neighbours of `a` are at least one step away. -/
theorem le_gap {k : Nat} (hk : k ≠ a / step) (hk' : k ≠ a / step + 1) : step ≤ gap a step k := by
  have hr : a % step < step := Nat.mod_lt _ hs
  have ha : a / step * step + a % step = a := Nat.div_add_mod' a step
  unfold gap
  rcases Nat.lt_or_gt_of_ne hk with hlt | hgt
  · have hle : (k + 1) * step ≤ a / step * step := Nat.mul_le_mul_right step hlt
    rw [Nat.succ_mul] at hle
    omega
  · have hle : (a / step + 2) * step ≤ k * step := Nat.mul_le_mul_right step (by omega)
    have htwo : (a / step + 2) * step = a / step * step + step + step := by
      rw [Nat.add_mul, Nat.two_mul, Nat.add_assoc]
    omega

/-- No multiple is nearer, and one as near can only be the other of two
    neighbours. -/
theorem nearestQuotient_le (k : Nat) :
    gap a step (nearestQuotient a step) ≤ gap a step k ∧
      (gap a step k = gap a step (nearestQuotient a step) →
        k = nearestQuotient a step ∨ nearestQuotient a step % 2 = 0) := by
  have hr : a % step < step := Nat.mod_lt _ hs
  have hd : gap a step (a / step) = a % step := gap_div a
  have hd' := gap_div_succ hs a
  have hk : k = a / step ∨ k = a / step + 1 ∨ step ≤ gap a step k := by
    by_cases h : k = a / step
    · exact Or.inl h
    · by_cases h' : k = a / step + 1
      · exact Or.inr (Or.inl h')
      · exact Or.inr (Or.inr (le_gap hs a h h'))
  rcases nearestQuotient_cases a step with ⟨hm, h⟩ | ⟨hm, h⟩ | ⟨h, he, hm | hm⟩
  all_goals
    rw [hm]
    rcases hk with rfl | rfl | hk <;> omega

end

/-! ## Numbers from their fields -/

theorem fields_of_word {x : Binary64} {e f : Nat} (he : e < 2047) (hf : f < hiddenBit)
    (hw : x.word = e * hiddenBit + f) :
    x.exponentField = e ∧ x.fractionField = f ∧ x.isNegative = false := by
  have hd : (e * hiddenBit + f) / hiddenBit = e := by
    rw [Nat.mul_comm, Nat.mul_add_div (by decide), Nat.div_eq_of_lt hf, Nat.add_zero]
  have hm : (e * hiddenBit + f) % hiddenBit = f := by
    rw [Nat.mul_comm, Nat.mul_add_mod, Nat.mod_eq_of_lt hf]
  unfold exponentField fractionField isNegative
  rw [hw, hd, hm]
  refine ⟨Nat.mod_eq_of_lt (by omega), rfl, decide_eq_false ?_⟩
  unfold hiddenBit signBit at *
  omega

section

variable {m p : Nat} (hm : m < 2 * hiddenBit) (hp : p ≤ 2045) (hl : m < hiddenBit → p = 0)

include hm hp

theorem word_ofFields : (ofFields false m p).word =
    if m < hiddenBit then m else (p + 1) * hiddenBit + (m - hiddenBit) := by
  unfold ofFields
  rw [if_neg (by decide), Nat.zero_add]
  refine UInt64.toNat_ofNat_of_lt' ?_
  unfold hiddenBit at *
  split <;> simp only [UInt64.size] <;> omega

include hl

/-- A number has the fields that it is made of, if only the lowest place takes
    a significand without the hidden bit. -/
theorem ofFields_spec :
    (ofFields false m p).isFinite = true ∧ (ofFields false m p).isNegative = false ∧
    (ofFields false m p).significand = m ∧ (ofFields false m p).unitExponent = p := by
  have hw := word_ofFields hm hp
  by_cases h : m < hiddenBit
  · rw [if_pos h] at hw
    have hz : (ofFields false m p).word = 0 * hiddenBit + m := by
      rw [hw, Nat.zero_mul, Nat.zero_add]
    obtain ⟨he, hf, hn⟩ := fields_of_word (by decide) h hz
    refine ⟨?_, hn, ?_, ?_⟩
    · rw [isFinite, he]
      rfl
    · rw [significand, if_pos he, hf]
    · rw [unitExponent, he, hl h]
  · rw [if_neg h] at hw
    obtain ⟨he, hf, hn⟩ := fields_of_word (by omega) (by omega) hw
    refine ⟨?_, hn, ?_, ?_⟩
    · rw [isFinite, he]
      exact bne_iff_ne.mpr (by omega)
    · rw [significand, if_neg (by omega), hf]
      omega
    · rw [unitExponent, he, Nat.add_sub_cancel]

end

/-! ## Rounding -/

/-- The significand nearest to `a / d` units at the place `p`. -/
def significandAt (a d p : Nat) : Nat :=
  nearestQuotient a (d * Nat.pow 2 p)

/-- How far the significand `k` at the place `p` is from `a / d` units, counted in
    `1 / d` units. -/
def gapAt (a d p k : Nat) : Nat :=
  gap a (d * Nat.pow 2 p) k

theorem mul_natPow_add (d p n : Nat) :
    d * Nat.pow 2 (p + n) = Nat.pow 2 n * (d * Nat.pow 2 p) := by
  rw [natPow_add, Nat.mul_left_comm (Nat.pow 2 n), Nat.mul_comm (Nat.pow 2 n)]

/-- A finite number is, but for its sign, a multiple of the last place of
    `a / d`, or below the least significand of 53 bits at this place. -/
theorem exists_multiple (x : Binary64) {a d p : Nat} (hp : HasPlace a d p) :
    (∃ k, x.units = k * Nat.pow 2 p) ∨
      (x.units < Nat.pow 2 (p + 52) ∧ d * Nat.pow 2 (p + 52) ≤ a) := by
  by_cases he : p ≤ x.unitExponent
  · refine Or.inl ⟨x.significand * Nat.pow 2 (x.unitExponent - p), ?_⟩
    rw [units, Nat.mul_assoc, ← natPow_add, Nat.sub_add_cancel he]
  · refine Or.inr ⟨?_, hp.2.resolve_left (by omega)⟩
    have hu := (hasPlace_units x).1
    rw [Nat.one_mul] at hu
    exact Nat.lt_of_lt_of_le hu (natPow_le Nat.two_pos (by omega))

theorem scaled_of_nonneg {x : Binary64} (h : x.isNegative = false) : x.scaled = x.units := by
  rw [scaled, h]
  rfl

/-- A sign only moves a number away from `a / d`. -/
theorem distance_of_isNegative {x : Binary64} (h : x.isNegative = true) (a d : Nat) :
    x.distance a d = x.units * d + a := by
  rw [distance, scaled, if_pos h, Int.neg_mul]
  have := Int.natCast_mul x.units d
  omega

theorem distance_of_units {x : Binary64} (h : x.isNegative = false) {d k p : Nat}
    (hu : x.units = k * Nat.pow 2 p) (a : Nat) : x.distance a d = gapAt a d p k := by
  rw [distance, scaled_of_nonneg h, hu, gapAt, gap, Nat.mul_left_comm k d, Nat.mul_comm d]
  rfl

section

variable {a d p : Nat} (hd : 0 < d)

include hd

theorem gapAt_significandAt_le (k : Nat) :
    gapAt a d p (significandAt a d p) ≤ gapAt a d p k ∧
      (gapAt a d p k = gapAt a d p (significandAt a d p) →
        k = significandAt a d p ∨ significandAt a d p % 2 = 0) :=
  nearestQuotient_le (Nat.mul_pos hd (natPow_pos Nat.two_pos p)) a k

variable (hp : HasPlace a d p)

include hp

/-- The nearest significand at the last place is at least as near as any number
    without a sign; only another significand there can be as near. -/
theorem gapAt_le_distance_of_nonneg {y : Binary64} (hy : y.isNegative = false) :
    gapAt a d p (significandAt a d p) ≤ y.distance a d ∧
      (y.distance a d = gapAt a d p (significandAt a d p) →
        y.units = significandAt a d p * Nat.pow 2 p ∨ significandAt a d p % 2 = 0) := by
  rcases exists_multiple y hp with ⟨k, hk⟩ | ⟨hlt, hle⟩
  · rw [distance_of_units hy hk]
    obtain ⟨hn, he⟩ := gapAt_significandAt_le (p := p) (a := a) hd k
    exact ⟨hn, fun h => (he h).imp_left fun hm => by rw [hk, hm]⟩
  · -- the least significand of 53 bits is nearer than anything below
    have hlt' : y.units * d < d * Nat.pow 2 (p + 52) := by
      rw [Nat.mul_comm]
      exact Nat.mul_lt_mul_of_pos_left hlt hd
    have hg : gapAt a d p (Nat.pow 2 52) = a - d * Nat.pow 2 (p + 52) := by
      rw [gapAt, gap, ← mul_natPow_add]
      omega
    have hy' : y.distance a d = a - y.units * d := by
      have := Int.natCast_mul y.units d
      rw [distance, scaled_of_nonneg hy]
      omega
    have hn := (gapAt_significandAt_le (a := a) (p := p) hd (Nat.pow 2 52)).1
    rw [hg] at hn
    rw [hy']
    exact ⟨by omega, fun h => by omega⟩

/-- The same of all numbers: a sign moves a number beyond zero. -/
theorem gapAt_le_distance (y : Binary64) :
    gapAt a d p (significandAt a d p) ≤ y.distance a d ∧
      (y.distance a d = gapAt a d p (significandAt a d p) →
        y.scaled = (significandAt a d p * Nat.pow 2 p : Nat) ∨ significandAt a d p % 2 = 0) := by
  cases hy : y.isNegative with
  | false =>
    obtain ⟨hn, he⟩ := gapAt_le_distance_of_nonneg hd hp hy
    exact ⟨hn, fun h => (he h).imp_left fun hu => by rw [scaled_of_nonneg hy, hu]⟩
  | true =>
    obtain ⟨hn, he⟩ := gapAt_significandAt_le (a := a) (p := p) hd 0
    have hz : gapAt a d p 0 = a := by
      rw [gapAt, gap, Nat.zero_mul]
      omega
    rw [hz] at hn he
    rw [distance_of_isNegative hy]
    refine ⟨by omega, fun h => (he (by omega)).imp_left fun hm => ?_⟩
    have hu : y.units * d = 0 := by omega
    have hu' : y.units = 0 := (Nat.mul_eq_zero.mp hu).resolve_right (by omega)
    rw [scaled, if_pos hy, hu', ← hm, Nat.zero_mul]
    rfl

theorem isNearest_of_units {x : Binary64} (hf : x.isFinite = true) (hn : x.isNegative = false)
    (hu : x.units = significandAt a d p * Nat.pow 2 p)
    (he : significandAt a d p % 2 = 0 → x.significand % 2 = 0) : x.IsNearest a d := by
  have hx : x.distance a d = gapAt a d p (significandAt a d p) := distance_of_units hn hu a
  refine ⟨hf, fun y _ => ?_, fun y _ h => ?_⟩
  · rw [hx]
    exact (gapAt_le_distance hd hp y).1
  · rw [hx] at h
    rw [scaled_of_nonneg hn, hu]
    exact ((gapAt_le_distance hd hp y).2 h).imp_right he

/-- The nearest significand has at most 53 bits before a carry, and fewer only at
    the lowest place. -/
theorem significandAt_bounds :
    significandAt a d p ≤ 2 * hiddenBit ∧ (significandAt a d p < hiddenBit → p = 0) := by
  have hs : 0 < d * Nat.pow 2 p := Nat.mul_pos hd (natPow_pos Nat.two_pos p)
  have hb : 2 * hiddenBit = Nat.pow 2 53 := rfl
  have hc : hiddenBit = Nat.pow 2 52 := rfl
  obtain ⟨hlt, hle⟩ := hp
  have hq : a / (d * Nat.pow 2 p) < 2 * hiddenBit := by
    rw [hb, Nat.div_lt_iff_lt_mul hs, ← mul_natPow_add]
    exact hlt
  have hm := nearestQuotient_cases a (d * Nat.pow 2 p)
  unfold significandAt
  refine ⟨by omega, fun h => hle.resolve_right fun hle => ?_⟩
  have hq' : hiddenBit ≤ a / (d * Nat.pow 2 p) := by
    rw [hc, Nat.le_div_iff_mul_le hs, ← mul_natPow_add]
    exact hle
  omega

end

theorem roundMagnitude_eq (a d : Nat) :
    roundMagnitude a d =
      if significandAt a d (placeOf a d) = 2 * hiddenBit then
        if placeOf a d + 1 ≤ 2045 then some (hiddenBit, placeOf a d + 1) else none
      else if placeOf a d ≤ 2045 then some (significandAt a d (placeOf a d), placeOf a d)
      else none := by
  unfold roundMagnitude significandAt
  dsimp only
  split <;> rfl

/-- A magnitude that is not rounded to infinity is rounded to the nearest number. -/
theorem isNearest_round {a d m p : Nat} (hd : 0 < d) (h : roundMagnitude a d = some (m, p)) :
    (round false a d).IsNearest a d := by
  have hplace := hasPlace_placeOf (a := a) hd
  obtain ⟨hle, hl⟩ := significandAt_bounds hd hplace
  have hr : round false a d = ofFields false m p := by
    unfold round
    rw [h]
  rw [hr]
  rw [roundMagnitude_eq] at h
  by_cases hc : significandAt a d (placeOf a d) = 2 * hiddenBit
  · -- the carry moves the one bit that is left by a place
    rw [if_pos hc] at h
    obtain ⟨hq, hmp⟩ := Option.ite_none_right_eq_some.mp h
    cases hmp
    obtain ⟨hf, hn, hs, he⟩ := ofFields_spec (m := hiddenBit) (by decide) hq (by omega)
    refine isNearest_of_units hd hplace hf hn ?_ fun _ => by rw [hs]; rfl
    rw [units, hs, he, hc, natPow_add, Nat.mul_comm 2, Nat.mul_assoc, Nat.mul_comm 2]
  · rw [if_neg hc] at h
    obtain ⟨hq, hmp⟩ := Option.ite_none_right_eq_some.mp h
    cases hmp
    obtain ⟨hf, hn, hs, he⟩ := ofFields_spec (by omega) hq hl
    exact isNearest_of_units hd hplace hf hn (by rw [units, hs, he]) fun hm => by rw [hs, hm]

/-- Only a last place beyond the highest one is rounded to infinity. -/
theorem exists_roundMagnitude {a d : Nat} (h : placeOf a d < 2045) :
    ∃ m p, roundMagnitude a d = some (m, p) := by
  rw [roundMagnitude_eq]
  split
  · exact ⟨_, _, if_pos h⟩
  · exact ⟨_, _, if_pos (Nat.le_of_lt h)⟩

theorem placeOf_le {a k : Nat} (h : a < Nat.pow 2 k) : placeOf a 1 ≤ k - 53 := by
  obtain ⟨-, hz | hle⟩ := hasPlace_placeOf (a := a) Nat.one_pos
  · omega
  · rw [Nat.one_mul] at hle
    refine Nat.le_of_not_lt fun hlt => ?_
    have hk : Nat.pow 2 k ≤ Nat.pow 2 (placeOf a 1 + 52) := natPow_le Nat.two_pos (by omega)
    omega

/-- The last place of a natural number of `k` bits. -/
theorem placeOf_natural_le {n k e : Nat} (hu : unitsOfOne = Nat.pow 2 e) (hn : n < Nat.pow 2 k) :
    placeOf (n * unitsOfOne) 1 ≤ k + e - 53 := by
  refine placeOf_le ?_
  rw [hu, natPow_add]
  exact Nat.mul_lt_mul_of_pos_right hn (natPow_pos Nat.two_pos e)

/-- A natural number of 64 bits is converted to the nearest number. -/
theorem isNearest_ofNat {n : Nat} (hn : n < Nat.pow 2 64) :
    (ofNat n).IsNearest (n * unitsOfOne) 1 := by
  have hp : placeOf (n * unitsOfOne) 1 ≤ 1085 := placeOf_natural_le unitsOfOne.eq_1 hn
  obtain ⟨m, p, hr⟩ := exists_roundMagnitude (Nat.lt_of_le_of_lt hp (by decide))
  unfold ofNat ofRatio
  exact isNearest_round Nat.one_pos hr

end QueryWire.Binary64

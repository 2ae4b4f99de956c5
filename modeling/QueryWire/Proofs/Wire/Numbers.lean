/-
  Numbers through both readers.

  A document has three classes of numbers, natural numbers, negative integers
  and floating point numbers, but a value has only two.  The lazy reader gives a
  double for a floating point number only; decoding also makes a double of a
  natural number that is no signed integer (`double?_toValue_of_large`).  On all
  other nodes the two agree about doubles (`double?_toValue_iff`).
-/
import QueryWire.Proofs.Wire.Coercions
import QueryWire.Proofs.Wire.Rewriting

namespace QueryWire

open Json (Node Number)

namespace LazyValue

variable {v : LazyValue}

theorem double?_toValue_of_not_large
    (h : ¬ ∃ n, v.node = .number (.natural n) ∧ Number.int64End ≤ n.toNat) :
    v.toValue.double? = v.double? := by
  obtain ⟨node, codec⟩ := v
  have hv := decodes_toValue ⟨node, codec⟩
  generalize (LazyValue.mk node codec).toValue = w at hv ⊢
  cases hv with
  | @integer n _ hi =>
    cases n with
    | natural n => rfl
    | negative n lt => rfl
    | float x finite => cases hi
  | @double n hi =>
    cases n with
    | natural n =>
      have hle : Number.int64End ≤ n.toNat := by
        rw [Number.int64?_natural] at hi
        simpa using hi
      exact absurd ⟨n, rfl, hle⟩ h
    | negative n lt => cases hi
    | float x finite => rfl
  | _ => rfl

theorem double?_toValue_of_large {n : UInt64} (hn : v.node = .number (.natural n))
    (hle : Number.int64End ≤ n.toNat) :
    v.double? = none ∧ v.toValue.double? = some (Binary64.ofNat n.toNat) := by
  have hi : (Number.natural n).int64? = none := by
    rw [Number.int64?_natural]
    exact if_neg (Nat.not_lt.mpr hle)
  obtain ⟨node, codec⟩ := v
  subst hn
  refine ⟨rfl, ?_⟩
  show (Number.natural n).toValue.double? = _
  rw [Number.toValue, hi]
  rfl

/-- Both readers see the same double, or both see none, exactly if the node is
    not a natural number beyond the signed integers; what the lazy reader takes
    for a double is one for the other in any case.  Of such a natural number the
    lazy reader makes no double, and decoding makes the nearest one. -/
theorem double?_toValue_iff (v : LazyValue) :
    (v.double? = v.toValue.double? ↔
      ¬ ∃ n, v.node = .number (.natural n) ∧ Number.int64End ≤ n.toNat) ∧
    (∀ x, v.double? = some x → v.toValue.double? = some x) ∧
    ∀ n, v.node = .number (.natural n) → Number.int64End ≤ n.toNat →
      v.double? = none ∧ ∃ x, v.toValue.double? = some x ∧
        x.IsNearest (n.toNat * Binary64.unitsOfOne) 1 := by
  refine ⟨⟨?_, ?_⟩, ?_, ?_⟩
  · rintro he ⟨n, hn, hle⟩
    obtain ⟨hl, hv⟩ := double?_toValue_of_large hn hle
    rw [hl, hv] at he
    cases he
  · intro h
    exact (double?_toValue_of_not_large h).symm
  · intro x hx
    have h : ¬ ∃ n, v.node = .number (.natural n) ∧ Number.int64End ≤ n.toNat := by
      rintro ⟨n, hn, hle⟩
      rw [(double?_toValue_of_large hn hle).1] at hx
      cases hx
    rw [double?_toValue_of_not_large h]
    exact hx
  · intro n hn hle
    obtain ⟨hl, hv⟩ := double?_toValue_of_large hn hle
    exact ⟨hl, _, hv, Binary64.isNearest_ofUInt64 n⟩

/-- The greatest natural number of 64 bits is a double for one reader only. -/
theorem double?_ne_toValue_double? :
    ¬ ∀ (codec : Codec) (text : String) (v : LazyValue) (path : List Step) (w : LazyValue),
      LazyValue.parse codec text = .ok v → v.follow? path = some w →
        w.double? = w.toValue.double? := by
  intro h
  have hp : LazyValue.parse ⟨true⟩ "18446744073709551615" =
      .ok ⟨.number (.natural 18446744073709551615), ⟨true⟩⟩ := rfl
  have he := h _ _ _ [] _ hp rfl
  obtain ⟨hl, hv⟩ :=
    @double?_toValue_of_large ⟨.number (.natural 18446744073709551615), ⟨true⟩⟩ _ rfl (by decide)
  rw [hl, hv] at he
  cases he

end LazyValue

end QueryWire

/-
  The instants that a clock shows.

  An instant may go on beyond any second, but a clock has a second 60 only at the
  end of a minute (`Instant.OnClock`).  Elsewhere the clock shows the next second
  of the same minute, and so another instant (`Instant.shown`).  Hours, minutes
  and seconds of an instant on the clock give the second of its day back, and a
  second 60 gives the nanoseconds beyond it (`Instant.clock?_eq`).
-/
import QueryWire.Calendar.InstantText
import QueryWire.Proofs.Calendar.Civil

namespace QueryWire.Calendar.Instant

variable (t : Instant)

/-- The nanoseconds stay within the second, or the second is the last one of a minute. -/
def OnClock : Prop :=
  t.nanos < nanosPerSecond ∨ t.seconds % 60 = 59

instance : Decidable t.OnClock :=
  inferInstanceAs (Decidable (_ ∨ _))

theorem isInstant_next (h : ¬ t.OnClock) :
    IsInstant (t.seconds + 1) (t.nanos - nanosPerSecond) := by
  obtain ⟨hl, hu, hn⟩ := t.valid
  unfold OnClock at h
  unfold secondsPerDay at hl hu
  refine ⟨?_, ?_, by omega⟩ <;> unfold secondsPerDay <;> omega

/-- The instant that a clock shows: nanoseconds beyond a second are carried to the
    next one, except at the end of a minute. -/
def shown : Instant :=
  if h : t.OnClock then t
  else ⟨t.seconds + 1, t.nanos - nanosPerSecond, t.isInstant_next h⟩

variable {t}

theorem shown_of_onClock (h : t.OnClock) : t.shown = t :=
  dif_pos h

theorem shown_of_not_onClock (h : ¬ t.OnClock) :
    t.shown = ⟨t.seconds + 1, t.nanos - nanosPerSecond, t.isInstant_next h⟩ :=
  dif_neg h

variable (t)

theorem onClock_shown : t.shown.OnClock := by
  by_cases h : t.OnClock
  · rwa [shown_of_onClock h]
  · have hn := t.valid.nanos_lt
    rw [shown_of_not_onClock h]
    left
    dsimp only
    omega

theorem shown_eq_self_iff : t.shown = t ↔ t.OnClock :=
  ⟨fun h => h ▸ t.onClock_shown, shown_of_onClock⟩

/-- A clock shows the right minute, and the rest of the minute to the nanosecond. -/
theorem shown_minute :
    t.shown.seconds / 60 = t.seconds / 60 ∧
      t.shown.seconds % 60 + (t.shown.nanos / nanosPerSecond : Nat) =
        t.seconds % 60 + (t.nanos / nanosPerSecond : Nat) ∧
      t.shown.nanos % nanosPerSecond = t.nanos % nanosPerSecond := by
  by_cases h : t.OnClock
  · rw [shown_of_onClock h]
    exact ⟨rfl, rfl, rfl⟩
  · have hn := t.valid.nanos_lt
    rw [shown_of_not_onClock h]
    unfold OnClock at h
    unfold nanosPerSecond at *
    dsimp only
    omega

theorem day_shown : t.shown.day = t.day := by
  have hm := t.shown_minute.1
  unfold day secondsPerDay
  omega

theorem year_shown : t.shown.year = t.year := by
  rw [year, year, day_shown]

/-! ## Hours, minutes and seconds -/

theorem clock_bounds :
    t.secondOfDay / 3600 < 24 ∧ t.secondOfDay / 60 % 60 < 60 ∧
      t.secondOfDay % 60 + t.nanos / nanosPerSecond ≤ 60 := by
  have hs := t.secondOfDay_lt
  have hn := t.valid.nanos_lt
  unfold secondsPerDay at hs
  unfold nanosPerSecond at hn ⊢
  omega

variable {t}

/-- Hours, minutes and seconds give the second of the day back, and a second 60
    the nanoseconds beyond it. -/
theorem clock?_eq (h : t.OnClock) :
    clock? (t.secondOfDay / 3600) (t.secondOfDay / 60 % 60)
        (t.secondOfDay % 60 + t.nanos / nanosPerSecond) =
      some (t.secondOfDay, t.nanos / nanosPerSecond * nanosPerSecond) := by
  obtain ⟨hh, hm, hs⟩ := t.clock_bounds
  have hn := t.valid.nanos_lt
  have hmod := t.secondOfDay_mod
  unfold OnClock at h
  unfold nanosPerSecond at hn h hs ⊢
  unfold clock?
  rw [if_pos ⟨by omega, by omega, hs⟩]
  by_cases h60 : t.secondOfDay % 60 + t.nanos / 1000000000 = 60
  · rw [if_pos h60]
    have h1 : (t.secondOfDay / 3600 * 60 + t.secondOfDay / 60 % 60) * 60 + 59 = t.secondOfDay := by
      omega
    have h2 : t.nanos / 1000000000 = 1 := by omega
    rw [h1, h2]
    rfl
  · rw [if_neg h60]
    have h0 : t.nanos / 1000000000 = 0 := by omega
    have h1 : (t.secondOfDay / 3600 * 60 + t.secondOfDay / 60 % 60) * 60 + t.secondOfDay % 60 =
        t.secondOfDay := by
      omega
    rw [h0, Nat.add_zero, h1, Nat.zero_mul]

end QueryWire.Calendar.Instant

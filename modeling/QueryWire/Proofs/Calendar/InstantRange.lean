/-
  Which instants a text can stand for.

  The reader takes years of four digits, and offsets of up to 23 hours and 59
  minutes to both sides.  The instant of a text is therefore on the clock and no
  farther than this from the years 0 to 9999 (`Instant.ofText?_eq_some`), and
  may well lie outside of them.  Conversely each instant on the clock that is
  not farther away has a text: one whose local time is moved into the years by
  the largest offset (`Instant.exists_text_iff`).
-/
import QueryWire.Proofs.Calendar.InstantText

namespace QueryWire.Calendar

/-- The seconds of the largest offset from UTC, 23 hours and 59 minutes. -/
def largestOffset : Nat := 86340

/-! ## What the parts of a text can be -/

section

variable {cs rest : List Char}

theorem exactDigits?_lt {n k : Nat} (h : exactDigits? n cs = some (k, rest)) : k < Nat.pow 10 n := by
  unfold exactDigits? at h
  dsimp only at h
  split at h
  · rename_i hr
    have hv := Text.Numeral.value_lt fun c hc => List.all_eq_true.mp hr.2 c hc
    rw [hr.1] at hv
    cases h
    exact hv
  · cases h

theorem fraction?_lt {nanos : Nat} (h : fraction? cs = some (nanos, rest)) :
    nanos < nanosPerSecond := by
  unfold fraction? at h
  split at h
  · rename_i digits
    dsimp only at h
    split at h
    · cases h
    · cases h
      have hd : ∀ c ∈ (digits.takeWhile Char.isDigit).take 9, c.isDigit = true := fun c hc =>
        List.all_eq_true.mp List.all_takeWhile c (List.mem_of_mem_take hc)
      have hl : ((digits.takeWhile Char.isDigit).take 9).length ≤ 9 := List.length_take_le _ _
      generalize (digits.takeWhile Char.isDigit).take 9 = kept at hd hl
      calc Text.Numeral.value kept * Nat.pow 10 (9 - kept.length)
        _ < Nat.pow 10 kept.length * Nat.pow 10 (9 - kept.length) :=
          Nat.mul_lt_mul_of_pos_right (Text.Numeral.value_lt hd) (Nat.pow_pos (by decide))
        _ = Nat.pow 10 (kept.length + (9 - kept.length)) := (Nat.pow_add _ _ _).symm
        _ = nanosPerSecond := by rw [Nat.add_sub_cancel' hl]; rfl
  · cases h
    decide

/-- An offset is a number of whole minutes. -/
theorem offsetTime?_bounds {offset : Int} (h : offsetTime? cs = some (offset, rest)) :
    0 ≤ offset ∧ offset ≤ largestOffset ∧ offset % 60 = 0 := by
  unfold offsetTime? at h
  obtain ⟨⟨hours, _⟩, -, h⟩ := Option.bind_eq_some_iff.mp h
  obtain ⟨_, -, h⟩ := Option.bind_eq_some_iff.mp h
  obtain ⟨⟨minutes, _⟩, -, h⟩ := Option.bind_eq_some_iff.mp h
  dsimp only at h
  split at h
  · cases h
    unfold largestOffset
    omega
  · cases h

theorem offset?_bounds {offset : Int} (h : offset? cs = some (offset, rest)) :
    (-largestOffset ≤ offset ∧ offset ≤ largestOffset) ∧ offset % 60 = 0 := by
  cases cs with
  | nil => cases h
  | cons c cs =>
    simp only [offset?] at h
    split at h
    · cases h
      exact ⟨⟨by decide, by decide⟩, rfl⟩
    split at h
    · have := offsetTime?_bounds h
      omega
    split at h
    · obtain ⟨⟨seconds, left⟩, ht, he⟩ := Option.map_eq_some_iff.mp h
      have := offsetTime?_bounds ht
      cases he
      omega
    · cases h

end

/-- Only a second 60 adds nanoseconds, and it adds them to the second before it. -/
theorem clock?_bounds {hour minute second secondOfDay leap : Nat}
    (h : clock? hour minute second = some (secondOfDay, leap)) :
    secondOfDay < secondsPerDay ∧
      (leap = 0 ∨ leap = nanosPerSecond ∧ secondOfDay % 60 = 59) := by
  unfold clock? at h
  unfold secondsPerDay
  split at h
  · split at h
    · cases h
      omega
    · cases h
      omega
  · cases h

theorem Date.year_of_ofParts? {year : Int} {month day : Nat} {date : Date}
    (h : Date.ofParts? year month day = some date) : date.year = year := by
  unfold Date.ofParts? at h
  split at h
  · cases h
    rfl
  · cases h

theorem Instant.parts_of_ofParts? {seconds : Int} {nanos : Nat} {t : Instant}
    (h : Instant.ofParts? seconds nanos = some t) : t.seconds = seconds ∧ t.nanos = nanos := by
  unfold Instant.ofParts? at h
  split at h
  · cases h
    exact ⟨rfl, rfl⟩
  · cases h

/-! ## What a text can be -/

/-- A text gives a date with a year of four digits, a second of this day, and an
    offset; the instant is earlier by the offset, and on the clock. -/
theorem Instant.ofText?_eq_some {text : String} {t : Instant}
    (h : Instant.ofText? text = some t) :
    ∃ (date : Date) (second : Nat) (offset : Int), (0 ≤ date.year ∧ date.year ≤ 9999) ∧
      second < secondsPerDay ∧ (-largestOffset ≤ offset ∧ offset ≤ largestOffset) ∧
      t.seconds =
        dayNumber date.year date.month date.day * secondsPerDay + second - offset ∧
      t.OnClock := by
  unfold Instant.ofText? Instant.ofChars? at h
  -- One step for each part; of most parts only that they are there is known.
  obtain ⟨⟨year, _⟩, hy, h⟩ := Option.bind_eq_some_iff.mp h
  obtain ⟨_, -, h⟩ := Option.bind_eq_some_iff.mp h
  obtain ⟨⟨month, _⟩, -, h⟩ := Option.bind_eq_some_iff.mp h
  obtain ⟨_, -, h⟩ := Option.bind_eq_some_iff.mp h
  obtain ⟨⟨day, _⟩, -, h⟩ := Option.bind_eq_some_iff.mp h
  obtain ⟨_, -, h⟩ := Option.bind_eq_some_iff.mp h
  obtain ⟨⟨hour, _⟩, -, h⟩ := Option.bind_eq_some_iff.mp h
  obtain ⟨_, -, h⟩ := Option.bind_eq_some_iff.mp h
  obtain ⟨⟨minute, _⟩, -, h⟩ := Option.bind_eq_some_iff.mp h
  obtain ⟨_, -, h⟩ := Option.bind_eq_some_iff.mp h
  obtain ⟨⟨second, _⟩, -, h⟩ := Option.bind_eq_some_iff.mp h
  obtain ⟨⟨nanos, _⟩, hf, h⟩ := Option.bind_eq_some_iff.mp h
  obtain ⟨⟨offset, left⟩, ho, h⟩ := Option.bind_eq_some_iff.mp h
  obtain ⟨⟨secondOfDay, leap⟩, hs, h⟩ := Option.bind_eq_some_iff.mp h
  obtain ⟨date, hd, h⟩ := Option.bind_eq_some_iff.mp h
  have hlt : year < 10000 := exactDigits?_lt hy
  have hdy := Date.year_of_ofParts? hd
  have hn := fraction?_lt hf
  obtain ⟨hs, hleap⟩ := clock?_bounds hs
  obtain ⟨ho, hminutes⟩ := offset?_bounds ho
  split at h
  · obtain ⟨hseconds, hnanos⟩ := Instant.parts_of_ofParts? h
    refine ⟨date, secondOfDay, offset, by omega, hs, ho, hseconds, ?_⟩
    unfold Instant.OnClock
    unfold secondsPerDay at hseconds
    unfold nanosPerSecond at *
    dsimp only at *
    omega
  · cases h

/-! ## Which instants have a text -/

theorem Instant.year_bounds_iff (t : Instant) (first last : Int) :
    (first ≤ t.year ∧ t.year ≤ last) ↔
      dayNumber first 1 1 * secondsPerDay ≤ t.seconds ∧
        t.seconds < dayNumber (last + 1) 1 1 * secondsPerDay := by
  have hl := t.le_year_iff first
  have hu := t.le_year_iff (last + 1)
  omega

/-- An instant that an offset moves into the years with four digits has a text
    with this offset. -/
theorem Instant.exists_text_of_offset {t : Instant} (hk : t.OnClock) {c : Char}
    {rest : List Char} {offset : Int} (hc : c.isDigit = false) (hp : c ≠ '.')
    (ho : offset? (c :: rest) = some (offset, []))
    (hl : dayNumber 0 1 1 * secondsPerDay ≤ t.seconds + offset)
    (hu : t.seconds + offset < dayNumber 10000 1 1 * secondsPerDay) :
    ∃ text, Instant.ofText? text = some t := by
  have h0 : dayNumber 0 1 1 = -719528 := rfl
  have h9 : dayNumber 10000 1 1 = 2932897 := rfl
  have hf : dayNumber firstYear 1 1 = -96465292 := rfl
  have he : dayNumber (lastYear + 1) 1 1 = 95026237 := rfl
  have hv : IsInstant (t.seconds + offset) t.nanos := by
    refine ⟨?_, ?_, t.valid.nanos_lt⟩
    · unfold secondsPerDay at *
      omega
    · unfold secondsPerDay at *
      omega
  have hlocal : (Instant.mk _ _ hv).OnClock := by
    have hm := (offset?_bounds ho).2
    unfold Instant.OnClock at hk ⊢
    dsimp only
    omega
  have hy := (Instant.year_bounds_iff ⟨_, _, hv⟩ 0 9999).mpr ⟨hl, hu⟩
  have hs : t.seconds + offset - offset = t.seconds := by omega
  refine ⟨String.ofList (Instant.zonedChars ⟨_, _, hv⟩ (c :: rest)), ?_⟩
  unfold Instant.ofText?
  rw [String.toList_ofList, Instant.ofChars?_zonedChars hlocal hy hc hp ho, hs]
  exact t.ofParts?_self

/-- The instants with a text are on the clock, and lie no farther than the largest
    offset from the years that have four digits. -/
theorem Instant.exists_text_iff (t : Instant) :
    (∃ text, Instant.ofText? text = some t) ↔
      t.OnClock ∧ dayNumber 0 1 1 * secondsPerDay - largestOffset ≤ t.seconds ∧
        t.seconds < dayNumber 10000 1 1 * secondsPerDay + largestOffset := by
  constructor
  · rintro ⟨text, h⟩
    obtain ⟨date, second, offset, hy, hs, ho, he, hk⟩ := Instant.ofText?_eq_some h
    obtain ⟨hl, hu⟩ := date.valid.dayNumber_bounds
    have h0 := daysBeforeYear_le hy.1
    have h9 : daysBeforeYear (date.year + 1) ≤ daysBeforeYear 10000 :=
      daysBeforeYear_le (Int.add_le_add_right hy.2 1)
    refine ⟨hk, ?_⟩
    rw [dayNumber_first] at hl hu ⊢
    rw [dayNumber_first]
    unfold secondsPerDay at *
    omega
  · rintro ⟨hk, hl, hu⟩
    have hd : dayNumber 0 1 1 = -719528 := rfl
    have he : dayNumber 10000 1 1 = 2932897 := rfl
    have hz : offset? ['Z'] = some (0, []) := rfl
    have hp : offset? ['+', '2', '3', ':', '5', '9'] = some (86340, []) := by decide
    have hm : offset? ['-', '2', '3', ':', '5', '9'] = some (-86340, []) := by decide
    unfold largestOffset at hl hu
    -- Within the years the text has `Z`, before them an offset to the east, after them
    -- one to the west.
    by_cases h0 : dayNumber 0 1 1 * secondsPerDay ≤ t.seconds
    · by_cases h9 : t.seconds < dayNumber 10000 1 1 * secondsPerDay
      · refine Instant.exists_text_of_offset hk rfl (by decide) hz ?_ ?_ <;> omega
      · refine Instant.exists_text_of_offset hk rfl (by decide) hm ?_ ?_ <;>
          unfold secondsPerDay at * <;> omega
    · refine Instant.exists_text_of_offset hk rfl (by decide) hp ?_ ?_ <;>
        unfold secondsPerDay at * <;> omega

/-- The last second of the year 9999 at an offset of one minute to the west lies in
    the year 10000. -/
example : (Instant.ofText? "9999-12-31T23:59:59-00:01").map (fun t => (t.year, t.text)) =
    some (10000, "+10000-01-01T00:00:59Z") := by decide +kernel

end QueryWire.Calendar

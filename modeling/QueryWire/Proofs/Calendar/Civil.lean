/-
  Day numbers and the dates they stand for.

  `civil n` is the date whose day number is `n` (`dayNumber_civil`), and it
  exists in the calendar as long as `n` lies within the calendar's years
  (`isDate_civil`).  The months are searched by a walk over their lengths, and
  `monthAndDay_spec` says where this walk stops.  The days of a year are those
  from its first day up to that of the next one (`le_civil_iff`,
  `IsDate.dayNumber_bounds`).
-/
import QueryWire.Calendar.Instant

namespace QueryWire.Calendar

/-! ## Years -/

theorem total_monthLengths (year : Int) :
    (monthLengths year).foldl (· + ·) 0 = if isLeapYear year then 366 else 365 := by
  unfold monthLengths
  cases isLeapYear year <;> rfl

theorem daysBeforeYear_succ (year : Int) :
    daysBeforeYear (year + 1) =
      daysBeforeYear year + ((monthLengths year).foldl (· + ·) 0 : Nat) := by
  rw [total_monthLengths]
  unfold isLeapYear daysBeforeYear
  by_cases h4 : year % 4 = 0
  · by_cases h100 : year % 100 = 0
    · by_cases h400 : year % 400 = 0
      · rw [if_pos (by simp [h4, h400])]
        omega
      · rw [if_neg (by simp [h100, h400])]
        omega
    · rw [if_pos (by simp [h4, h100])]
      omega
  · rw [if_neg (by simp [h4])]
    omega

theorem daysBeforeYear_lt {y z : Int} (h : y < z) : daysBeforeYear y < daysBeforeYear z := by
  unfold daysBeforeYear
  omega

theorem daysBeforeYear_le {y z : Int} (h : y ≤ z) : daysBeforeYear y ≤ daysBeforeYear z := by
  rcases Int.lt_or_eq_of_le h with h | rfl
  · exact Int.le_of_lt (daysBeforeYear_lt h)
  · exact Int.le_refl _

theorem length_monthLengths (year : Int) : (monthLengths year).length = 12 :=
  rfl

/-! ## Months -/

theorem foldl_add (start : Nat) (ns : List Nat) :
    ns.foldl (· + ·) start = start + ns.foldl (· + ·) 0 := by
  induction ns generalizing start with
  | nil => rfl
  | cons n rest ih =>
    rw [List.foldl_cons, List.foldl_cons, ih, ih (0 + n)]
    omega

/-- The walk stops in a month that has the day, `i` months after the first one. -/
theorem monthAndDay_spec (month : Nat) (lengths : List Nat) (n : Nat)
    (h : n < lengths.foldl (· + ·) 0) :
    ∃ i d, monthAndDay month lengths n = (month + i, d) ∧ i < lengths.length ∧
      1 ≤ d ∧ d ≤ lengths.getD i 0 ∧ n + 1 = (lengths.take i).foldl (· + ·) 0 + d := by
  induction lengths generalizing month n with
  | nil => simp at h
  | cons length rest ih =>
    unfold monthAndDay
    by_cases hn : n < length
    · rw [if_pos hn]
      refine ⟨0, n + 1, rfl, ?_, ?_, ?_, ?_⟩
      · simp
      · omega
      · exact hn
      · simp
    · rw [if_neg hn]
      rw [List.foldl_cons, foldl_add] at h
      obtain ⟨i, d, he, hi, h1, hd, hs⟩ := ih (month + 1) (n - length) (by omega)
      refine ⟨i + 1, d, ?_, ?_, h1, ?_, ?_⟩
      · rw [he, Nat.add_assoc, Nat.add_comm 1 i]
      · simpa using hi
      · simpa using hd
      · rw [List.take_succ_cons, List.foldl_cons, foldl_add]
        omega

/-- The days up to the end of a month are no more than those of the year. -/
theorem take_add_getD_le (ns : List Nat) (i : Nat) :
    (ns.take i).foldl (· + ·) 0 + ns.getD i 0 ≤ ns.foldl (· + ·) 0 := by
  induction ns generalizing i with
  | nil => simp
  | cons n rest ih =>
    rw [List.foldl_cons, foldl_add (0 + n)]
    cases i with
    | zero => simp
    | succ i =>
      have := ih i
      rw [List.take_succ_cons, List.foldl_cons, foldl_add (0 + n), List.getD_cons_succ]
      omega

/-! ## Dates -/

theorem dayNumber_first (year : Int) : dayNumber year 1 1 = daysBeforeYear year - epochDay := by
  unfold dayNumber daysBeforeMonth
  simp

/-- The days of a year come before the first day of the next one. -/
theorem IsDate.dayNumber_bounds {year : Int} {month day : Nat} (h : IsDate year month day) :
    dayNumber year 1 1 ≤ dayNumber year month day ∧
      dayNumber year month day < dayNumber (year + 1) 1 1 := by
  have hd := h.day_bounds
  have ht := take_add_getD_le (monthLengths year) (month - 1)
  have hs := daysBeforeYear_succ year
  rw [dayNumber_first, dayNumber_first]
  unfold dayNumber daysBeforeMonth
  omega

/-- Year, month and day of a day number, with all that the search for them guarantees. -/
theorem civil_spec (n : Int) :
    ∃ year month day, civil n = (year, month, day) ∧
      daysBeforeYear year ≤ n + epochDay ∧ n + epochDay < daysBeforeYear (year + 1) ∧
      (1 ≤ month ∧ month ≤ 12) ∧ (1 ≤ day ∧ day ≤ (monthLengths year).getD (month - 1) 0) ∧
      dayNumber year month day = n := by
  obtain ⟨hl, hu⟩ := yearOfDay_bounds (n + epochDay)
  unfold civil
  dsimp only
  generalize yearOfDay (n + epochDay) = year at hl hu ⊢
  have hs := daysBeforeYear_succ year
  have hd : ((n + epochDay - daysBeforeYear year).toNat : Int) =
      n + epochDay - daysBeforeYear year :=
    Int.toNat_of_nonneg (by omega)
  obtain ⟨i, d, he, hi, h1, hle, hn⟩ :=
    monthAndDay_spec 1 (monthLengths year) (n + epochDay - daysBeforeYear year).toNat (by omega)
  have hm : 1 + i - 1 = i := by omega
  rw [length_monthLengths] at hi
  refine ⟨year, 1 + i, d, by rw [he], hl, hu, ?_, ?_, ?_⟩
  · omega
  · rw [hm]
    exact ⟨h1, hle⟩
  · unfold dayNumber daysBeforeMonth
    rw [hm]
    omega

theorem dayNumber_civil (n : Int) :
    dayNumber (civil n).1 (civil n).2.1 (civil n).2.2 = n := by
  obtain ⟨year, month, day, h, -, -, -, -, hn⟩ := civil_spec n
  rw [h]
  exact hn

/-- A day lies in a year or after it from the first day of this year on. -/
theorem le_civil_iff (n : Int) (year : Int) : year ≤ (civil n).1 ↔ dayNumber year 1 1 ≤ n := by
  obtain ⟨y, month, day, h, hl, hu, -, -, -⟩ := civil_spec n
  rw [h, dayNumber_first]
  dsimp only
  constructor
  · intro hy
    have := daysBeforeYear_le hy
    omega
  · intro hn
    apply Int.not_lt.mp
    intro hy
    have := daysBeforeYear_le (Int.add_one_le_iff.mpr hy)
    omega

/-- The days of the calendar's years are dates. -/
theorem isDate_civil {n : Int} (hl : dayNumber firstYear 1 1 ≤ n)
    (hu : n < dayNumber (lastYear + 1) 1 1) :
    IsDate (civil n).1 (civil n).2.1 (civil n).2.2 := by
  have hy := (le_civil_iff n firstYear).mpr hl
  have hz := mt (le_civil_iff n (lastYear + 1)).mp (Int.not_le.mpr hu)
  obtain ⟨year, month, day, h, -, -, hm, hd, -⟩ := civil_spec n
  rw [h] at hy hz ⊢
  exact ⟨⟨hy, Int.le_of_lt_add_one (Int.not_le.mp hz)⟩, hm, hd⟩

/-! ## Instants -/

namespace Instant

theorem secondOfDay_lt (t : Instant) : t.secondOfDay < secondsPerDay := by
  unfold secondOfDay secondsPerDay
  omega

theorem seconds_eq (t : Instant) : t.day * secondsPerDay + t.secondOfDay = t.seconds := by
  unfold day secondOfDay secondsPerDay
  omega

/-- An instant lies in a year or after it from the first second of this year on. -/
theorem le_year_iff (t : Instant) (year : Int) :
    year ≤ t.year ↔ dayNumber year 1 1 * secondsPerDay ≤ t.seconds := by
  have hs := t.seconds_eq
  have hd := t.secondOfDay_lt
  rw [Instant.year, le_civil_iff]
  unfold secondsPerDay at *
  omega

theorem isDate_day (t : Instant) :
    IsDate (civil t.day).1 (civil t.day).2.1 (civil t.day).2.2 := by
  have hl := t.valid.first_le
  have hu := t.valid.lt_end
  unfold secondsPerDay at hl hu
  refine isDate_civil ?_ ?_
  · unfold day secondsPerDay
    omega
  · unfold day secondsPerDay
    omega

/-- The second of the day tells the second of the minute. -/
theorem secondOfDay_mod (t : Instant) : ((t.secondOfDay % 60 : Nat) : Int) = t.seconds % 60 := by
  unfold secondOfDay secondsPerDay
  omega

end Instant

end QueryWire.Calendar

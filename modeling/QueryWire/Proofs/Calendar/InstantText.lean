/-
  Instants read back from their texts.

  Between the years 0 and 9999 the written text is one that the reader takes,
  and it gives the instant that a clock shows (`Instant.ofText?_text`): a leap
  second at the end of a minute is written as second 60, and the reader takes it
  back to second 59 with a second of nanoseconds.  So instants on the clock come
  back as they are, and no others (`Instant.ofText?_text_eq_some_iff`).  With
  another offset in the place of `Z` the text stands for the instant that is
  earlier by this offset (`Instant.ofChars?_zonedChars`).  In other years the
  text has a sign in front and is refused (`Instant.ofText?_text_eq_none`), but
  texts still tell instants on the clock apart (`Instant.eq_of_text_eq`).
-/
import QueryWire.Proofs.Calendar.Clock
import QueryWire.Proofs.Calendar.DateText

namespace QueryWire.Calendar

open Text (Numeral.padded Numeral.value Numeral.StopsDigits Numeral.stopsDigits_cons)
open Text.Numeral (isDigit_of_mem_padded length_padded padded_ne_nil value_padded)

/-! ## Parts of a text -/

theorem exactDigits?_padded {width n : Nat} (hw : 0 < width) (hn : n < Nat.pow 10 width)
    (rest : List Char) : exactDigits? width (Numeral.padded width n ++ rest) = some (n, rest) := by
  have hl := length_padded hw hn
  have ht : (Numeral.padded width n ++ rest).take width = Numeral.padded width n :=
    List.take_left' hl
  have hd : (Numeral.padded width n ++ rest).drop width = rest := List.drop_left' hl
  have ha : (Numeral.padded width n).all Char.isDigit = true :=
    List.all_eq_true.mpr fun c hc => isDigit_of_mem_padded hc
  unfold exactDigits?
  rw [ht, hd]
  dsimp only
  rw [if_pos ⟨hl, ha⟩, value_padded]

theorem fraction?_padded {width n : Nat} (hw : 0 < width) (h9 : width ≤ 9)
    (hn : n < Nat.pow 10 width) {rest : List Char} (hr : Numeral.StopsDigits rest) :
    fraction? ('.' :: (Numeral.padded width n ++ rest)) =
      some (n * Nat.pow 10 (9 - width), rest) := by
  have hd : ∀ c ∈ Numeral.padded width n, c.isDigit = true := fun c hc => isDigit_of_mem_padded hc
  have hl := length_padded hw hn
  rw [fraction?.eq_1]
  dsimp only
  rw [Text.Numeral.takeWhile_digits hd hr, Text.Numeral.dropWhile_digits hd hr,
    if_neg (by simp [padded_ne_nil]), List.take_of_length_le (by omega), hl, value_padded]

/-- Without a point there is no fraction. -/
theorem fraction?_of_ne {c : Char} (hp : c ≠ '.') (rest : List Char) :
    fraction? (c :: rest) = some (0, c :: rest) := by
  unfold fraction?
  split
  · rename_i he
    cases he
    exact absurd rfl hp
  · rfl

/-- A fraction of a second is read back with all its digits. -/
theorem fraction?_fractionChars {nanos : Nat} (h : nanos < nanosPerSecond) {c : Char}
    (hc : c.isDigit = false) (hp : c ≠ '.') (rest : List Char) :
    fraction? (fractionChars nanos ++ c :: rest) = some (nanos, c :: rest) := by
  have hr : Numeral.StopsDigits (c :: rest) := Numeral.stopsDigits_cons hc rest
  unfold nanosPerSecond at h
  unfold fractionChars
  by_cases h0 : nanos = 0
  · rw [if_pos h0, h0]
    exact fraction?_of_ne hp rest
  · rw [if_neg h0]
    by_cases h6 : nanos % 1000000 = 0
    · rw [if_pos h6, List.cons_append,
        fraction?_padded (by decide) (by decide) (show nanos / 1000000 < 1000 by omega) hr]
      have : nanos / 1000000 * 1000000 = nanos := by omega
      exact congrArg (fun n => some (n, c :: rest)) this
    · rw [if_neg h6]
      by_cases h3 : nanos % 1000 = 0
      · rw [if_pos h3, List.cons_append,
          fraction?_padded (by decide) (by decide) (show nanos / 1000 < 1000000 by omega) hr]
        have : nanos / 1000 * 1000 = nanos := by omega
        exact congrArg (fun n => some (n, c :: rest)) this
      · rw [if_neg h3, List.cons_append,
          fraction?_padded (by decide) (by decide) (show nanos < 1000000000 from h) hr]
        exact congrArg (fun n => some (n, c :: rest)) (Nat.mul_one nanos)

/-- A run of a fixed length begins with a digit. -/
theorem exactDigits?_cons_eq_none (n : Nat) {c : Char} (hc : c.isDigit = false)
    (cs : List Char) : exactDigits? (n + 1) (c :: cs) = none := by
  unfold exactDigits?
  simp [hc]

theorem exactDigits?_two {n : Nat} (hn : n < 100) (rest : List Char) :
    exactDigits? 2 (Numeral.padded 2 n ++ rest) = some (n, rest) :=
  exactDigits?_padded (by decide) hn rest

theorem hyphen?_cons (cs : List Char) : hyphen? ('-' :: cs) = some cs :=
  rfl

theorem colon?_cons (cs : List Char) : colon? (':' :: cs) = some cs :=
  rfl

theorem timeMark?_cons (cs : List Char) : timeMark? ('T' :: cs) = some cs :=
  rfl

/-- Reading goes on after a part that was there. -/
theorem some_bind {α β : Type} (x : α) (f : α → Option β) : (some x >>= f) = f x :=
  rfl

/-! ## Instants -/

/-- The text of an instant, with `zone` in the place of `Z`. -/
def Instant.zonedChars (t : Instant) (zone : List Char) : List Char :=
  yearChars (civil t.day).1 ++
    '-' :: (Numeral.padded 2 (civil t.day).2.1 ++
    '-' :: (Numeral.padded 2 (civil t.day).2.2 ++
    'T' :: (Numeral.padded 2 (t.secondOfDay / 3600) ++
    ':' :: (Numeral.padded 2 (t.secondOfDay / 60 % 60) ++
    ':' :: (Numeral.padded 2 (t.secondOfDay % 60 + t.nanos / nanosPerSecond) ++
    (fractionChars (t.nanos % nanosPerSecond) ++ zone))))))

theorem Instant.chars_eq (t : Instant) : t.chars = t.zonedChars ['Z'] := by
  unfold Instant.chars Instant.zonedChars timeChars dayChars
  simp only [List.append_assoc, List.cons_append]

theorem Instant.zonedChars_shown (t : Instant) (zone : List Char) :
    t.shown.zonedChars zone = t.zonedChars zone := by
  obtain ⟨hm, hs, hn⟩ := t.shown_minute
  have hmod := t.secondOfDay_mod
  have hmod' := t.shown.secondOfDay_mod
  have hh : t.shown.secondOfDay / 60 = t.secondOfDay / 60 := by
    unfold Instant.secondOfDay secondsPerDay
    omega
  have hsecond : t.shown.secondOfDay % 60 + t.shown.nanos / nanosPerSecond =
      t.secondOfDay % 60 + t.nanos / nanosPerSecond := by
    omega
  have hhour : t.shown.secondOfDay / 3600 = t.secondOfDay / 3600 := by
    omega
  unfold Instant.zonedChars
  rw [t.day_shown, hhour, hh, hsecond, hn]

/-- The text of an instant is that of the instant that a clock shows. -/
theorem Instant.text_shown (t : Instant) : t.shown.text = t.text := by
  rw [Instant.text, Instant.text, t.shown.chars_eq, t.chars_eq, t.zonedChars_shown]

/-- A text with an offset stands for an instant that is earlier by this offset. -/
theorem Instant.ofChars?_zonedChars {t : Instant} (hk : t.OnClock)
    (h : 0 ≤ t.year ∧ t.year ≤ 9999) {c : Char} {rest : List Char} {offset : Int}
    (hc : c.isDigit = false) (hp : c ≠ '.')
    (ho : offset? (c :: rest) = some (offset, [])) :
    Instant.ofChars? (t.zonedChars (c :: rest)) =
      Instant.ofParts? (t.seconds - offset) t.nanos := by
  obtain ⟨hh, hm, hs⟩ := t.clock_bounds
  have hd := t.isDate_day
  obtain ⟨hmo, hda⟩ := hd.lt_hundred
  have hn := Nat.mod_lt t.nanos (show 0 < nanosPerSecond by decide)
  have hy : yearChars (civil t.day).1 = Numeral.padded 4 (civil t.day).1.natAbs := if_pos h
  have hyn : (civil t.day).1.natAbs < 10000 := by
    have : (civil t.day).1 = t.year := rfl
    omega
  have hyi : ((civil t.day).1.natAbs : Int) = (civil t.day).1 := by
    have : (civil t.day).1 = t.year := rfl
    omega
  have hna : t.nanos / nanosPerSecond * nanosPerSecond + t.nanos % nanosPerSecond = t.nanos :=
    Nat.div_add_mod' _ _
  unfold Instant.zonedChars
  rw [hy]
  unfold Instant.ofChars?
  rw [exactDigits?_padded (show 0 < 4 by decide) hyn, some_bind]
  dsimp only
  rw [hyphen?_cons, some_bind, exactDigits?_two hmo, some_bind]
  dsimp only
  rw [hyphen?_cons, some_bind, exactDigits?_two hda, some_bind]
  dsimp only
  rw [timeMark?_cons, some_bind, exactDigits?_two (by omega), some_bind]
  dsimp only
  rw [colon?_cons, some_bind, exactDigits?_two (by omega), some_bind]
  dsimp only
  rw [colon?_cons, some_bind, exactDigits?_two (by omega), some_bind]
  dsimp only
  rw [fraction?_fractionChars hn hc hp, some_bind]
  dsimp only
  rw [ho, some_bind]
  dsimp only
  rw [Instant.clock?_eq hk, some_bind]
  dsimp only
  rw [hyi, Date.ofParts?, dif_pos hd, some_bind]
  dsimp only
  rw [if_pos List.isEmpty_nil, dayNumber_civil, t.seconds_eq, hna]

theorem Instant.ofParts?_self (t : Instant) : Instant.ofParts? t.seconds t.nanos = some t :=
  dif_pos t.valid

theorem Instant.ofText?_text_of_onClock {t : Instant} (hk : t.OnClock)
    (h : 0 ≤ t.year ∧ t.year ≤ 9999) : Instant.ofText? t.text = some t := by
  have ho : offset? ['Z'] = some (0, []) := rfl
  unfold Instant.ofText? Instant.text
  rw [String.toList_ofList, t.chars_eq, Instant.ofChars?_zonedChars hk h rfl (by decide) ho,
    Int.sub_zero]
  exact t.ofParts?_self

/-- The instant that is read back is the one that a clock shows. -/
theorem Instant.ofText?_text (t : Instant) (h : 0 ≤ t.year ∧ t.year ≤ 9999) :
    Instant.ofText? t.text = some t.shown := by
  rw [← t.year_shown] at h
  rw [← t.text_shown]
  exact Instant.ofText?_text_of_onClock t.onClock_shown h

/-- A year with a sign is not read. -/
theorem Instant.ofText?_text_eq_none (t : Instant) (h : ¬ (0 ≤ t.year ∧ t.year ≤ 9999)) :
    Instant.ofText? t.text = none := by
  have hy : yearChars (civil t.day).1 =
      (if t.year < 0 then '-' else '+') :: Numeral.padded 4 t.year.natAbs := if_neg h
  have hs : (if t.year < 0 then '-' else '+').isDigit = false := by
    split <;> rfl
  unfold Instant.ofText? Instant.text
  rw [String.toList_ofList, t.chars_eq, Instant.zonedChars, hy, List.cons_append]
  unfold Instant.ofChars?
  rw [exactDigits?_cons_eq_none 3 hs]
  rfl

theorem Instant.ofText?_text_eq_some_iff (t : Instant) :
    Instant.ofText? t.text = some t ↔ (0 ≤ t.year ∧ t.year ≤ 9999) ∧ t.OnClock := by
  by_cases h : 0 ≤ t.year ∧ t.year ≤ 9999
  · rw [t.ofText?_text h, Option.some.injEq, t.shown_eq_self_iff, and_iff_right h]
  · rw [t.ofText?_text_eq_none h]
    exact iff_of_false (fun hn => by cases hn) fun hk => h hk.1

/-! ## Instants with one text -/

theorem Instant.ext {s t : Instant} (hs : s.seconds = t.seconds) (hn : s.nanos = t.nanos) :
    s = t := by
  obtain ⟨_, _, _⟩ := s
  obtain ⟨_, _, _⟩ := t
  subst hs hn
  rfl

theorem yearChars_append_inj {y z : Int} {xs ys : List Char}
    (h : yearChars y ++ '-' :: xs = yearChars z ++ '-' :: ys) : y = z ∧ xs = ys := by
  have := congrArg yearNumber? h
  rw [yearNumber?_yearChars, yearNumber?_yearChars] at this
  simpa using this

theorem padded_append_inj {m n : Nat} (hm : m < 100) (hn : n < 100) {xs ys : List Char}
    (h : Numeral.padded 2 m ++ xs = Numeral.padded 2 n ++ ys) : m = n ∧ xs = ys := by
  have := congrArg (exactDigits? 2) h
  rw [exactDigits?_two hm, exactDigits?_two hn] at this
  simpa using this

theorem fractionChars_append_inj {m n : Nat} (hm : m < nanosPerSecond) (hn : n < nanosPerSecond)
    (h : fractionChars m ++ ['Z'] = fractionChars n ++ ['Z']) : m = n := by
  have := congrArg fraction? h
  rw [fraction?_fractionChars hm rfl (by decide), fraction?_fractionChars hn rfl (by decide)]
    at this
  simpa using this

theorem Instant.eq_of_text_eq {s t : Instant} (hks : s.OnClock) (hkt : t.OnClock)
    (h : s.text = t.text) : s = t := by
  have hnp : 0 < nanosPerSecond := by decide
  obtain ⟨hsh, hsm, hss⟩ := s.clock_bounds
  obtain ⟨hth, htm, hts⟩ := t.clock_bounds
  obtain ⟨hsmo, hsda⟩ := s.isDate_day.lt_hundred
  obtain ⟨htmo, htda⟩ := t.isDate_day.lt_hundred
  have hc : s.chars = t.chars := String.ofList_injective h
  rw [s.chars_eq, t.chars_eq] at hc
  unfold Instant.zonedChars at hc
  obtain ⟨hy, hc⟩ := yearChars_append_inj hc
  obtain ⟨hmo, hc⟩ := padded_append_inj hsmo htmo hc
  obtain ⟨hda, hc⟩ := padded_append_inj hsda htda (List.cons.inj hc).2
  obtain ⟨hh, hc⟩ := padded_append_inj (by omega) (by omega) (List.cons.inj hc).2
  obtain ⟨hm, hc⟩ := padded_append_inj (by omega) (by omega) (List.cons.inj hc).2
  obtain ⟨hs, hc⟩ := padded_append_inj (by omega) (by omega) (List.cons.inj hc).2
  have hf := fractionChars_append_inj (Nat.mod_lt _ hnp) (Nat.mod_lt _ hnp) hc
  have hd : s.day = t.day := by
    rw [← dayNumber_civil s.day, ← dayNumber_civil t.day, hy, hmo, hda]
  -- On a clock, a second 60 is the only one that nanoseconds can have gone on to.
  have hn : s.nanos = t.nanos ∧ s.secondOfDay = t.secondOfDay := by
    have hsl := s.secondOfDay_mod
    have htl := t.secondOfDay_mod
    have hsn := s.valid.nanos_lt
    have htn := t.valid.nanos_lt
    unfold Instant.OnClock at hks hkt
    unfold nanosPerSecond at *
    omega
  refine Instant.ext ?_ hn.1
  rw [← s.seconds_eq, ← t.seconds_eq, hd, hn.2]

end QueryWire.Calendar

/-
  Instants on the wire.

  All instants can be written, and what is written is a document.  In the years 0
  to 9999 it is read as the instant that a clock shows, so an instant comes back
  exactly if it is on the clock.  Other years are written with a sign, which the reader
  does not take below `@ts`, so that the instant comes back as an object with a
  text (`decode_unread_timestamp`).  Such instants do not only come from
  programs: an offset can move one that was read into the year before 0 or into
  the year 10000 (`exists_parse_timestamp?_iff`).
-/
import QueryWire.Proofs.Calendar.InstantRange
import QueryWire.Proofs.Wire.Coercions
import QueryWire.Proofs.Wire.Encoding

namespace QueryWire

open Json (Node)
open Calendar (Instant dayNumber secondsPerDay largestOffset)

/-- A text below a tag that is not read stays a text, and the tag a key. -/
theorem Codec.decode_unread_timestamp (codec : Codec) {s : String}
    (h : Instant.ofText? s = none) :
    codec.decode (tagged timestampTag (.string s)) = .object [(timestampTag, .string s)] := by
  have ha : (tagged timestampTag (.string s)).atom? = none := by
    rw [tagged, Node.atom?_string, if_neg (by decide), if_pos rfl, h]
    rfl
  rw [tagged, decode_entries ha fun _ _ he => by cases he]
  rfl

namespace LazyValue

variable (codec : Codec)

theorem parse_tagged_string (tag s : String) :
    LazyValue.parse codec (tagged tag (.string s)).text =
      .ok ⟨tagged tag (.string s), codec⟩ := by
  have hk : (tagged tag (.string s)).Distinct :=
    ⟨by simp [Fields.Distinct, Fields.keys], trivial, trivial⟩
  have hd := Json.document_text (show Node.nesting (tagged tag (.string s)) ≤ _ by
    simp [tagged, Node.nesting, Node.nestingEntries, Json.nestingLimit]) hk ⟨trivial, trivial⟩
  rw [parse, hd]

theorem timestamp?_tagged (s : String) :
    (LazyValue.mk (tagged timestampTag (.string s)) codec).timestamp? = Instant.ofText? s := by
  have hc : (tagged timestampTag (.string s)).tagContent? timestampTag = some (.string s) := rfl
  rw [timestamp?, Node.timestamp?, hc]
  rfl

/-- The instants that some document stands for are those that have a text. -/
theorem exists_parse_timestamp?_iff (t : Instant) :
    (∃ s w, LazyValue.parse codec s = .ok w ∧ w.timestamp? = some t) ↔
      t.OnClock ∧ dayNumber 0 1 1 * secondsPerDay - largestOffset ≤ t.seconds ∧
        t.seconds < dayNumber 10000 1 1 * secondsPerDay + largestOffset := by
  rw [← t.exists_text_iff]
  constructor
  · rintro ⟨_, w, -, h⟩
    obtain ⟨text, -, ht⟩ := Option.bind_eq_some_iff.mp h
    exact ⟨text, ht⟩
  · rintro ⟨text, ht⟩
    exact ⟨_, _, parse_tagged_string codec timestampTag text,
      (timestamp?_tagged codec text).trans ht⟩

/-- An instant is written and read back exactly if it is on the clock and in the
    years 0 to 9999.  Off the clock, the instant that a clock shows comes back, and
    in other years an object.  The instants that a document can stand for go beyond
    these years by the largest offset. -/
theorem parse_timestamp_text (t : Instant) :
    (∃ s w, (Value.timestamp t).text = .ok s ∧ LazyValue.parse codec s = .ok w ∧
      (w.toValue = .timestamp t ↔ (0 ≤ t.year ∧ t.year ≤ 9999) ∧ t.OnClock) ∧
      (w.timestamp? = some t ↔ (0 ≤ t.year ∧ t.year ≤ 9999) ∧ t.OnClock) ∧
      (0 ≤ t.year ∧ t.year ≤ 9999 →
        w.toValue = .timestamp t.shown ∧ w.timestamp? = some t.shown) ∧
      (¬ (0 ≤ t.year ∧ t.year ≤ 9999) →
        w.toValue = .object [(timestampTag, .string t.text)] ∧ w.timestamp? = none)) ∧
    ((∃ s w, LazyValue.parse codec s = .ok w ∧ w.timestamp? = some t) ↔
      t.OnClock ∧ dayNumber 0 1 1 * secondsPerDay - largestOffset ≤ t.seconds ∧
        t.seconds < dayNumber 10000 1 1 * secondsPerDay + largestOffset) := by
  have hf : (Value.timestamp t).Everywhere Value.IsFinite :=
    (Value.everywhere_leaf rfl).mpr trivial
  have ht := timestamp?_tagged codec t.text
  have hr : (LazyValue.mk (tagged timestampTag (.string t.text)) codec).timestamp? = some t ↔
      (0 ≤ t.year ∧ t.year ≤ 9999) ∧ t.OnClock := by
    rw [ht]
    exact t.ofText?_text_eq_some_iff
  refine ⟨⟨_, _, Value.text_eq hf, parse_tagged_string codec timestampTag t.text, ?_, hr, ?_, ?_⟩,
    exists_parse_timestamp?_iff codec t⟩
  · rw [toValue_eq_timestamp_iff]
    exact hr
  · intro hy
    have hs := ht.trans (t.ofText?_text hy)
    exact ⟨toValue_eq_timestamp_iff.mpr hs, hs⟩
  · intro hn
    have hu := t.ofText?_text_eq_none hn
    exact ⟨codec.decode_unread_timestamp hu, ht.trans hu⟩

end LazyValue

end QueryWire

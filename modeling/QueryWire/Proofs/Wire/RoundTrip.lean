/-
  Values that survive the wire.

  A value is read back from its own text exactly if no object in it is taken for
  something else and its instants are on the clock (`parse_text_toValue`).  Which
  objects are taken for something else, `TagShaped` says: their only entry is a
  tag with a content that the tag accepts.  Decoding takes such an object for a
  special, or takes a legacy wrapper off; the tree of what was inside is smaller
  (`size_node_decode_le`), so not even a wrapper around wrappers comes back.
  Every other object is decoded entry by entry (`decode_of_not_tagShaped`), and
  so are the parameters of a set reference, whatever their keys are.  An instant
  off the clock is written as another one, which comes in its place.
-/
import QueryWire.LazyValue
import QueryWire.Proofs.Calendar.InstantText
import QueryWire.Proofs.Wire.Decoding
import QueryWire.Proofs.Wire.Encoding

namespace QueryWire

open Json (Node Number)
open Calendar (Date Instant)

/-- The double is finite and read back from the text that is written for it. -/
def Binary64.ReadsBack (x : Binary64) : Prop :=
  ∃ h : x.isFinite = true,
    Json.document (Node.text (.number (.float x h))) = .ok (.number (.float x h))

instance (x : Binary64) : Decidable x.ReadsBack :=
  if h : x.isFinite = true then
    decidable_of_iff (Number.float x h).ReadsBack
      (Number.readsBack_iff.trans ⟨fun hd => ⟨h, hd⟩, fun ⟨_, hd⟩ => hd⟩)
  else isFalse fun ⟨hx, _⟩ => h hx

/-! ## Numbers -/

namespace Json.Number

theorem toValue_ofInt64 (n : Int64) : (ofInt64 n).toValue = .integer n := by
  rw [toValue, int64?_ofInt64]

end Json.Number

/-! ## Trees that can be read back -/

namespace Value

/-- A double is read back from its text, and an instant lies in the years that
    are written with four digits. -/
def Portable : Value → Prop
  | .double x => x.ReadsBack
  | .timestamp t => 0 ≤ t.year ∧ t.year ≤ 9999
  | _ => True

/-- A double is finite, and an instant lies in the years that are written with
    four digits. -/
def Recoverable : Value → Prop
  | .double x => x.isFinite = true
  | .timestamp t => 0 ≤ t.year ∧ t.year ≤ 9999
  | _ => True

theorem Portable.recoverable {v : Value} (h : v.Portable) : v.Recoverable := by
  cases v with
  | double x => exact h.1
  | timestamp t => exact h
  | _ => trivial

theorem Recoverable.isFinite {v : Value} (h : v.Recoverable) : v.IsFinite := by
  cases v with
  | double x => exact h
  | _ => trivial

mutual
theorem readsBack_node : (v : Value) → v.Everywhere Portable → v.node.ReadsBack
  | .null, _ => trivial
  | .boolean _, _ => trivial
  | .integer n, _ => Number.readsBack_ofInt64 n
  | .double x, h => by
    obtain ⟨hx, hd⟩ : x.ReadsBack := h _ .self
    rw [node, dif_pos hx]
    exact Number.readsBack_of_document hd
  | .string _, _ => trivial
  | .timestamp _, _ => ⟨trivial, trivial⟩
  | .date _, _ => ⟨trivial, trivial⟩
  | .array items, h => readsBackItems_nodes items (everywhere_array.mp h).2
  | .object fields, h => readsBackEntries_entries fields (everywhere_object.mp h).2
  | .ref _, _ => ⟨trivial, trivial⟩
  | .setRef parameters, h =>
    ⟨readsBackEntries_entries parameters (everywhere_setRef.mp h).2, trivial⟩

theorem readsBackItems_nodes : (items : List Value) → (∀ v ∈ items, v.Everywhere Portable) →
    Node.ReadsBackItems (nodes items)
  | [], _ => trivial
  | v :: rest, h =>
    ⟨readsBack_node v (h v List.mem_cons_self),
      readsBackItems_nodes rest fun w hw => h w (List.mem_cons_of_mem _ hw)⟩

theorem readsBackEntries_entries : (fields : List (String × Value)) →
    (∀ q ∈ fields, q.2.Everywhere Portable) → Node.ReadsBackEntries (entries fields)
  | [], _ => trivial
  | (k, v) :: rest, h =>
    ⟨readsBack_node v (h (k, v) List.mem_cons_self),
      readsBackEntries_entries rest fun q hq => h q (List.mem_cons_of_mem _ hq)⟩
end

/-! ## Objects that are taken for something else -/

/-- The value is written as a JSON object. -/
def isBraced : Value → Bool
  | .timestamp _ => true
  | .date _ => true
  | .object _ => true
  | .ref _ => true
  | .setRef _ => true
  | _ => false

/-- The fields are one, whose key is a tag and whose value is a content of this tag. -/
def TagShaped (codec : Codec) : List (String × Value) → Prop
  | [(k, .string s)] =>
    k = refTag ∨ (k = timestampTag ∧ (Instant.ofText? s).isSome = true) ∨
      (k = dateTag ∧ (Date.ofText? s).isSome = true)
  | [(k, v)] =>
    v.isBraced = true ∧
      (k = setTag ∨ (k = legacyObjectTag ∧ codec.acceptLegacyObjectTag = true))
  | _ => False

theorem TagShaped.eq_singleton {codec : Codec} {fields : List (String × Value)}
    (h : TagShaped codec fields) : ∃ k v, fields = [(k, v)] := by
  match fields, h with
  | [(k, v)], _ => exact ⟨k, v, rfl⟩
  | _ :: _ :: _, h => simp [TagShaped] at h

theorem tagShaped_of_isBraced {codec : Codec} {k : String} {v : Value} (h : v.isBraced = true) :
    TagShaped codec [(k, v)] ↔
      k = setTag ∨ (k = legacyObjectTag ∧ codec.acceptLegacyObjectTag = true) := by
  cases v with
  | timestamp _ | date _ | object _ | ref _ | setRef _ => exact and_iff_right h
  | _ => cases h

theorem node_of_isBraced {v : Value} (h : v.isBraced = true) :
    ∃ inner, v.node = .object inner := by
  cases v with
  | timestamp t => exact ⟨_, rfl⟩
  | date d => exact ⟨_, rfl⟩
  | object fields => exact ⟨_, rfl⟩
  | ref r => exact ⟨_, rfl⟩
  | setRef parameters => exact ⟨_, rfl⟩
  | _ => cases h

theorem isBraced_of_node {v : Value} {inner : List (String × Node)}
    (h : v.node = .object inner) : v.isBraced = true := by
  cases v with
  | double x =>
    rw [node] at h
    split at h <;> cases h
  | null | boolean _ | integer _ | string _ | array _ => cases h
  | _ => rfl

theorem eq_string_of_node {v : Value} {s : String} (h : v.node = .string s) : v = .string s := by
  cases v with
  | string t =>
    cases h
    rfl
  | double x =>
    rw [node] at h
    split at h <;> cases h
  | _ => cases h

end Value

/-! ## Sizes -/

namespace Json.Node

theorem size_node_toValue (n : Number) : n.toValue.node.size = 1 := by
  unfold Number.toValue
  split
  · rfl
  · rw [Value.node]
    split <;> rfl

theorem size_node_of_atom? {entries : List (String × Node)} {v : Value}
    (h : (Node.object entries).atom? = some v) : v.node.size ≤ (Node.object entries).size := by
  match entries, h with
  | [(k, content)], h =>
    have hp := size_pos content
    rw [size_entry]
    rw [atom?_entry] at h
    cases hs : content.string? with
    | none =>
      rw [hs] at h
      cases h
    | some s =>
      rw [hs, Option.bind_some] at h
      have hv : v.node.size = 2 := by
        split at h
        · cases h
          rfl
        split at h
        · obtain ⟨t, -, rfl⟩ := Option.map_eq_some_iff.mp h
          rfl
        split at h
        · obtain ⟨d, -, rfl⟩ := Option.map_eq_some_iff.mp h
          rfl
        · cases h
      omega
  | [], h => cases h
  | _ :: _ :: _, h => cases h

end Json.Node

open Json.Node (size sizeItems sizeEntries)

namespace Codec

mutual
/-- What is decoded has no larger tree: a special has the size of its tag, and
    a legacy wrapper is lost. -/
theorem size_node_decode_le (codec : Codec) : (node : Node) →
    (codec.decode node).node.size ≤ node.size
  | .null => Nat.le_refl _
  | .bool _ => Nat.le_refl _
  | .number n => Nat.le_of_eq (Node.size_node_toValue n)
  | .string _ => Nat.le_refl _
  | .array items => Nat.succ_le_succ (sizeItems_decodeItems_le codec items)
  | .object entries => by
    cases ha : (Node.object entries).atom? with
    | some v =>
      rw [decode_of_atom? ha]
      exact Node.size_node_of_atom? ha
    | none =>
      by_cases hn : ∃ k inner, entries = [(k, .object inner)]
      · obtain ⟨k, inner, rfl⟩ := hn
        have hi := sizeEntries_decodeEntries_le codec inner
        rw [decode_entry_object]
        split
        · exact Nat.succ_le_succ (Nat.succ_le_succ hi)
        split
        · exact Nat.le_succ_of_le (Nat.succ_le_succ hi)
        · exact Nat.succ_le_succ (size_node_decode_le codec (.object inner))
      · rw [decode_entries ha fun k inner h => hn ⟨k, inner, h⟩]
        exact Nat.succ_le_succ (sizeEntries_decodeEntries_le codec entries)

theorem sizeItems_decodeItems_le (codec : Codec) : (items : List Node) →
    sizeItems (Value.nodes (codec.decodeItems items)) ≤ sizeItems items
  | [] => Nat.le_refl _
  | node :: rest =>
    Nat.add_le_add (size_node_decode_le codec node) (sizeItems_decodeItems_le codec rest)

theorem sizeEntries_decodeEntries_le (codec : Codec) : (entries : List (String × Node)) →
    sizeEntries (Value.entries (codec.decodeEntries entries)) ≤ sizeEntries entries
  | [] => Nat.le_refl _
  | (_, node) :: rest =>
    Nat.add_le_add (size_node_decode_le codec node) (sizeEntries_decodeEntries_le codec rest)
end

end Codec

/-! ## Tag-shaped objects -/

namespace Codec

variable {codec : Codec}

theorem decode_of_not_tagShaped {fields : List (String × Value)}
    (h : ¬ Value.TagShaped codec fields) :
    codec.decode (.object (Value.entries fields)) =
      .object (codec.decodeEntries (Value.entries fields)) := by
  match fields, h with
  | [], _ => rfl
  | (_, _) :: (_, _) :: _, _ =>
    exact decode_entries rfl fun _ _ he => List.cons_ne_nil _ _ (List.cons.inj he).2
  | [(k, v)], h =>
    show codec.decode (.object [(k, v.node)]) = .object (codec.decodeEntries [(k, v.node)])
    cases hv : v.node with
    | string s =>
      obtain rfl := Value.eq_string_of_node hv
      simp only [Value.TagShaped, not_or, not_and] at h
      obtain ⟨hr, ht, hd⟩ := h
      refine decode_entries ?_ (fun _ _ he => by cases he)
      rw [Node.atom?_string, if_neg hr]
      split
      · rename_i hk
        rw [Option.not_isSome_iff_eq_none.mp (ht hk)]
        rfl
      split
      · rename_i hk
        rw [Option.not_isSome_iff_eq_none.mp (hd hk)]
        rfl
      · rfl
    | object inner =>
      rw [Value.tagShaped_of_isBraced (Value.isBraced_of_node hv), not_or] at h
      rw [decode_entry_object, if_neg h.1, if_neg h.2]
      rfl
    | null | bool _ | number _ | array _ =>
      exact decode_entries (Node.atom?_entry k _) (fun _ _ he => by cases he)

/-- A tag-shaped object is not decoded to itself.  Under the legacy tag this
    takes a count: what was inside would have to be its own wrapper. -/
theorem decode_ne_of_tagShaped {fields : List (String × Value)}
    (h : Value.TagShaped codec fields) :
    codec.decode (.object (Value.entries fields)) ≠ .object fields := by
  obtain ⟨k, v, rfl⟩ := h.eq_singleton
  show codec.decode (.object [(k, v.node)]) ≠ .object [(k, v)]
  by_cases hb : v.isBraced = true
  · obtain ⟨inner, hi⟩ := Value.node_of_isBraced hb
    rw [Value.tagShaped_of_isBraced hb] at h
    rw [hi, decode_entry_object]
    by_cases hs : k = setTag
    · rw [if_pos hs]
      exact fun he => by cases he
    rw [if_neg hs, if_pos (h.resolve_left hs)]
    intro he
    have he := Value.object.inj he
    match inner, hi, he with
    | [(k', content)], hi, he =>
      have hd : codec.decode content = v := congrArg Prod.snd (List.cons.inj he).1
      have hle := size_node_decode_le codec content
      rw [hd, hi, Node.size_entry] at hle
      omega
    | [], _, he => cases he
    | (_, _) :: (_, _) :: _, _, he => cases he
  cases v with
  | string s =>
    have ha := Node.atom?_string k s
    obtain rfl | ⟨rfl, ht⟩ | ⟨rfl, hd⟩ := h
    · rw [if_pos rfl] at ha
      rw [Value.node, decode_of_atom? ha]
      exact fun he => by cases he
    · obtain ⟨t, ht⟩ := Option.isSome_iff_exists.mp ht
      rw [if_neg (by decide), if_pos rfl, ht] at ha
      rw [Value.node, decode_of_atom? ha]
      exact fun he => by cases he
    · obtain ⟨d, hd⟩ := Option.isSome_iff_exists.mp hd
      rw [if_neg (by decide), if_neg (by decide), if_pos rfl, hd] at ha
      rw [Value.node, decode_of_atom? ha]
      exact fun he => by cases he
  | null | boolean _ | integer _ | double _ | array _ => exact absurd h.1 hb
  | _ => exact absurd rfl hb

end Codec

/-! ## Round trips -/

namespace Value

/-- One layer of a value comes back: it is no tag-shaped object and no instant
    off the clock. -/
def Kept (codec : Codec) : Value → Prop
  | .object fields => ¬ TagShaped codec fields
  | .timestamp t => t.OnClock
  | _ => True

variable {codec : Codec}

theorem decode_leaf_iff {v : Value} (hl : v.isLeaf = true) (hr : v.Recoverable) :
    codec.decode v.node = v ↔ v.OnClock := by
  cases v with
  | null => exact iff_of_true rfl trivial
  | boolean b => exact iff_of_true rfl trivial
  | integer n => exact iff_of_true (Number.toValue_ofInt64 n) trivial
  | double x =>
    have hx : x.isFinite = true := hr
    refine iff_of_true ?_ trivial
    rw [node, dif_pos hx]
    rfl
  | string s => exact iff_of_true rfl trivial
  | timestamp t =>
    have ha := Node.atom?_string timestampTag t.text
    rw [if_neg (by decide), if_pos rfl, Instant.ofText?_text t hr] at ha
    rw [node, tagged, Codec.decode_of_atom? ha, Value.timestamp.injEq]
    exact t.shown_eq_self_iff
  | date d =>
    have ha := Node.atom?_string dateTag d.text
    rw [if_neg (by decide), if_neg (by decide), if_pos rfl, Date.ofText?_text d] at ha
    exact iff_of_true (Codec.decode_of_atom? ha) trivial
  | ref r =>
    have ha := Node.atom?_string refTag r.path
    rw [if_pos rfl] at ha
    exact iff_of_true (Codec.decode_of_atom? ha) trivial
  | array _ | object _ | setRef _ => cases hl

/-- One step of the round trip: a list comes back with its items, and an object
    if it is not tag-shaped itself. -/
theorem decode_leaf_iff_kept {v : Value} (hl : v.isLeaf = true) (hp : v.Everywhere Portable) :
    codec.decode v.node = v ↔ v.Everywhere (Kept codec) := by
  rw [decode_leaf_iff hl (hp v .self).recoverable, everywhere_leaf hl]
  cases v with
  | array _ | object _ | setRef _ => cases hl
  | _ => rfl

mutual
theorem decode_node_iff : (v : Value) → v.Everywhere Portable →
    (codec.decode v.node = v ↔ v.Everywhere (Kept codec))
  | .null, h => decode_leaf_iff_kept rfl h
  | .boolean _, h => decode_leaf_iff_kept rfl h
  | .integer _, h => decode_leaf_iff_kept rfl h
  | .double _, h => decode_leaf_iff_kept rfl h
  | .string _, h => decode_leaf_iff_kept rfl h
  | .timestamp _, h => decode_leaf_iff_kept rfl h
  | .date _, h => decode_leaf_iff_kept rfl h
  | .ref _, h => decode_leaf_iff_kept rfl h
  | .array items, h => by
    have hi := decodeItems_nodes_iff items (everywhere_array.mp h).2
    have hd : codec.decode (Value.array items).node = .array (codec.decodeItems (nodes items)) :=
      rfl
    rw [everywhere_array, ← hi, hd, Value.array.injEq]
    exact (and_iff_right trivial).symm
  | .object fields, h => by
    have hf := decodeEntries_entries_iff fields (everywhere_object.mp h).2
    rw [everywhere_object, ← hf]
    by_cases ht : TagShaped codec fields
    · exact iff_of_false (Codec.decode_ne_of_tagShaped ht) fun hn => hn.1 ht
    · rw [node, Codec.decode_of_not_tagShaped ht, Value.object.injEq]
      exact (and_iff_right ht).symm
  | .setRef parameters, h => by
    have hf := decodeEntries_entries_iff parameters (everywhere_setRef.mp h).2
    have hd : codec.decode (Value.setRef parameters).node =
        .setRef (codec.decodeEntries (entries parameters)) :=
      Codec.decode_entry_object setTag (entries parameters)
    rw [everywhere_setRef, ← hf, hd, Value.setRef.injEq]
    exact (and_iff_right trivial).symm

theorem decodeItems_nodes_iff : (items : List Value) → (∀ v ∈ items, v.Everywhere Portable) →
    (codec.decodeItems (nodes items) = items ↔
      ∀ v ∈ items, v.Everywhere (Kept codec))
  | [], _ => iff_of_true rfl fun _ hv => absurd hv List.not_mem_nil
  | v :: rest, h => by
    rw [List.forall_mem_cons] at h
    rw [nodes, Codec.decodeItems, List.cons.injEq, List.forall_mem_cons,
      decode_node_iff v h.1, decodeItems_nodes_iff rest h.2]

theorem decodeEntries_entries_iff : (fields : List (String × Value)) →
    (∀ q ∈ fields, q.2.Everywhere Portable) →
    (codec.decodeEntries (entries fields) = fields ↔
      ∀ q ∈ fields, q.2.Everywhere (Kept codec))
  | [], _ => iff_of_true rfl fun _ hv => absurd hv List.not_mem_nil
  | (k, v) :: rest, h => by
    rw [List.forall_mem_cons] at h
    rw [entries, Codec.decodeEntries, List.cons.injEq, Prod.mk.injEq, List.forall_mem_cons,
      decode_node_iff v h.1, decodeEntries_entries_iff rest h.2]
    simp only [true_and]
end

end Value

theorem Value.everywhere_kept_iff (codec : Codec) (v : Value) :
    v.Everywhere (Kept codec) ↔
      (¬ ∃ fields, (Value.object fields).Within v ∧ TagShaped codec fields) ∧
        v.Everywhere OnClock := by
  constructor
  · intro h
    refine ⟨fun ⟨fields, hf, hs⟩ => h _ hf hs, fun w hw => ?_⟩
    cases w with
    | timestamp t => exact h _ hw
    | _ => trivial
  · rintro ⟨h, hc⟩ w hw
    cases w with
    | object fields => exact fun hs => h ⟨fields, hw, hs⟩
    | timestamp t => exact hc _ hw
    | _ => trivial

/-- A value of the given domain is written and read, and it comes back exactly
    if it holds no tag-shaped object and no instant off the clock. -/
theorem LazyValue.parse_text_toValue (codec : Codec) {v : Value} (hk : v.Distinct)
    (hp : v.Everywhere Value.Portable) (hn : v.nesting ≤ Json.nestingLimit) :
    ∃ s w, v.text = .ok s ∧ LazyValue.parse codec s = .ok w ∧
      (w.toValue = v ↔
        (¬ ∃ fields, (Value.object fields).Within v ∧ Value.TagShaped codec fields) ∧
          v.Everywhere Value.OnClock) := by
  have ht : v.text = .ok v.node.text := Value.text_eq (hp.imp fun _ h => h.recoverable.isFinite)
  have hd : Json.document v.node.text = .ok v.node :=
    Json.document_text (by rw [Value.nesting_node]; exact hn) (Value.distinct_node v hk)
      (Value.readsBack_node v hp)
  have hw : LazyValue.parse codec v.node.text = .ok ⟨v.node, codec⟩ := by
    rw [parse, hd]
  refine ⟨_, _, ht, hw, ?_⟩
  rw [← Value.everywhere_kept_iff]
  exact Value.decode_node_iff v hp

/-- A text below `@ts` that is no instant does not make a special, and neither
    do the keys of the parameters of a set reference. -/
theorem LazyValue.parse_text_toValue_unread_tags :
    ∃ s w, (Value.array [.double ⟨0xBFF8000000000000⟩,
        .timestamp ⟨1483228799, 1500000000, by decide⟩,
        .setRef [("@ref", .object [("@ts", .string "tomorrow")])]]).text = .ok s ∧
      LazyValue.parse ⟨true⟩ s = .ok w ∧
      w.toValue = .array [.double ⟨0xBFF8000000000000⟩,
        .timestamp ⟨1483228799, 1500000000, by decide⟩,
        .setRef [("@ref", .object [("@ts", .string "tomorrow")])]] := by
  have hs : ∀ {p : Value → Prop} {s}, Value.Everywhere p (.string s) ↔ p (.string s) :=
    Value.everywhere_leaf rfl
  have ht : ∀ {p : Value → Prop} {t}, Value.Everywhere p (.timestamp t) ↔ p (.timestamp t) :=
    Value.everywhere_leaf rfl
  have hd : ∀ {p : Value → Prop} {x}, Value.Everywhere p (.double x) ↔ p (.double x) :=
    Value.everywhere_leaf rfl
  have hx : Binary64.ReadsBack ⟨0xBFF8000000000000⟩ := by decide +kernel
  have hy : 0 ≤ (Instant.mk 1483228799 1500000000 (by decide)).year ∧
      (Instant.mk 1483228799 1500000000 (by decide)).year ≤ 9999 := by decide +kernel
  have hc : (Instant.mk 1483228799 1500000000 (by decide)).OnClock := by decide
  have hn : Instant.ofText? "tomorrow" = none := by decide +kernel
  obtain ⟨s, w, hs', hw, h⟩ := @LazyValue.parse_text_toValue ⟨true⟩
    (.array [.double ⟨0xBFF8000000000000⟩, .timestamp ⟨1483228799, 1500000000, by decide⟩,
      .setRef [("@ref", .object [("@ts", .string "tomorrow")])]])
    (by simp [Value.Distinct, Value.DistinctItems, Value.DistinctFields, Fields.Distinct,
      Fields.keys])
    (by simp [Value.everywhere_array, Value.everywhere_object, Value.everywhere_setRef,
      Value.Portable, hs, ht, hd, hx, hy])
    (by decide)
  refine ⟨s, w, hs', hw, h.mpr ?_⟩
  rw [← Value.everywhere_kept_iff]
  simp [Value.everywhere_array, Value.everywhere_object, Value.everywhere_setRef,
    Value.Kept, Value.TagShaped, hs, ht, hd, hc, hn, timestampTag, refTag, dateTag]

/-- An instant half a second beyond a whole second in the middle of a minute. -/
def Value.beyondSecond : Value :=
  .timestamp ⟨0, 1500000000, by decide⟩

/-- What comes back is an instant within the next second. -/
theorem LazyValue.parse_text_toValue_beyondSecond :
    Value.beyondSecond.Distinct ∧ Value.beyondSecond.Everywhere Value.Portable ∧
    Value.beyondSecond.nesting ≤ Json.nestingLimit ∧
    (¬ ∃ fields, (Value.object fields).Within Value.beyondSecond ∧
      Value.TagShaped ⟨true⟩ fields) ∧
    Value.beyondSecond.text = .ok "\x7b\"@ts\":\"1970-01-01T00:00:01.500Z\"\x7d" ∧
    ∃ w, LazyValue.parse ⟨true⟩ "\x7b\"@ts\":\"1970-01-01T00:00:01.500Z\"\x7d" = .ok w ∧
      w.toValue = .timestamp ⟨1, 500000000, by decide⟩ ∧ w.toValue ≠ Value.beyondSecond := by
  have hy : 0 ≤ (Instant.mk 0 1500000000 (by decide)).year ∧
      (Instant.mk 0 1500000000 (by decide)).year ≤ 9999 := by decide +kernel
  have hv : LazyValue.toValue ⟨Value.beyondSecond.node, ⟨true⟩⟩ =
      .timestamp ⟨1, 500000000, by decide⟩ := rfl
  refine ⟨trivial, (Value.everywhere_leaf rfl).mpr hy, by decide, ?_, rfl, _, rfl, hv, ?_⟩
  · rintro ⟨fields, hf, -⟩
    have he : Value.object fields = Value.beyondSecond := (Value.within_leaf rfl).mp hf
    exact Value.noConfusion he
  · intro he
    have hs := congrArg Instant.seconds (Value.timestamp.inj (hv.symm.trans he))
    exact absurd hs (by decide)

/-- Of two wrappers of older servers, decoding takes off one. -/
example : Codec.decode ⟨true⟩ (Value.object [("@obj", .object [("@obj", .object [])])]).node =
    .object [("@obj", .object [])] := rfl

end QueryWire

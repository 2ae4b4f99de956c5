/-
  The two readers agree on the kind of a node.

  A coercion of a lazy value looks at the raw node, `toValue` decodes all of
  it.  `Decodes` lists what a node can be decoded to and why; read backwards,
  it says that a special is decoded exactly where its coercion succeeds
  (`toValue_eq_ref_iff` and its kin).  Of a node that is no special, the fields
  of the value are the decoded entries of the lazy one (`object?_toValue`), and
  so are the items (`array?_toValue`).  `LazyValue.Agrees` collects these laws
  kind by kind; `LazyValue.coercions_agree` puts them beside the laws of the
  tags: at most one applies, and the order of the tests does not matter.
-/
import QueryWire.LazyValue
import QueryWire.Proofs.Wire.Tags

namespace QueryWire

open Json (Node Number)
open Calendar (Date Instant)

/-- The value is written with a tag. -/
def Value.isSpecial : Value → Bool
  | .timestamp _ => true
  | .date _ => true
  | .ref _ => true
  | .setRef _ => true
  | _ => false

/-! ## What a node is decoded to -/

/-- The node is decoded to the value, for the reason that the constructor tells. -/
inductive Decodes (codec : Codec) : Node → Value → Prop
  | null : Decodes codec .null .null
  | boolean (b : Bool) : Decodes codec (.bool b) (.boolean b)
  | integer {n : Number} {i : Int64} : n.int64? = some i → Decodes codec (.number n) (.integer i)
  | double {n : Number} : n.int64? = none → Decodes codec (.number n) (.double n.toDouble)
  | string (s : String) : Decodes codec (.string s) (.string s)
  | array (items : List Node) : Decodes codec (.array items) (.array (items.map codec.decode))
  | ref {entries : List (String × Node)} {r : Ref} :
      (Node.object entries).ref? = some r → Decodes codec (.object entries) (.ref r)
  | timestamp {entries : List (String × Node)} {t : Instant} :
      (Node.object entries).timestamp? = some t → Decodes codec (.object entries) (.timestamp t)
  | date {entries : List (String × Node)} {d : Date} :
      (Node.object entries).date? = some d → Decodes codec (.object entries) (.date d)
  | setRef {entries inner : List (String × Node)} :
      (Node.object entries).setParameters? = some inner →
        Decodes codec (.object entries) (.setRef (codec.decodeEntries inner))
  | legacy {entries inner : List (String × Node)} :
      codec.legacyEntries? (.object entries) = some inner →
        Decodes codec (.object entries) (.object (codec.decodeEntries inner))
  | object {entries : List (String × Node)} :
      (∀ m, Mark.find? codec (.object entries) m = none) →
        Decodes codec (.object entries) (.object (codec.decodeEntries entries))

theorem decodes_decode (codec : Codec) (node : Node) : Decodes codec node (codec.decode node) := by
  cases node with
  | null => exact .null
  | bool b => exact .boolean b
  | number n =>
    show Decodes codec (.number n) n.toValue
    unfold Number.toValue
    cases hi : n.int64? with
    | some i => exact .integer hi
    | none => exact .double hi
  | string s => exact .string s
  | array items =>
    rw [Codec.decode, Codec.decodeItems_eq_map]
    exact .array items
  | object entries =>
    rcases codec.decode_object_cases entries with ⟨m, f, hf, hd⟩ | ⟨hn, hd⟩
    · rw [hd]
      cases m <;> obtain ⟨x, hx, rfl⟩ := Option.map_eq_some_iff.mp hf
      · exact .ref hx
      · exact .timestamp hx
      · exact .date hx
      · exact .setRef hx
      · exact .legacy hx
    · rw [hd]
      exact .object hn

namespace LazyValue

variable {v : LazyValue}

theorem decodes_toValue (v : LazyValue) : Decodes v.codec v.node v.toValue :=
  decodes_decode v.codec v.node

theorem decodes_of_toValue_eq {w : Value} (h : v.toValue = w) : Decodes v.codec v.node w :=
  h ▸ decodes_toValue v

/-! ## Specials -/

theorem toValue_of_find? {m : Mark} {f : Finding} (h : m.find? v.codec v.node = some f) :
    v.toValue = f.value v.codec := by
  obtain ⟨content, hc⟩ := Mark.eq_object_of_find? h
  unfold toValue
  rw [hc] at h ⊢
  exact Codec.decode_of_find? h

theorem toValue_eq_ref_iff {r : Ref} : v.toValue = .ref r ↔ v.ref? = some r := by
  constructor
  · intro h
    obtain ⟨node, codec⟩ := v
    cases decodes_of_toValue_eq h with
    | ref hr => exact hr
  · intro h
    exact toValue_of_find? (m := .ref) (Option.map_eq_some_iff.mpr ⟨r, h, rfl⟩)

theorem toValue_eq_timestamp_iff {t : Instant} :
    v.toValue = .timestamp t ↔ v.timestamp? = some t := by
  constructor
  · intro h
    obtain ⟨node, codec⟩ := v
    cases decodes_of_toValue_eq h with
    | timestamp ht => exact ht
  · intro h
    exact toValue_of_find? (m := .timestamp) (Option.map_eq_some_iff.mpr ⟨t, h, rfl⟩)

theorem toValue_eq_date_iff {d : Date} : v.toValue = .date d ↔ v.date? = some d := by
  constructor
  · intro h
    obtain ⟨node, codec⟩ := v
    cases decodes_of_toValue_eq h with
    | date hd => exact hd
  · intro h
    exact toValue_of_find? (m := .date) (Option.map_eq_some_iff.mpr ⟨d, h, rfl⟩)

theorem toValue_eq_setRef_iff {parameters : List (String × Value)} :
    v.toValue = .setRef parameters ↔ v.setRef? = some parameters := by
  constructor
  · intro h
    obtain ⟨node, codec⟩ := v
    cases decodes_of_toValue_eq h with
    | setRef hs => exact Option.map_eq_some_iff.mpr ⟨_, hs, rfl⟩
  · intro h
    obtain ⟨entries, he, rfl⟩ := Option.map_eq_some_iff.mp h
    exact toValue_of_find? (m := .set) (Option.map_eq_some_iff.mpr ⟨entries, he, rfl⟩)

/-- A value is no special exactly if none of the four coercions succeeds. -/
theorem isSpecial_toValue_eq_false_iff :
    v.toValue.isSpecial = false ↔
      v.ref? = none ∧ v.timestamp? = none ∧ v.date? = none ∧ v.setRef? = none := by
  constructor
  · intro h
    refine ⟨?_, ?_, ?_, ?_⟩ <;> refine Option.eq_none_iff_forall_ne_some.mpr fun x hx => ?_
    · rw [toValue_eq_ref_iff.mpr hx] at h
      cases h
    · rw [toValue_eq_timestamp_iff.mpr hx] at h
      cases h
    · rw [toValue_eq_date_iff.mpr hx] at h
      cases h
    · rw [toValue_eq_setRef_iff.mpr hx] at h
      cases h
  · rintro ⟨hr, ht, hd, hs⟩
    cases hv : v.toValue with
    | ref r => simp [toValue_eq_ref_iff.mp hv] at hr
    | timestamp t => simp [toValue_eq_timestamp_iff.mp hv] at ht
    | date d => simp [toValue_eq_date_iff.mp hv] at hd
    | setRef ps => simp [toValue_eq_setRef_iff.mp hv] at hs
    | _ => rfl

/-! ## Objects and arrays -/

theorem legacyEntries?_eq_none {codec : Codec} {node : Node} (h : node.object? = none) :
    codec.legacyEntries? node = none := by
  simp [Codec.legacyEntries?, Node.legacyEntries?, Node.tagContent?, h]

theorem entries?_of_legacyEntries?_eq_none (h : v.codec.legacyEntries? v.node = none) :
    v.entries? = v.node.object? := by
  unfold entries?
  rw [h]

theorem entries?_of_legacyEntries? {inner : List (String × Node)}
    (h : v.codec.legacyEntries? v.node = some inner) : v.entries? = some inner := by
  unfold entries?
  rw [h]

/-- The fields of the value are the decoded entries of the lazy one, which looks
    through a wrapper at the same place. -/
theorem object?_toValue (h : v.toValue.isSpecial = false) :
    v.toValue.object? = v.entries?.map v.codec.decodeEntries := by
  obtain ⟨node, codec⟩ := v
  have hv := decodes_toValue ⟨node, codec⟩
  generalize (LazyValue.mk node codec).toValue = w at h hv ⊢
  cases hv with
  | ref _ | timestamp _ | date _ | setRef _ => cases h
  | legacy hl =>
    rw [entries?_of_legacyEntries? hl]
    rfl
  | object hn =>
    rw [entries?_of_legacyEntries?_eq_none (Option.map_eq_none_iff.mp (hn .legacy))]
    rfl
  | null | boolean _ | integer _ | double _ | string _ | array _ =>
    rw [entries?_of_legacyEntries?_eq_none (legacyEntries?_eq_none rfl)]
    rfl

/-- The items of the value are the decoded items of the lazy one. -/
theorem array?_toValue (v : LazyValue) :
    v.toValue.array? = v.node.array?.map (fun items => items.map v.codec.decode) := by
  obtain ⟨node, codec⟩ := v
  have hv := decodes_toValue ⟨node, codec⟩
  generalize (LazyValue.mk node codec).toValue = w at hv ⊢
  cases hv <;> rfl

/-! ## Agreement -/

/-- The coercions of a lazy value and the value that is decoded from it tell the
    same kind and hold the same content. -/
structure Agrees (v : LazyValue) : Prop where
  null : v.toValue = .null ↔ v.isNull = true
  boolean (b : Bool) : v.toValue = .boolean b ↔ v.bool? = some b
  number : (∃ n, v.node = .number n) ↔
    (∃ i, v.toValue = .integer i) ∨ ∃ x, v.toValue = .double x
  string (s : String) : v.toValue = .string s ↔ v.string? = some s
  timestamp (t : Instant) : v.toValue = .timestamp t ↔ v.timestamp? = some t
  date (d : Date) : v.toValue = .date d ↔ v.date? = some d
  ref (r : Ref) : v.toValue = .ref r ↔ v.ref? = some r
  setRef (parameters : List (String × Value)) :
    v.toValue = .setRef parameters ↔ v.setRef? = some parameters
  array (items : List Value) :
    v.toValue = .array items ↔ v.array?.map (fun nodes => nodes.map toValue) = some items
  object : (∃ fields, v.toValue = .object fields) ↔
    v.node.object?.isSome = true ∧
      v.ref? = none ∧ v.timestamp? = none ∧ v.date? = none ∧ v.setRef? = none
  fields (fields : List (String × Value)) :
    v.toValue = .object fields → v.object?.map (Fields.mapValues toValue) = some fields

theorem object_toValue_iff :
    (∃ fields, v.toValue = .object fields) ↔
      v.node.object?.isSome = true ∧
        v.ref? = none ∧ v.timestamp? = none ∧ v.date? = none ∧ v.setRef? = none := by
  rw [← isSpecial_toValue_eq_false_iff]
  obtain ⟨node, codec⟩ := v
  have hv := decodes_toValue ⟨node, codec⟩
  generalize (LazyValue.mk node codec).toValue = w at hv ⊢
  cases hv <;> simp [Node.object?, Value.isSpecial]

theorem scalar_toValue_iff (v : LazyValue) :
    (v.toValue = .null ↔ v.isNull = true) ∧
      (∀ b, v.toValue = .boolean b ↔ v.bool? = some b) ∧
      ((∃ n, v.node = .number n) ↔ (∃ i, v.toValue = .integer i) ∨ ∃ x, v.toValue = .double x) ∧
      ∀ s, v.toValue = .string s ↔ v.string? = some s := by
  obtain ⟨node, codec⟩ := v
  have hv := decodes_toValue ⟨node, codec⟩
  generalize (LazyValue.mk node codec).toValue = w at hv ⊢
  cases hv <;> simp [isNull, bool?, string?, Node.isNull, Node.bool?, Node.string?]

theorem map_toValue_array? (v : LazyValue) :
    v.array?.map (fun nodes => nodes.map toValue) = v.toValue.array? := by
  rw [array?_toValue, array?, Option.map_map]
  refine congrArg (v.node.array?.map ·) (funext fun items => ?_)
  exact List.map_map

theorem map_toValue_object? (v : LazyValue) :
    v.object?.map (Fields.mapValues toValue) = v.entries?.map v.codec.decodeEntries := by
  rw [object?, Option.map_map]
  refine congrArg (v.entries?.map ·) (funext fun entries => ?_)
  rw [Codec.decodeEntries_eq_mapValues]
  exact List.map_map

theorem agrees (v : LazyValue) : v.Agrees where
  null := (scalar_toValue_iff v).1
  boolean := (scalar_toValue_iff v).2.1
  number := (scalar_toValue_iff v).2.2.1
  string := (scalar_toValue_iff v).2.2.2
  timestamp _ := toValue_eq_timestamp_iff
  date _ := toValue_eq_date_iff
  ref _ := toValue_eq_ref_iff
  setRef _ := toValue_eq_setRef_iff
  array items := by
    rw [map_toValue_array?]
    cases v.toValue <;> simp [Value.array?]
  object := object_toValue_iff
  fields fields h := by
    have hs : v.toValue.isSpecial = false := by rw [h]; rfl
    rw [map_toValue_object?, ← object?_toValue hs, h]
    rfl

/-! ## Tags -/

theorem count_find?_le_one (codec : Codec) (node : Node) :
    (Mark.all.map fun m => (Mark.find? codec node m).isSome).count true ≤ 1 := by
  by_cases h : ∃ m f, Mark.find? codec node m = some f
  · obtain ⟨m, f, hm⟩ := h
    have he : ∀ n, (Mark.find? codec node n).isSome = decide (n = m) := by
      intro n
      by_cases hn : n = m
      · rw [hn, hm, decide_eq_true rfl]
        rfl
      · rw [Mark.find?_of_ne hm hn, decide_eq_false hn]
        rfl
    rw [List.map_congr_left fun n _ => he n]
    cases m <;> decide
  · have he : ∀ n, (Mark.find? codec node n).isSome = false := by
      intro n
      cases hn : Mark.find? codec node n with
      | none => rfl
      | some f => exact absurd ⟨n, f, hn⟩ h
    rw [List.map_congr_left fun n _ => he n]
    decide

/-- At most one of the tags applies to a node, so the tests can be made in any
    order, and each coercion succeeds where the decoded value is of its kind. -/
theorem coercions_agree (v : LazyValue) :
    [v.ref?.isSome, v.timestamp?.isSome, v.date?.isSome, v.setRef?.isSome,
        (v.codec.legacyEntries? v.node).isSome].count true ≤ 1 ∧
      (∀ order : List Mark, order.Perm Mark.all →
        v.codec.decodeInOrder order v.node = v.toValue) ∧
      v.Agrees := by
  refine ⟨?_, fun order ho => Codec.decodeInOrder_eq_decode ho v.node, v.agrees⟩
  have hc := count_find?_le_one v.codec v.node
  simpa only [Mark.all, Mark.find?, List.map_cons, List.map_nil, Option.isSome_map, ref?,
    timestamp?, date?, setRef?] using hc

/-- A tag inside a wrapper, a malformed date and a tag beside another key, with
    the test for the wrapper made first. -/
theorem coercions_agree_wrapper_first :
    [Mark.legacy, .set, .date, .timestamp, .ref].Perm Mark.all ∧
      Codec.decodeInOrder ⟨true⟩ [.legacy, .set, .date, .timestamp, .ref]
          (.array [.object [("@obj", .object [("@ref", .string "users/1")])],
            .object [("@date", .string "2023-02-29")],
            .object [("@set", .object [("@ts", .null)]), ("@ref", .string "users/1")]]) =
        .array [.object [("@ref", .string "users/1")], .object [("@date", .string "2023-02-29")],
          .object [("@set", .object [("@ts", .null)]), ("@ref", .string "users/1")]] := by
  have ho : [Mark.legacy, .set, .date, .timestamp, .ref].Perm Mark.all := by decide
  refine ⟨ho, ?_⟩
  rw [(coercions_agree ⟨_, ⟨true⟩⟩).2.1 _ ho]
  rfl

end LazyValue

end QueryWire

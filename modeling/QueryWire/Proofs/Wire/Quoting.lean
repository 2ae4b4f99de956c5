/-
  Trees in which every object stands in a wrapper.

  A server that quotes all data puts each object below the only key `@obj`,
  whatever its own keys are, and writes the specials with their tags.  Decoding
  takes one wrapper off and does not look at the keys inside
  (`decode_quoted_object`), so a quoted object is no special and no wrapper even
  if it looks like one.  By induction over the value, the quoted tree is decoded
  to it exactly if its instants are on the clock (`decode_quoted_iff`); a lazy
  value looks through the same wrapper (`object?_quoted`, `get?_quoted`).
-/
import QueryWire.Proofs.Wire.Navigation
import QueryWire.Proofs.Wire.RoundTrip

namespace QueryWire

open Json (Node)

/-- The node is the tree, or stands somewhere inside. -/
inductive Json.Node.Within (n : Node) : Node → Prop
  | self : Within n n
  | item {m : Node} {items : List Node} :
      m ∈ items → Within n m → Within n (.array items)
  | entry {k : String} {m : Node} {entries : List (String × Node)} :
      (k, m) ∈ entries → Within n m → Within n (.object entries)

/-! ## Quoted trees -/

namespace Value

mutual
/-- The tree of a value with each of its objects in a wrapper; the parameters of a
    set reference are no object. -/
def quoted : Value → Node
  | .array items => .array (quotedItems items)
  | .object fields => tagged legacyObjectTag (.object (quotedFields fields))
  | .setRef parameters => tagged setTag (.object (quotedFields parameters))
  | v => v.node

def quotedItems : List Value → List Node
  | [] => []
  | v :: rest => quoted v :: quotedItems rest

def quotedFields : List (String × Value) → List (String × Node)
  | [] => []
  | (k, v) :: rest => (k, quoted v) :: quotedFields rest
end

theorem quotedItems_eq_map (items : List Value) : quotedItems items = items.map quoted := by
  induction items with
  | nil => rfl
  | cons v rest ih => rw [quotedItems, ih, List.map_cons]

theorem quotedFields_eq_mapValues (fields : List (String × Value)) :
    quotedFields fields = Fields.mapValues quoted fields := by
  induction fields with
  | nil => rfl
  | cons q rest ih =>
    rw [quotedFields, ih]
    rfl

theorem quoted_leaf {v : Value} (hl : v.isLeaf = true) : v.quoted = v.node := by
  cases v with
  | array _ | object _ | setRef _ => cases hl
  | _ => rfl

/-- What stands in a value stands quoted in its quoted tree. -/
theorem within_quoted {w v : Value} (h : w.Within v) : w.quoted.Within v.quoted := by
  induction h with
  | self => exact .self
  | @item v items hv _ ih =>
    have hm : v.quoted ∈ quotedItems items := by
      rw [quotedItems_eq_map]
      exact List.mem_map_of_mem hv
    exact .item hm ih
  | @field k v fields hq _ ih =>
    have hm : (k, v.quoted) ∈ quotedFields fields := by
      rw [quotedFields_eq_mapValues]
      exact List.mem_map_of_mem hq
    exact .entry List.mem_cons_self (.entry hm ih)
  | @parameter k v parameters hq _ ih =>
    have hm : (k, v.quoted) ∈ quotedFields parameters := by
      rw [quotedFields_eq_mapValues]
      exact List.mem_map_of_mem hq
    exact .entry List.mem_cons_self (.entry hm ih)

end Value

/-! ## Decoding quoted trees -/

namespace Codec

variable {codec : Codec} {fields : List (String × Value)}

theorem decodeItems_quotedItems_iff {items : List Value} :
    codec.decodeItems (Value.quotedItems items) = items ↔
      ∀ v ∈ items, codec.decode v.quoted = v := by
  rw [decodeItems_eq_map, Value.quotedItems_eq_map, List.map_map]
  calc items.map (codec.decode ∘ Value.quoted) = items
    _ ↔ items.map (codec.decode ∘ Value.quoted) = items.map id := by rw [List.map_id]
    _ ↔ ∀ v ∈ items, codec.decode v.quoted = v := List.map_inj_left

theorem decodeEntries_quotedFields_iff :
    codec.decodeEntries (Value.quotedFields fields) = fields ↔
      ∀ q ∈ fields, codec.decode q.2.quoted = q.2 := by
  let f : String × Value → String × Value := fun q => (q.1, codec.decode q.2.quoted)
  have hf : ∀ q, f q = id q ↔ codec.decode q.2.quoted = q.2 := fun q =>
    Prod.ext_iff.trans (and_iff_right rfl)
  rw [decodeEntries_eq_mapValues, Value.quotedFields_eq_mapValues, Fields.mapValues,
    Fields.mapValues, List.map_map]
  calc fields.map f = fields
    _ ↔ fields.map f = fields.map id := by rw [List.map_id]
    _ ↔ ∀ q ∈ fields, f q = id q := List.map_inj_left
    _ ↔ ∀ q ∈ fields, codec.decode q.2.quoted = q.2 := by simp only [hf]

/-- One wrapper is taken off, and what it holds is an object. -/
theorem decode_quoted_object (ha : codec.acceptLegacyObjectTag = true)
    (fields : List (String × Value)) :
    codec.decode (Value.object fields).quoted =
      .object (codec.decodeEntries (Value.quotedFields fields)) := by
  rw [Value.quoted, tagged, decode_entry_object, if_neg (by decide), if_pos ⟨rfl, ha⟩]

theorem decode_quoted_setRef (parameters : List (String × Value)) :
    codec.decode (Value.setRef parameters).quoted =
      .setRef (codec.decodeEntries (Value.quotedFields parameters)) := by
  rw [Value.quoted, tagged, decode_entry_object, if_pos rfl]

theorem decode_quoted_iff (ha : codec.acceptLegacyObjectTag = true) {v : Value}
    (hv : v.Everywhere Value.Recoverable) :
    codec.decode v.quoted = v ↔ v.Everywhere Value.OnClock := by
  induction v using Value.induction with
  | leaf v hl =>
    rw [Value.quoted_leaf hl, Value.decode_leaf_iff hl (hv v .self), Value.everywhere_leaf hl]
  | array items ih =>
    have hi := (Value.everywhere_array.mp hv).2
    rw [Value.quoted, decode, Value.array.injEq, decodeItems_quotedItems_iff,
      Value.everywhere_array]
    exact (forall₂_congr fun v hm => ih v hm (hi v hm)).trans (and_iff_right trivial).symm
  | object fields ih =>
    have hf := (Value.everywhere_object.mp hv).2
    rw [decode_quoted_object ha, Value.object.injEq, decodeEntries_quotedFields_iff,
      Value.everywhere_object]
    exact (forall₂_congr fun q hm => ih q hm (hf q hm)).trans (and_iff_right trivial).symm
  | setRef parameters ih =>
    have hp := (Value.everywhere_setRef.mp hv).2
    rw [decode_quoted_setRef, Value.setRef.injEq, decodeEntries_quotedFields_iff,
      Value.everywhere_setRef]
    exact (forall₂_congr fun q hm => ih q hm (hp q hm)).trans (and_iff_right trivial).symm

end Codec

/-! ## Lazy values of quoted trees -/

namespace LazyValue

variable {codec : Codec}

theorem object?_quoted (ha : codec.acceptLegacyObjectTag = true)
    (fields : List (String × Value)) :
    (LazyValue.mk (Value.object fields).quoted codec).object? =
      some (Fields.mapValues (fun w => ⟨w.quoted, codec⟩) fields) := by
  have hl : codec.legacyEntries? (Value.object fields).quoted =
      some (Fields.mapValues Value.quoted fields) := by
    rw [← Value.quotedFields_eq_mapValues]
    exact Codec.legacyEntries?_eq_some_iff.mpr ⟨ha, rfl⟩
  rw [object?, entries?_of_legacyEntries? hl, Option.map_some, Fields.mapValues, Fields.mapValues,
    List.map_map]
  rfl

theorem get?_quoted (ha : codec.acceptLegacyObjectTag = true) (fields : List (String × Value))
    (k : String) :
    (LazyValue.mk (Value.object fields).quoted codec).get? (.key k) =
      (Fields.get? k fields).map (fun w => ⟨w.quoted, codec⟩) := by
  rw [Value.quoted, Value.quotedFields_eq_mapValues]
  refine (get?_wrapper ha _ k).1.trans ?_
  rw [Fields.get?_mapValues, Option.map_map]
  rfl

/-- A quoted tree is decoded to the value it was made of, whatever the keys of its
    objects are, exactly if its instants are on the clock.  At each object of the
    value, the lazy value of the quoted node has the fields of the object, in their
    order, and steps to them. -/
theorem toValue_quoted {codec : Codec} (ha : codec.acceptLegacyObjectTag = true) {v : Value}
    (hv : v.Everywhere Value.Recoverable) :
    (codec.decode v.quoted = v ↔ v.Everywhere Value.OnClock) ∧
      ∀ fields, (Value.object fields).Within v →
        (Value.object fields).quoted.Within v.quoted ∧
        (LazyValue.mk (Value.object fields).quoted codec).object? =
          some (Fields.mapValues (fun w => ⟨w.quoted, codec⟩) fields) ∧
        ∀ k, (LazyValue.mk (Value.object fields).quoted codec).get? (.key k) =
          (Fields.get? k fields).map (fun w => ⟨w.quoted, codec⟩) :=
  ⟨Codec.decode_quoted_iff ha hv, fun fields hf =>
    ⟨Value.within_quoted hf, object?_quoted ha fields, get?_quoted ha fields⟩⟩

/-- An object that looks like a wrapper around a reference, beside a reference, and
    a set reference whose parameter looks like a wrapper of nothing. -/
def lookalikes : Value :=
  .array [.object [("@obj", .object [("@ref", .string "users/1")])], .ref ⟨"users/1"⟩,
    .setRef [("@obj", .object [("@obj", .object [])])],
    .timestamp ⟨1483228799, 1500000000, by decide⟩]

theorem toValue_quoted_lookalikes :
    Codec.decode ⟨true⟩ lookalikes.quoted = lookalikes ∧
      (LazyValue.mk (Value.object [("@obj", .object [("@ref", .string "users/1")])]).quoted
          ⟨true⟩).get? (.key "@obj") =
        some ⟨(Value.object [("@ref", .string "users/1")]).quoted, ⟨true⟩⟩ ∧
      (LazyValue.mk (Value.object [("@obj", .object [("@ref", .string "users/1")])]).quoted
          ⟨true⟩).get? (.key "@ref") = none := by
  have hs : ∀ {p : Value → Prop} {s}, Value.Everywhere p (.string s) ↔ p (.string s) :=
    Value.everywhere_leaf rfl
  have ht : ∀ {p : Value → Prop} {t}, Value.Everywhere p (.timestamp t) ↔ p (.timestamp t) :=
    Value.everywhere_leaf rfl
  have hr : ∀ {p : Value → Prop} {r}, Value.Everywhere p (.ref r) ↔ p (.ref r) :=
    Value.everywhere_leaf rfl
  have hy : 0 ≤ (Calendar.Instant.mk 1483228799 1500000000 (by decide)).year ∧
      (Calendar.Instant.mk 1483228799 1500000000 (by decide)).year ≤ 9999 := by decide +kernel
  have ho : (Calendar.Instant.mk 1483228799 1500000000 (by decide)).OnClock := by decide
  have hv : lookalikes.Everywhere Value.Recoverable := by
    simp [lookalikes, Value.everywhere_array, Value.everywhere_object, Value.everywhere_setRef,
      Value.Recoverable, hs, ht, hr, hy]
  have hc : lookalikes.Everywhere Value.OnClock := by
    simp [lookalikes, Value.everywhere_array, Value.everywhere_object, Value.everywhere_setRef,
      Value.OnClock, hs, ht, hr, ho]
  have hw : (Value.object [("@obj", .object [("@ref", .string "users/1")])]).Within lookalikes :=
    .item List.mem_cons_self .self
  obtain ⟨hd, h⟩ := @toValue_quoted ⟨true⟩ rfl lookalikes hv
  exact ⟨hd.mpr hc, (h _ hw).2.2 "@obj", (h _ hw).2.2 "@ref"⟩

/-- In an object, too, an instant within the next second comes back. -/
theorem toValue_quoted_beyondSecond :
    (Value.object [("@ts", .beyondSecond)]).Everywhere Value.Recoverable ∧
    Codec.decode ⟨true⟩ (Value.object [("@ts", .beyondSecond)]).quoted =
      .object [("@ts", .timestamp ⟨1, 500000000, by decide⟩)] ∧
    Codec.decode ⟨true⟩ (Value.object [("@ts", .beyondSecond)]).quoted ≠
      .object [("@ts", .beyondSecond)] := by
  have hy : 0 ≤ (Calendar.Instant.mk 0 1500000000 (by decide)).year ∧
      (Calendar.Instant.mk 0 1500000000 (by decide)).year ≤ 9999 := by decide +kernel
  have hv : Codec.decode ⟨true⟩ (Value.object [("@ts", .beyondSecond)]).quoted =
      .object [("@ts", .timestamp ⟨1, 500000000, by decide⟩)] := rfl
  refine ⟨?_, hv, fun he => ?_⟩
  · exact Value.everywhere_object.mpr
      ⟨trivial, List.forall_mem_singleton.mpr ((Value.everywhere_leaf rfl).mpr hy)⟩
  · have hentry := (List.cons.inj (Value.object.inj (hv.symm.trans he))).1
    have hs := congrArg Calendar.Instant.seconds (Value.timestamp.inj (Prod.mk.inj hentry).2)
    exact absurd hs (by decide)

end LazyValue

end QueryWire

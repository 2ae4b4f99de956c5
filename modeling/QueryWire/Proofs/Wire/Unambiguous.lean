/-
  Escaped data is unambiguous on the wire.

  What is sent for a value is the tree of its escaped form, in which every
  object has a wrapper, apart from the parameters of set references, which are
  sent as they are.  `sentNode` covers both, and the induction goes back and
  forth between them.  The tree tells the kind of the value (`kind_sentNode`)
  as long as no object without a wrapper looks like a special (`Legible`), so
  values with one tree are one value (`sentNode_injective`), and with
  `Node.text_injective` so are values with one text (`escape_text_injective`).
  This is as far as texts tell instants apart (`InstantsApart`); of instants that
  a clock shows they do (`instantsApart_of_onClock`).
-/
import QueryWire.Proofs.Calendar.InstantText
import QueryWire.Proofs.Wire.Encoding

namespace QueryWire

open Json (Node Number)
open Calendar (Date Instant)

namespace Value

/-! ## What is sent -/

/-- The tree that is sent for a value, with its objects wrapped or as they are. -/
def sentNode (wrapped : Bool) (v : Value) : Node :=
  (if wrapped then v.escaped else v).node

theorem sentNode_array (wrapped : Bool) (items : List Value) :
    sentNode wrapped (.array items) = .array (items.map (sentNode wrapped)) := by
  cases wrapped with
  | false => exact congrArg Node.array (nodes_eq_map items)
  | true =>
    show Node.array (nodes (escapedItems items)) = _
    rw [escapedItems_eq_map, nodes_eq_map, List.map_map]
    rfl

theorem sentNode_object_bare (fields : List (String × Value)) :
    sentNode false (.object fields) = .object (Fields.mapValues (sentNode false) fields) :=
  congrArg Node.object (entries_eq_mapValues fields)

theorem sentNode_object_wrapped (fields : List (String × Value)) :
    sentNode true (.object fields) =
      tagged objectKey (.object (Fields.mapValues (sentNode true) fields)) := by
  show tagged objectKey (.object (entries (escapedFields fields))) = _
  rw [escapedFields_eq_mapValues, entries_eq_mapValues, Fields.mapValues, Fields.mapValues,
    List.map_map]
  rfl

theorem sentNode_setRef (wrapped : Bool) (parameters : List (String × Value)) :
    sentNode wrapped (.setRef parameters) =
      tagged setTag (.object (Fields.mapValues (sentNode false) parameters)) := by
  cases wrapped <;>
    exact congrArg (fun es => tagged setTag (.object es)) (entries_eq_mapValues parameters)

theorem sentNode_integer (wrapped : Bool) (n : Int64) :
    sentNode wrapped (.integer n) = .number (.ofInt64 n) := by
  cases wrapped <;> rfl

theorem sentNode_double (wrapped : Bool) {x : Binary64} (h : x.isFinite = true) :
    sentNode wrapped (.double x) = .number (.float x h) := by
  cases wrapped <;> exact dif_pos h

/-! ## Objects that look like specials -/

/-- The fields are one, and its key is the tag of a special. -/
def TagKeyed : List (String × Value) → Prop
  | [(k, _)] => k = refTag ∨ k = setTag ∨ k = timestampTag ∨ k = dateTag
  | _ => False

/-- A value is not an object with a tag as its only key. -/
def Untagged : Value → Prop
  | .object fields => ¬ TagKeyed fields
  | _ => True

/-- If a value is a set reference, no such object stands in its parameters. -/
def UntaggedParameters : Value → Prop
  | .setRef parameters => ∀ q ∈ parameters, q.2.Everywhere Untagged
  | _ => True

/-- No object that is sent without a wrapper has a tag as its only key. -/
def Legible (wrapped : Bool) (v : Value) : Prop :=
  v.Everywhere (if wrapped then UntaggedParameters else Untagged)

theorem Legible.items {wrapped : Bool} {items : List Value} (h : Legible wrapped (.array items)) :
    ∀ v ∈ items, Legible wrapped v :=
  (everywhere_array.mp h).2

theorem Legible.fields {wrapped : Bool} {fields : List (String × Value)}
    (h : Legible wrapped (.object fields)) : ∀ q ∈ fields, Legible wrapped q.2 :=
  (everywhere_object.mp h).2

theorem Legible.parameters {wrapped : Bool} {parameters : List (String × Value)}
    (h : Legible wrapped (.setRef parameters)) : ∀ q ∈ parameters, Legible false q.2 := by
  cases wrapped with
  | false => exact (everywhere_setRef.mp h).2
  | true => exact (everywhere_setRef.mp h).1

/-! ## Instants that look the same -/

/-- An instant of the one value and another one of the other value have two texts. -/
def InstantsApart (v w : Value) : Prop :=
  ∀ s t, (Value.timestamp s).Within v → (Value.timestamp t).Within w → s.text = t.text → s = t

theorem instantsApart_of_onClock {v w : Value} (hv : v.Everywhere OnClock)
    (hw : w.Everywhere OnClock) : InstantsApart v w :=
  fun _ _ hs ht h => Instant.eq_of_text_eq (hv _ hs) (hw _ ht) h

theorem InstantsApart.items {xs ys : List Value} (h : InstantsApart (.array xs) (.array ys)) :
    ∀ v ∈ xs, ∀ w ∈ ys, InstantsApart v w :=
  fun _ hv _ hw s t hs ht => h s t (.item hv hs) (.item hw ht)

theorem InstantsApart.fields {xs ys : List (String × Value)}
    (h : InstantsApart (.object xs) (.object ys)) :
    ∀ p ∈ xs, ∀ q ∈ ys, InstantsApart p.2 q.2 :=
  fun _ hp _ hq s t hs ht => h s t (.field hp hs) (.field hq ht)

theorem InstantsApart.parameters {xs ys : List (String × Value)}
    (h : InstantsApart (.setRef xs) (.setRef ys)) :
    ∀ p ∈ xs, ∀ q ∈ ys, InstantsApart p.2 q.2 :=
  fun _ hp _ hq s t hs ht => h s t (.parameter hp hs) (.parameter hq ht)

end Value

/-! ## Kinds -/

/-- The kind of the value for which a node is sent. -/
def Json.Node.kind : Node → String
  | .null => "null"
  | .bool _ => "boolean"
  | .number (.float _ _) => "double"
  | .number _ => "integer"
  | .string _ => "string"
  | .array _ => "array"
  | .object [(k, _)] =>
    if k = refTag then "ref"
    else if k = setTag then "set"
    else if k = timestampTag then "timestamp"
    else if k = dateTag then "date"
    else "object"
  | .object _ => "object"

namespace Value

theorem kind_sentNode {wrapped : Bool} {v : Value} (hf : v.Everywhere IsFinite)
    (hl : Legible wrapped v) : (sentNode wrapped v).kind = v.kind := by
  cases v with
  | integer n =>
    rw [sentNode_integer, Number.ofInt64]
    split <;> rfl
  | double x =>
    have hx : x.isFinite = true := hf _ .self
    rw [sentNode_double wrapped hx]
    rfl
  | array items =>
    rw [sentNode_array]
    rfl
  | setRef parameters =>
    rw [sentNode_setRef]
    rfl
  | object fields =>
    cases wrapped with
    | true =>
      rw [sentNode_object_wrapped]
      rfl
    | false =>
      have hu : ¬ TagKeyed fields := hl _ .self
      rw [sentNode_object_bare]
      rcases fields with _ | ⟨⟨k, w⟩, _ | ⟨q, rest⟩⟩
      · rfl
      · simp only [TagKeyed, not_or] at hu
        obtain ⟨hr, hs, ht, hd⟩ := hu
        show (if k = refTag then "ref" else if k = setTag then "set"
          else if k = timestampTag then "timestamp" else if k = dateTag then "date"
          else "object") = "object"
        rw [if_neg hr, if_neg hs, if_neg ht, if_neg hd]
      · rfl
  | null | boolean b | string s | timestamp t | date d | ref r => cases wrapped <;> rfl

theorem kind_eq {wrapped : Bool} {v w : Value} (hf : v.Everywhere IsFinite)
    (hg : w.Everywhere IsFinite) (hl : Legible wrapped v) (hm : Legible wrapped w)
    (h : sentNode wrapped v = sentNode wrapped w) : v.kind = w.kind := by
  rw [← kind_sentNode hf hl, h, kind_sentNode hg hm]

/-! ## One tree, one value -/

theorem ofInt64_injective {m n : Int64} (h : Number.ofInt64 m = Number.ofInt64 n) : m = n := by
  unfold Number.ofInt64 at h
  by_cases hm : m < 0 <;> by_cases hn : n < 0
  · rw [dif_pos hm, dif_pos hn] at h
    exact (Number.negative.inj h)
  · rw [dif_pos hm, dif_neg hn] at h
    cases h
  · rw [dif_neg hm, dif_pos hn] at h
    cases h
  · rw [dif_neg hm, dif_neg hn] at h
    rw [← Int64.toInt64_toUInt64 m, Number.natural.inj h, Int64.toInt64_toUInt64]

theorem tagged_inj {tag tag' : String} {content content' : Node}
    (h : tagged tag content = tagged tag' content') : tag = tag' ∧ content = content' := by
  cases h
  exact ⟨rfl, rfl⟩

theorem mapValues_cons (f : Value → Node) (k : String) (v : Value)
    (rest : List (String × Value)) :
    Fields.mapValues f ((k, v) :: rest) = (k, f v) :: Fields.mapValues f rest :=
  rfl

mutual
theorem sentNode_injective : (wrapped : Bool) → (v w : Value) → v.Everywhere IsFinite →
    w.Everywhere IsFinite → Legible wrapped v → Legible wrapped w → InstantsApart v w →
    sentNode wrapped v = sentNode wrapped w → v = w
  | wrapped, .null, w, hf, hg, hl, hm, ha, h => by
    have hk := kind_eq hf hg hl hm h
    cases w with
    | null => rfl
    | _ => simp [kind] at hk
  | wrapped, .boolean a, w, hf, hg, hl, hm, ha, h => by
    have hk := kind_eq hf hg hl hm h
    cases w with
    | boolean b =>
      have hb : Node.bool a = .bool b := by cases wrapped <;> exact h
      cases hb
      rfl
    | _ => simp [kind] at hk
  | wrapped, .integer m, w, hf, hg, hl, hm, ha, h => by
    have hk := kind_eq hf hg hl hm h
    cases w with
    | integer n =>
      rw [sentNode_integer, sentNode_integer] at h
      rw [ofInt64_injective (Node.number.inj h)]
    | _ => simp [kind] at hk
  | wrapped, .double x, w, hf, hg, hl, hm, ha, h => by
    have hk := kind_eq hf hg hl hm h
    cases w with
    | double y =>
      rw [sentNode_double wrapped (hf _ .self), sentNode_double wrapped (hg _ .self)] at h
      cases h
      rfl
    | _ => simp [kind] at hk
  | wrapped, .string s, w, hf, hg, hl, hm, ha, h => by
    have hk := kind_eq hf hg hl hm h
    cases w with
    | string t =>
      have hs : Node.string s = .string t := by cases wrapped <;> exact h
      cases hs
      rfl
    | _ => simp [kind] at hk
  | wrapped, .timestamp t, w, hf, hg, hl, hm, ha, h => by
    have hk := kind_eq hf hg hl hm h
    cases w with
    | timestamp u =>
      have ht : tagged timestampTag (.string t.text) = tagged timestampTag (.string u.text) := by
        cases wrapped <;> exact h
      rw [ha t u .self .self (Node.string.inj (tagged_inj ht).2)]
    | _ => simp [kind] at hk
  | wrapped, .date d, w, hf, hg, hl, hm, ha, h => by
    have hk := kind_eq hf hg hl hm h
    cases w with
    | date e =>
      have hd : tagged dateTag (.string d.text) = tagged dateTag (.string e.text) := by
        cases wrapped <;> exact h
      rw [Date.text_injective (Node.string.inj (tagged_inj hd).2)]
    | _ => simp [kind] at hk
  | wrapped, .array xs, w, hf, hg, hl, hm, ha, h => by
    have hk := kind_eq hf hg hl hm h
    cases w with
    | array ys =>
      rw [sentNode_array, sentNode_array] at h
      rw [sentItems_injective wrapped xs ys (everywhere_array.mp hf).2 (everywhere_array.mp hg).2
        hl.items hm.items ha.items (Node.array.inj h)]
    | _ => simp [kind] at hk
  | wrapped, .object xs, w, hf, hg, hl, hm, ha, h => by
    have hk := kind_eq hf hg hl hm h
    cases w with
    | object ys =>
      have he : Fields.mapValues (sentNode wrapped) xs = Fields.mapValues (sentNode wrapped) ys := by
        cases wrapped with
        | false =>
          rw [sentNode_object_bare, sentNode_object_bare] at h
          exact Node.object.inj h
        | true =>
          rw [sentNode_object_wrapped, sentNode_object_wrapped] at h
          exact Node.object.inj (tagged_inj h).2
      rw [sentFields_injective wrapped xs ys (everywhere_object.mp hf).2
        (everywhere_object.mp hg).2 hl.fields hm.fields ha.fields he]
    | _ => simp [kind] at hk
  | wrapped, .ref r, w, hf, hg, hl, hm, ha, h => by
    have hk := kind_eq hf hg hl hm h
    cases w with
    | ref q =>
      have hr : tagged refTag (.string r.path) = tagged refTag (.string q.path) := by
        cases wrapped <;> exact h
      exact congrArg Value.ref (congrArg Ref.mk (Node.string.inj (tagged_inj hr).2))
    | _ => simp [kind] at hk
  | wrapped, .setRef xs, w, hf, hg, hl, hm, ha, h => by
    have hk := kind_eq hf hg hl hm h
    cases w with
    | setRef ys =>
      rw [sentNode_setRef, sentNode_setRef] at h
      rw [sentFields_injective false xs ys (everywhere_setRef.mp hf).2 (everywhere_setRef.mp hg).2
        hl.parameters hm.parameters ha.parameters (Node.object.inj (tagged_inj h).2)]
    | _ => simp [kind] at hk

theorem sentItems_injective : (wrapped : Bool) → (xs ys : List Value) →
    (∀ v ∈ xs, v.Everywhere IsFinite) → (∀ v ∈ ys, v.Everywhere IsFinite) →
    (∀ v ∈ xs, Legible wrapped v) → (∀ v ∈ ys, Legible wrapped v) →
    (∀ v ∈ xs, ∀ w ∈ ys, InstantsApart v w) →
    xs.map (sentNode wrapped) = ys.map (sentNode wrapped) → xs = ys
  | _, [], [], _, _, _, _, _, _ => rfl
  | _, [], _ :: _, _, _, _, _, _, h => by cases h
  | _, _ :: _, [], _, _, _, _, _, h => by cases h
  | wrapped, x :: xs, y :: ys, hf, hg, hl, hm, ha, h => by
    rw [List.forall_mem_cons] at hf hg hl hm
    have hxy := ha x List.mem_cons_self y List.mem_cons_self
    have hrest : ∀ v ∈ xs, ∀ w ∈ ys, InstantsApart v w := fun v hv w hw =>
      ha v (List.mem_cons_of_mem _ hv) w (List.mem_cons_of_mem _ hw)
    rw [List.map_cons, List.map_cons, List.cons.injEq] at h
    rw [sentNode_injective wrapped x y hf.1 hg.1 hl.1 hm.1 hxy h.1,
      sentItems_injective wrapped xs ys hf.2 hg.2 hl.2 hm.2 hrest h.2]

theorem sentFields_injective : (wrapped : Bool) → (xs ys : List (String × Value)) →
    (∀ q ∈ xs, q.2.Everywhere IsFinite) → (∀ q ∈ ys, q.2.Everywhere IsFinite) →
    (∀ q ∈ xs, Legible wrapped q.2) → (∀ q ∈ ys, Legible wrapped q.2) →
    (∀ p ∈ xs, ∀ q ∈ ys, InstantsApart p.2 q.2) →
    Fields.mapValues (sentNode wrapped) xs = Fields.mapValues (sentNode wrapped) ys → xs = ys
  | _, [], [], _, _, _, _, _, _ => rfl
  | _, [], _ :: _, _, _, _, _, _, h => by cases h
  | _, _ :: _, [], _, _, _, _, _, h => by cases h
  | wrapped, (j, x) :: xs, (k, y) :: ys, hf, hg, hl, hm, ha, h => by
    rw [List.forall_mem_cons] at hf hg hl hm
    have hxy := ha (j, x) List.mem_cons_self (k, y) List.mem_cons_self
    have hrest : ∀ p ∈ xs, ∀ q ∈ ys, InstantsApart p.2 q.2 := fun p hp q hq =>
      ha p (List.mem_cons_of_mem _ hp) q (List.mem_cons_of_mem _ hq)
    rw [mapValues_cons, mapValues_cons, List.cons.injEq, Prod.mk.injEq] at h
    obtain ⟨⟨rfl, hx⟩, hr⟩ := h
    rw [sentNode_injective wrapped x y hf.1 hg.1 hl.1 hm.1 hxy hx,
      sentFields_injective wrapped xs ys hf.2 hg.2 hl.2 hm.2 hrest hr]
end

end Value

/-! ## Requests -/

/-- Values that are sent as one text are one value, as far as texts tell their
    instants apart. -/
theorem Expr.escape_text_injective {v w : Value} (hv : v.Everywhere Value.IsFinite)
    (hw : w.Everywhere Value.IsFinite) (hpv : v.Everywhere Value.UntaggedParameters)
    (hpw : w.Everywhere Value.UntaggedParameters) (ha : Value.InstantsApart v w) :
    ∃ s t, (Expr.escape v).text = .ok s ∧ (Expr.escape w).text = .ok t ∧ (s = t → v = w) := by
  have hs : (Expr.escape v).text = .ok (Value.sentNode true v).text :=
    Value.text_eq (Value.isFinite_escaped v hv)
  have ht : (Expr.escape w).text = .ok (Value.sentNode true w).text :=
    Value.text_eq (Value.isFinite_escaped w hw)
  refine ⟨_, _, hs, ht, fun h => ?_⟩
  exact Value.sentNode_injective true v w hv hw hpv hpw ha (Node.text_injective h)

/-- A literal object in the place of the reference that it spells, below keys that
    spell forms, and beside a leap second. -/
def Value.reserved (spelled : Bool) : Value :=
  .object [("object", if spelled then .object [("@ref", .string "users/1")] else .ref ⟨"users/1"⟩),
    ("@set", .setRef [("match", .array [.double ⟨0x3FF8000000000000⟩,
      .timestamp ⟨1435708799, 1500000000, by decide⟩])])]

theorem Expr.escape_text_reserved :
    ∃ s t, (Expr.escape (Value.reserved true)).text = .ok s ∧
      (Expr.escape (Value.reserved false)).text = .ok t ∧ s ≠ t := by
  have hs : ∀ {p : Value → Prop} {s}, Value.Everywhere p (.string s) ↔ p (.string s) :=
    Value.everywhere_leaf rfl
  have hr : ∀ {p : Value → Prop} {r}, Value.Everywhere p (.ref r) ↔ p (.ref r) :=
    Value.everywhere_leaf rfl
  have hd : ∀ {p : Value → Prop} {x}, Value.Everywhere p (.double x) ↔ p (.double x) :=
    Value.everywhere_leaf rfl
  have ht : ∀ {p : Value → Prop} {t}, Value.Everywhere p (.timestamp t) ↔ p (.timestamp t) :=
    Value.everywhere_leaf rfl
  have hx : Binary64.isFinite ⟨0x3FF8000000000000⟩ = true := rfl
  have hk : (Instant.mk 1435708799 1500000000 (by decide)).OnClock := by decide
  have hfinite : ∀ spelled, (Value.reserved spelled).Everywhere Value.IsFinite := by
    intro spelled
    cases spelled <;> simp [Value.reserved, Value.everywhere_object, Value.everywhere_setRef,
      Value.everywhere_array, Value.IsFinite, hs, hr, hd, ht, hx]
  have huntagged : ∀ spelled, (Value.reserved spelled).Everywhere Value.UntaggedParameters := by
    intro spelled
    cases spelled <;> simp [Value.reserved, Value.everywhere_object, Value.everywhere_setRef,
      Value.everywhere_array, Value.UntaggedParameters, Value.Untagged, hs, hr, hd, ht]
  have hclock : ∀ spelled, (Value.reserved spelled).Everywhere Value.OnClock := by
    intro spelled
    cases spelled <;> simp [Value.reserved, Value.everywhere_object, Value.everywhere_setRef,
      Value.everywhere_array, Value.OnClock, hs, hr, hd, ht, hk]
  obtain ⟨s, t, hs', ht', h⟩ := @Expr.escape_text_injective (Value.reserved true)
    (Value.reserved false) (hfinite true) (hfinite false) (huntagged true) (huntagged false)
    (Value.instantsApart_of_onClock (hclock true) (hclock false))
  refine ⟨s, t, hs', ht', fun he => ?_⟩
  have hv : Value.reserved true = Value.reserved false := h he
  unfold Value.reserved at hv
  cases hv

/-- In the parameters of a set reference nothing is wrapped, and there the two
    are sent alike. -/
example : (Expr.escape (.setRef [("match", .object [("@ref", .string "users/1")])])).text =
    (Expr.escape (.setRef [("match", .ref ⟨"users/1"⟩)])).text := rfl

end QueryWire

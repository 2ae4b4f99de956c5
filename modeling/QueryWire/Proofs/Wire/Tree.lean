/-
  Values and their trees on the wire.

  `Within` says that a value occurs in another one, at any depth and also in the
  parameters of a set reference; a property of everything in a value is one of
  its parts and of what they hold (`everywhere_array` and its kin).  The tree of
  a value, `node`, opens as many brackets as `nesting` counts and repeats a key
  only where the value does.  `Value.induction` is the induction that knows
  leaves, lists and fields.
-/
import QueryWire.Proofs.Calendar.Clock
import QueryWire.Proofs.Json.DocumentText
import QueryWire.Value.Tagged

namespace QueryWire.Value

open Json (Node Number)

/-! ## Occurrences -/

/-- `w` is the value, or stands somewhere inside. -/
inductive Within (w : Value) : Value → Prop
  | self : Within w w
  | item {v : Value} {items : List Value} :
      v ∈ items → Within w v → Within w (.array items)
  | field {k : String} {v : Value} {fields : List (String × Value)} :
      (k, v) ∈ fields → Within w v → Within w (.object fields)
  | parameter {k : String} {v : Value} {parameters : List (String × Value)} :
      (k, v) ∈ parameters → Within w v → Within w (.setRef parameters)

/-- The property holds of the value and of all that it holds. -/
def Everywhere (p : Value → Prop) (v : Value) : Prop :=
  ∀ w, w.Within v → p w

/-- The value holds no other values. -/
def isLeaf : Value → Bool
  | .array _ => false
  | .object _ => false
  | .setRef _ => false
  | _ => true

/-- Induction over what a value holds. -/
@[elab_as_elim]
theorem induction {P : Value → Prop} (leaf : ∀ v, v.isLeaf = true → P v)
    (array : ∀ items, (∀ v ∈ items, P v) → P (.array items))
    (object : ∀ fields, (∀ q ∈ fields, P q.2) → P (.object fields))
    (setRef : ∀ parameters, (∀ q ∈ parameters, P q.2) → P (.setRef parameters)) (v : Value) :
    P v :=
  @Value.rec P (fun items => ∀ v ∈ items, P v) (fun fields => ∀ q ∈ fields, P q.2)
    (fun q => P q.2)
    (leaf _ rfl) (fun _ => leaf _ rfl) (fun _ => leaf _ rfl) (fun _ => leaf _ rfl)
    (fun _ => leaf _ rfl) (fun _ => leaf _ rfl) (fun _ => leaf _ rfl)
    array object (fun _ => leaf _ rfl) setRef
    (List.forall_mem_nil _) (fun _ _ hv hr => List.forall_mem_cons.mpr ⟨hv, hr⟩)
    (List.forall_mem_nil _) (fun _ _ hq hr => List.forall_mem_cons.mpr ⟨hq, hr⟩)
    (fun _ _ hv => hv) v

section

variable {w : Value} {p : Value → Prop}

theorem within_leaf {v : Value} (hl : v.isLeaf = true) : w.Within v ↔ w = v := by
  constructor
  · intro h
    cases h with
    | self => rfl
    | item _ _ => cases hl
    | field _ _ => cases hl
    | parameter _ _ => cases hl
  · rintro rfl
    exact .self

theorem within_array {items : List Value} :
    w.Within (.array items) ↔ w = .array items ∨ ∃ v ∈ items, w.Within v := by
  constructor
  · intro h
    cases h with
    | self => exact Or.inl rfl
    | item hv hw => exact Or.inr ⟨_, hv, hw⟩
  · rintro (rfl | ⟨v, hv, hw⟩)
    · exact .self
    · exact .item hv hw

theorem within_object {fields : List (String × Value)} :
    w.Within (.object fields) ↔ w = .object fields ∨ ∃ q ∈ fields, w.Within q.2 := by
  constructor
  · intro h
    cases h with
    | self => exact Or.inl rfl
    | field hq hw => exact Or.inr ⟨_, hq, hw⟩
  · rintro (rfl | ⟨q, hq, hw⟩)
    · exact .self
    · exact @Within.field w q.1 q.2 fields hq hw

theorem within_setRef {parameters : List (String × Value)} :
    w.Within (.setRef parameters) ↔ w = .setRef parameters ∨ ∃ q ∈ parameters, w.Within q.2 := by
  constructor
  · intro h
    cases h with
    | self => exact Or.inl rfl
    | parameter hq hw => exact Or.inr ⟨_, hq, hw⟩
  · rintro (rfl | ⟨q, hq, hw⟩)
    · exact .self
    · exact @Within.parameter w q.1 q.2 parameters hq hw

theorem everywhere_leaf {v : Value} (hl : v.isLeaf = true) : v.Everywhere p ↔ p v := by
  simp only [Everywhere, within_leaf hl, forall_eq]

theorem everywhere_array {items : List Value} :
    Everywhere p (.array items) ↔ p (.array items) ∧ ∀ v ∈ items, v.Everywhere p := by
  simp only [Everywhere, within_array, forall_eq_or_imp, forall_exists_index, and_imp]
  exact and_congr_right fun _ => ⟨fun h v hv w => h w v hv, fun h w v hv => h v hv w⟩

theorem everywhere_object {fields : List (String × Value)} :
    Everywhere p (.object fields) ↔ p (.object fields) ∧ ∀ q ∈ fields, q.2.Everywhere p := by
  simp only [Everywhere, within_object, forall_eq_or_imp, forall_exists_index, and_imp]
  exact and_congr_right fun _ => ⟨fun h q hq w => h w q hq, fun h w q hq => h q hq w⟩

theorem everywhere_setRef {parameters : List (String × Value)} :
    Everywhere p (.setRef parameters) ↔
      p (.setRef parameters) ∧ ∀ q ∈ parameters, q.2.Everywhere p := by
  simp only [Everywhere, within_setRef, forall_eq_or_imp, forall_exists_index, and_imp]
  exact and_congr_right fun _ => ⟨fun h q hq w => h w q hq, fun h w q hq => h q hq w⟩

theorem Everywhere.imp {q : Value → Prop} {v : Value} (hv : v.Everywhere p)
    (h : ∀ w, p w → q w) : v.Everywhere q :=
  fun w hw => h w (hv w hw)

end

/-- An instant is one that a clock shows; all else is in order. -/
def OnClock : Value → Prop
  | .timestamp t => t.OnClock
  | _ => True

/-! ## Trees -/

/-- A double is finite; all else is in order. -/
def IsFinite : Value → Prop
  | .double x => x.isFinite = true
  | _ => True

mutual
/-- The tree of a value.  JSON has no tree for a double that is not finite;
    here it is taken for null. -/
def node : Value → Node
  | .null => .null
  | .boolean b => .bool b
  | .integer n => .number (.ofInt64 n)
  | .double x => if h : x.isFinite = true then .number (.float x h) else .null
  | .string s => .string s
  | .timestamp t => tagged timestampTag (.string t.text)
  | .date d => tagged dateTag (.string d.text)
  | .array items => .array (nodes items)
  | .object fields => .object (entries fields)
  | .ref r => tagged refTag (.string r.path)
  | .setRef parameters => tagged setTag (.object (entries parameters))

def nodes : List Value → List Node
  | [] => []
  | v :: rest => node v :: nodes rest

def entries : List (String × Value) → List (String × Node)
  | [] => []
  | (k, v) :: rest => (k, node v) :: entries rest
end

theorem nodes_eq_map (items : List Value) : nodes items = items.map node := by
  induction items with
  | nil => rfl
  | cons v rest ih => rw [nodes, ih, List.map_cons]

theorem entries_eq_mapValues (fields : List (String × Value)) :
    entries fields = Fields.mapValues node fields := by
  induction fields with
  | nil => rfl
  | cons q rest ih =>
    rw [entries, ih]
    rfl

/-! ## Brackets -/

mutual
/-- The most brackets that are open at the same time in the JSON text of a
    value; the tags of the specials open some, too. -/
def nesting : Value → Nat
  | .array items => nestingItems items + 1
  | .object fields => nestingFields fields + 1
  | .setRef parameters => nestingFields parameters + 2
  | .timestamp _ => 1
  | .date _ => 1
  | .ref _ => 1
  | _ => 0

def nestingItems : List Value → Nat
  | [] => 0
  | v :: rest => max (nesting v) (nestingItems rest)

def nestingFields : List (String × Value) → Nat
  | [] => 0
  | (_, v) :: rest => max (nesting v) (nestingFields rest)
end

theorem nesting_tagged (tag : String) (content : Node) :
    (tagged tag content).nesting = content.nesting + 1 := by
  rw [tagged, Node.nesting, Node.nestingEntries, Node.nestingEntries, Nat.max_zero]

mutual
theorem nesting_node : (v : Value) → v.node.nesting = v.nesting
  | .null => rfl
  | .boolean _ => rfl
  | .integer _ => rfl
  | .double x => by
    rw [node]
    split <;> rfl
  | .string _ => rfl
  | .timestamp _ => nesting_tagged _ _
  | .date _ => nesting_tagged _ _
  | .array items => congrArg (· + 1) (nestingItems_nodes items)
  | .object fields => congrArg (· + 1) (nestingEntries_entries fields)
  | .ref _ => nesting_tagged _ _
  | .setRef parameters =>
    (nesting_tagged _ _).trans (congrArg (· + 2) (nestingEntries_entries parameters))

theorem nestingItems_nodes : (items : List Value) →
    Node.nestingItems (nodes items) = nestingItems items
  | [] => rfl
  | v :: rest => by
    rw [nodes, Node.nestingItems, nestingItems, nesting_node v, nestingItems_nodes rest]

theorem nestingEntries_entries : (fields : List (String × Value)) →
    Node.nestingEntries (entries fields) = nestingFields fields
  | [] => rfl
  | (k, v) :: rest => by
    rw [entries, Node.nestingEntries, nestingFields, nesting_node v, nestingEntries_entries rest]
end

/-! ## Keys -/

theorem distinct_tagged {tag : String} {content : Node} (h : content.Distinct) :
    (tagged tag content).Distinct :=
  ⟨List.nodup_cons.mpr ⟨List.not_mem_nil, List.nodup_nil⟩, h, trivial⟩

theorem distinct_entries {fields : List (String × Value)} (h : Fields.Distinct fields) :
    Fields.Distinct (entries fields) := by
  rw [entries_eq_mapValues]
  exact Fields.distinct_mapValues h

mutual
theorem distinct_node : (v : Value) → v.Distinct → v.node.Distinct
  | .null, _ => trivial
  | .boolean _, _ => trivial
  | .integer _, _ => trivial
  | .double x, _ => by
    rw [node]
    split <;> trivial
  | .string _, _ => trivial
  | .timestamp _, _ => distinct_tagged trivial
  | .date _, _ => distinct_tagged trivial
  | .array items, h => distinctItems_nodes items h
  | .object fields, h => ⟨distinct_entries h.1, distinctEntries_entries fields h.2⟩
  | .ref _, _ => distinct_tagged trivial
  | .setRef parameters, h =>
    distinct_tagged ⟨distinct_entries h.1, distinctEntries_entries parameters h.2⟩

theorem distinctItems_nodes : (items : List Value) → DistinctItems items →
    Node.DistinctItems (nodes items)
  | [], _ => trivial
  | v :: rest, h => ⟨distinct_node v h.1, distinctItems_nodes rest h.2⟩

theorem distinctEntries_entries : (fields : List (String × Value)) → DistinctFields fields →
    Node.DistinctEntries (entries fields)
  | [], _ => trivial
  | (_, v) :: rest, h => ⟨distinct_node v h.1, distinctEntries_entries rest h.2⟩
end

end QueryWire.Value

/-
  Tags of nodes.

  A response marks five forms by a tag: the four specials and the wrapper of
  older servers.  Each form has a test of its own, `Mark.find?`.  A test that
  succeeds fixes the only key of the node (`Mark.eq_object_of_find?`), and the
  five keys differ, so at most one test succeeds (`Mark.eq_of_find?`).  Hence
  `decode` returns what the successful test finds (`decode_of_find?`), and a
  decoder that makes the tests in any other order, at every depth, decodes each
  node to the same value (`decodeInOrder_eq_decode`).
-/
import QueryWire.Proofs.Wire.Decoding

namespace QueryWire

open Json (Node)

/-! ## Tests -/

/-- The forms that are marked by a tag. -/
inductive Mark
  | ref
  | timestamp
  | date
  | set
  | legacy
deriving DecidableEq

/-- What a test finds: a special without values of its own, or entries that are
    still to be decoded. -/
inductive Finding
  | atom (v : Value)
  | parameters (entries : List (String × Node))
  | fields (entries : List (String × Node))

namespace Finding

/-- The entries that are still to be decoded. -/
def entries : Finding → List (String × Node)
  | .atom _ => []
  | .parameters entries => entries
  | .fields entries => entries

/-- The value that is made of a finding and its decoded entries. -/
def make : Finding → List (String × Value) → Value
  | .atom v, _ => v
  | .parameters _, decoded => .setRef decoded
  | .fields _, decoded => .object decoded

def value (codec : Codec) (f : Finding) : Value :=
  f.make (codec.decodeEntries f.entries)

end Finding

namespace Mark

/-- The tests in the order in which `decode` makes them. -/
def all : List Mark :=
  [.ref, .timestamp, .date, .set, .legacy]

theorem mem_all (m : Mark) : m ∈ all := by
  cases m <;> decide

def tag : Mark → String
  | .ref => refTag
  | .timestamp => timestampTag
  | .date => dateTag
  | .set => setTag
  | .legacy => legacyObjectTag

theorem tag_injective {m n : Mark} (h : m.tag = n.tag) : m = n := by
  revert h
  cases m <;> cases n <;> decide

def find? (codec : Codec) (node : Node) : Mark → Option Finding
  | .ref => node.ref?.map (fun r => .atom (.ref r))
  | .timestamp => node.timestamp?.map (fun t => .atom (.timestamp t))
  | .date => node.date?.map (fun d => .atom (.date d))
  | .set => node.setParameters?.map .parameters
  | .legacy => (codec.legacyEntries? node).map .fields

end Mark

/-! ## Tagged nodes -/

namespace Json.Node

theorem eq_object_of_tagContent? {tag : String} {node content : Node}
    (h : node.tagContent? tag = some content) : node = .object [(tag, content)] := by
  match node, h with
  | .object [(k, c)], h =>
    have hk : (if k = tag then some c else none) = some content := h
    split at hk
    · rename_i hkt
      cases hk
      rw [hkt]
    · cases hk
  | .object [], h => cases h
  | .object (_ :: _ :: _), h => cases h
  | .null, h | .bool _, h | .number _, h | .string _, h | .array _, h => cases h

theorem eq_object_of_object? {node : Node} {entries : List (String × Node)}
    (h : node.object? = some entries) : node = .object entries := by
  cases node with
  | object es =>
    cases h
    rfl
  | _ => cases h

theorem eq_object_of_setParameters? {node : Node} {entries : List (String × Node)}
    (h : node.setParameters? = some entries) : node = .object [(setTag, .object entries)] := by
  obtain ⟨content, hc, ho⟩ := Option.bind_eq_some_iff.mp h
  rw [eq_object_of_tagContent? hc, eq_object_of_object? ho]

end Json.Node

theorem Codec.legacyEntries?_eq_some_iff {codec : Codec} {node : Node}
    {entries : List (String × Node)} :
    codec.legacyEntries? node = some entries ↔
      codec.acceptLegacyObjectTag = true ∧ node = .object [(legacyObjectTag, .object entries)] := by
  unfold legacyEntries?
  constructor
  · intro h
    split at h
    · rename_i ha
      obtain ⟨content, hc, ho⟩ := Option.bind_eq_some_iff.mp h
      rw [Node.eq_object_of_tagContent? hc, Node.eq_object_of_object? ho]
      exact ⟨ha, rfl⟩
    · cases h
  · rintro ⟨ha, rfl⟩
    rw [if_pos ha]
    rfl

namespace Mark

variable {codec : Codec} {node : Node} {m n : Mark} {f g : Finding}

theorem eq_object_of_find? (h : m.find? codec node = some f) :
    ∃ content, node = .object [(m.tag, content)] := by
  cases m with
  | ref =>
    obtain ⟨r, hr, -⟩ := Option.map_eq_some_iff.mp h
    obtain ⟨s, hs, -⟩ := Option.map_eq_some_iff.mp hr
    obtain ⟨content, hc, -⟩ := Option.bind_eq_some_iff.mp hs
    exact ⟨content, Node.eq_object_of_tagContent? hc⟩
  | timestamp =>
    obtain ⟨t, ht, -⟩ := Option.map_eq_some_iff.mp h
    obtain ⟨s, hs, -⟩ := Option.bind_eq_some_iff.mp ht
    obtain ⟨content, hc, -⟩ := Option.bind_eq_some_iff.mp hs
    exact ⟨content, Node.eq_object_of_tagContent? hc⟩
  | date =>
    obtain ⟨d, hd, -⟩ := Option.map_eq_some_iff.mp h
    obtain ⟨s, hs, -⟩ := Option.bind_eq_some_iff.mp hd
    obtain ⟨content, hc, -⟩ := Option.bind_eq_some_iff.mp hs
    exact ⟨content, Node.eq_object_of_tagContent? hc⟩
  | set =>
    obtain ⟨entries, he, -⟩ := Option.map_eq_some_iff.mp h
    exact ⟨_, Node.eq_object_of_setParameters? he⟩
  | legacy =>
    obtain ⟨entries, he, -⟩ := Option.map_eq_some_iff.mp h
    exact ⟨_, (Codec.legacyEntries?_eq_some_iff.mp he).2⟩

/-- At most one test succeeds. -/
theorem eq_of_find? (hm : m.find? codec node = some f) (hn : n.find? codec node = some g) :
    m = n := by
  obtain ⟨content, rfl⟩ := eq_object_of_find? hm
  obtain ⟨content', he⟩ := eq_object_of_find? hn
  apply tag_injective
  exact congrArg Prod.fst (List.cons.inj (Node.object.inj he)).1

theorem find?_of_ne (hm : m.find? codec node = some f) (hne : n ≠ m) :
    n.find? codec node = none := by
  cases hn : n.find? codec node with
  | none => rfl
  | some g => exact absurd (eq_of_find? hn hm) hne

/-- So the first success does not depend on the order of the tests. -/
theorem findSome?_eq_some_iff {order : List Mark} (ho : order.Perm all) :
    order.findSome? (find? codec node) = some f ↔ ∃ m, find? codec node m = some f := by
  constructor
  · intro h
    obtain ⟨m, -, hm⟩ := List.exists_of_findSome?_eq_some h
    exact ⟨m, hm⟩
  · rintro ⟨m, hm⟩
    have hmem : m ∈ order := ho.mem_iff.mpr (mem_all m)
    cases h : order.findSome? (find? codec node) with
    | none => exact absurd hm (by rw [List.findSome?_eq_none_iff.mp h m hmem]; exact nofun)
    | some g =>
      obtain ⟨n, -, hn⟩ := List.exists_of_findSome?_eq_some h
      rw [← eq_of_find? hm hn, hm] at hn
      exact hn.symm

end Mark

/-! ## Decoding by tests -/

namespace Codec

variable {codec : Codec} {entries : List (String × Node)} {m : Mark} {f : Finding}

theorem atom?_of_find? {v : Value} (h : m.find? codec (.object entries) = some (.atom v)) :
    (Node.object entries).atom? = some v := by
  have hn : ∀ n, n ≠ m → n.find? codec (.object entries) = none := fun n => Mark.find?_of_ne h
  unfold Node.atom?
  cases m with
  | ref =>
    obtain ⟨r, hr, hv⟩ := Option.map_eq_some_iff.mp h
    cases hv
    rw [hr]
  | timestamp =>
    obtain ⟨t, ht, hv⟩ := Option.map_eq_some_iff.mp h
    cases hv
    rw [Option.map_eq_none_iff.mp (hn .ref (by decide)), ht]
  | date =>
    obtain ⟨d, hd, hv⟩ := Option.map_eq_some_iff.mp h
    cases hv
    rw [Option.map_eq_none_iff.mp (hn .ref (by decide)),
      Option.map_eq_none_iff.mp (hn .timestamp (by decide)), hd]
    rfl
  | set =>
    obtain ⟨_, -, hv⟩ := Option.map_eq_some_iff.mp h
    cases hv
  | legacy =>
    obtain ⟨_, -, hv⟩ := Option.map_eq_some_iff.mp h
    cases hv

theorem decode_of_find? (h : m.find? codec (.object entries) = some f) :
    codec.decode (.object entries) = f.value codec := by
  cases f with
  | atom v => exact decode_of_atom? (atom?_of_find? h)
  | parameters inner =>
    cases m with
    | set =>
      obtain ⟨ps, hp, hv⟩ := Option.map_eq_some_iff.mp h
      cases hv
      rw [Node.eq_object_of_setParameters? hp, decode_entry_object, if_pos rfl]
      rfl
    | ref | timestamp | date | legacy =>
      obtain ⟨_, -, hv⟩ := Option.map_eq_some_iff.mp h
      cases hv
  | fields inner =>
    cases m with
    | legacy =>
      obtain ⟨es, he, hv⟩ := Option.map_eq_some_iff.mp h
      cases hv
      obtain ⟨ha, he⟩ := legacyEntries?_eq_some_iff.mp he
      rw [he, decode_entry_object, if_neg (by decide), if_pos ⟨rfl, ha⟩]
      rfl
    | ref | timestamp | date | set =>
      obtain ⟨_, -, hv⟩ := Option.map_eq_some_iff.mp h
      cases hv

/-- Without a tag an object is decoded entry by entry. -/
theorem decode_of_find?_eq_none (h : ∀ m : Mark, m.find? codec (.object entries) = none) :
    codec.decode (.object entries) = .object (codec.decodeEntries entries) := by
  have ha : (Node.object entries).atom? = none := by
    unfold Node.atom?
    rw [Option.map_eq_none_iff.mp (h .ref), Option.map_eq_none_iff.mp (h .timestamp),
      Option.map_eq_none_iff.mp (h .date)]
    rfl
  by_cases hn : ∃ k inner, entries = [(k, .object inner)]
  · obtain ⟨k, inner, rfl⟩ := hn
    have hs : k ≠ setTag := by
      rintro rfl
      exact absurd (h .set) nofun
    have hl : ¬ (k = legacyObjectTag ∧ codec.acceptLegacyObjectTag = true) := by
      rintro ⟨rfl, hc⟩
      have hm := Option.map_eq_none_iff.mp (h .legacy)
      rw [legacyEntries?_eq_some_iff.mpr ⟨hc, rfl⟩] at hm
      cases hm
    rw [decode_entry_object, if_neg hs, if_neg hl]
    rfl
  · exact decode_entries ha fun k inner he => hn ⟨k, inner, he⟩

/-- Either one test succeeds and tells the value, or none does. -/
theorem decode_object_cases (codec : Codec) (entries : List (String × Node)) :
    (∃ m f, Mark.find? codec (.object entries) m = some f ∧
      codec.decode (.object entries) = f.value codec) ∨
    ((∀ m, Mark.find? codec (.object entries) m = none) ∧
      codec.decode (.object entries) = .object (codec.decodeEntries entries)) := by
  by_cases h : ∃ m f, Mark.find? codec (.object entries) m = some f
  · obtain ⟨m, f, hf⟩ := h
    exact Or.inl ⟨m, f, hf, decode_of_find? hf⟩
  · have hn : ∀ m, Mark.find? codec (.object entries) m = none := by
      intro m
      cases hf : Mark.find? codec (.object entries) m with
      | none => rfl
      | some f => exact absurd ⟨m, f, hf⟩ h
    exact Or.inr ⟨hn, decode_of_find?_eq_none hn⟩

end Codec

/-! ## Decoding with the tests in another order -/

namespace Json.Node

theorem size_le_sizeItems {items : List Node} {node : Node} (h : node ∈ items) :
    node.size ≤ sizeItems items := by
  induction items with
  | nil => cases h
  | cons first rest ih =>
    rw [sizeItems]
    rcases List.mem_cons.mp h with rfl | hr
    · omega
    · have := ih hr
      omega

theorem size_le_sizeEntries {entries : List (String × Node)} {p : String × Node}
    (h : p ∈ entries) : p.2.size ≤ sizeEntries entries := by
  induction entries with
  | nil => cases h
  | cons first rest ih =>
    rw [sizeEntries]
    rcases List.mem_cons.mp h with rfl | hr
    · omega
    · have := ih hr
      omega

end Json.Node

namespace Codec

/-- What the tests find when they are made in the given order; all entries, if
    none succeeds. -/
def finding (codec : Codec) (order : List Mark) (entries : List (String × Node)) : Finding :=
  (order.findSome? (Mark.find? codec (.object entries))).getD (.fields entries)

theorem sizeEntries_find? {codec : Codec} {entries : List (String × Node)} {m : Mark}
    {f : Finding} (h : m.find? codec (.object entries) = some f) :
    Node.sizeEntries f.entries ≤ Node.sizeEntries entries := by
  cases m with
  | set =>
    obtain ⟨ps, hp, rfl⟩ := Option.map_eq_some_iff.mp h
    rw [Node.object.inj (Node.eq_object_of_setParameters? hp)]
    exact Nat.le_succ _
  | legacy =>
    obtain ⟨es, he, rfl⟩ := Option.map_eq_some_iff.mp h
    rw [Node.object.inj (legacyEntries?_eq_some_iff.mp he).2]
    exact Nat.le_succ _
  | ref | timestamp | date =>
    obtain ⟨_, -, rfl⟩ := Option.map_eq_some_iff.mp h
    exact Nat.zero_le _

theorem size_lt_of_mem_finding {codec : Codec} {order : List Mark}
    {entries : List (String × Node)} {p : String × Node}
    (h : p ∈ (codec.finding order entries).entries) : p.2.size < (Node.object entries).size := by
  have hle : Node.sizeEntries (codec.finding order entries).entries ≤ Node.sizeEntries entries := by
    unfold finding
    cases hf : order.findSome? (Mark.find? codec (.object entries)) with
    | none => exact Nat.le_refl _
    | some f =>
      obtain ⟨m, -, hm⟩ := List.exists_of_findSome?_eq_some hf
      exact sizeEntries_find? hm
  exact Nat.lt_succ_of_le (Nat.le_trans (Node.size_le_sizeEntries h) hle)

/-- The value of a node, with the tests made in the given order. -/
def decodeInOrder (codec : Codec) (order : List Mark) : Node → Value
  | .null => .null
  | .bool b => .boolean b
  | .number n => n.toValue
  | .string s => .string s
  | .array items => .array (items.attach.map fun ⟨node, _⟩ => codec.decodeInOrder order node)
  | .object entries =>
    (codec.finding order entries).make
      ((codec.finding order entries).entries.attach.map fun ⟨p, _⟩ =>
        (p.1, codec.decodeInOrder order p.2))
termination_by node => node.size
decreasing_by
  · rename_i hm
    exact Nat.lt_succ_of_le (Node.size_le_sizeItems hm)
  · rename_i hm
    exact size_lt_of_mem_finding hm

variable {codec : Codec} {order : List Mark}

theorem value_finding (ho : order.Perm Mark.all) (entries : List (String × Node)) :
    (codec.finding order entries).value codec = codec.decode (.object entries) := by
  unfold finding
  rcases decode_object_cases codec entries with ⟨m, f, hf, hd⟩ | ⟨hn, hd⟩
  · rw [(Mark.findSome?_eq_some_iff ho).mpr ⟨m, hf⟩, hd]
    rfl
  · rw [List.findSome?_eq_none_iff.mpr fun m _ => hn m, hd]
    rfl

/-- Entries that are decoded alike in both ways. -/
theorem attach_decodeInOrder {entries : List (String × Node)}
    (h : ∀ p ∈ entries, codec.decodeInOrder order p.2 = codec.decode p.2) :
    (entries.attach.map fun ⟨p, _⟩ => (p.1, codec.decodeInOrder order p.2)) =
      codec.decodeEntries entries := by
  rw [decodeEntries_eq_mapValues, Fields.mapValues, ← List.attach_map_val (l := entries)]
  refine List.map_congr_left ?_
  intro p _
  exact congrArg (Prod.mk p.1.1) (h p.1 p.2)

theorem decodeInOrder_eq_decode (ho : order.Perm Mark.all) (node : Node) :
    codec.decodeInOrder order node = codec.decode node := by
  match node with
  | .null | .bool _ | .number _ | .string _ =>
    rw [decodeInOrder]
    rfl
  | .array items =>
    have hi : ∀ n ∈ items, codec.decodeInOrder order n = codec.decode n :=
      fun n _ => decodeInOrder_eq_decode ho n
    rw [decodeInOrder, decode, decodeItems_eq_map, ← List.attach_map_val (l := items)]
    refine congrArg Value.array (List.map_congr_left ?_)
    intro n _
    exact hi n.1 n.2
  | .object entries =>
    have he : ∀ p ∈ (codec.finding order entries).entries,
        codec.decodeInOrder order p.2 = codec.decode p.2 :=
      fun p _ => decodeInOrder_eq_decode ho p.2
    rw [← value_finding ho, decodeInOrder, attach_decodeInOrder he]
    rfl
termination_by node.size
decreasing_by
  · rename_i hm
    exact Nat.lt_succ_of_le (Node.size_le_sizeItems hm)
  · rename_i hm
    exact size_lt_of_mem_finding hm

end Codec

end QueryWire

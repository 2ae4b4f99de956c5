/-
  A decoded document, written again.

  `Node.rewritten` says what writing the decoded value makes of a tree: instants
  and dates in their standard text, natural numbers beyond the signed integers
  as doubles, and accepted wrappers taken off; nothing else changes.  The tree
  of the value is the rewritten one (`node_decode`), and since no number is
  decoded to a double that is not finite (`isFinite_decode`), writing never
  fails (`LazyValue.text_toValue_of_parse`).
-/
import QueryWire.Proofs.Binary64.Nearest
import QueryWire.Proofs.Calendar.InstantRange
import QueryWire.Proofs.Wire.RoundTrip
import QueryWire.Proofs.Wire.Unambiguous

namespace QueryWire

open Json (Node Number)
open Calendar (Date Instant)

/-! ## Rewritten trees -/

theorem Binary64.isNearest_ofUInt64 (n : UInt64) :
    (Binary64.ofNat n.toNat).IsNearest (n.toNat * Binary64.unitsOfOne) 1 :=
  Binary64.isNearest_ofNat n.toNat_lt

/-- A natural number that is no signed integer becomes the nearest double. -/
def Json.Number.rewritten : Number → Number
  | .natural n =>
    if n.toNat < Number.int64End then .natural n
    else .float (Binary64.ofNat n.toNat) (Binary64.isNearest_ofUInt64 n).finite
  | n => n

namespace Json.Node

/-- The text below a tag: an instant and a date in their standard form. -/
def rewrittenText (tag s : String) : String :=
  if tag = timestampTag then (Instant.ofText? s).elim s Instant.text
  else if tag = dateTag then (Date.ofText? s).elim s Date.text
  else s

mutual
/-- What is written for the decoded tree. -/
def rewritten (codec : Codec) : Node → Node
  | .null => .null
  | .bool b => .bool b
  | .number n => .number n.rewritten
  | .string s => .string s
  | .array items => .array (rewrittenItems codec items)
  | .object entries =>
    match entries with
    | [(tag, .string s)] => .object [(tag, .string (rewrittenText tag s))]
    | [(tag, .object inner)] =>
      if tag = setTag then .object [(tag, .object (rewrittenEntries codec inner))]
      else if tag = legacyObjectTag ∧ codec.acceptLegacyObjectTag = true then
        .object (rewrittenEntries codec inner)
      else .object [(tag, rewritten codec (.object inner))]
    | entries => .object (rewrittenEntries codec entries)
termination_by structural node => node

def rewrittenItems (codec : Codec) : List Node → List Node
  | [] => []
  | node :: rest => rewritten codec node :: rewrittenItems codec rest
termination_by structural items => items

def rewrittenEntries (codec : Codec) : List (String × Node) → List (String × Node)
  | [] => []
  | (k, node) :: rest => (k, rewritten codec node) :: rewrittenEntries codec rest
termination_by structural entries => entries
end

/-- A rewritten text still means the same instant. -/
theorem ofText?_rewrittenText_timestamp {s : String} {t : Instant}
    (h : Instant.ofText? s = some t) (hy : 0 ≤ t.year ∧ t.year ≤ 9999) :
    Instant.ofText? (rewrittenText timestampTag s) = some t := by
  have hk : t.OnClock := (t.exists_text_iff.mp ⟨s, h⟩).1
  rw [rewrittenText, if_pos rfl, h]
  exact Instant.ofText?_text_of_onClock hk hy

theorem ofText?_rewrittenText_date {s : String} {d : Date} (h : Date.ofText? s = some d) :
    Date.ofText? (rewrittenText dateTag s) = some d := by
  rw [rewrittenText, if_neg (by decide), if_pos rfl, h]
  exact Date.ofText?_text d

end Json.Node

/-! ## Numbers -/

namespace Json.Number

theorem rewritten_natural {n : UInt64} (h : int64End ≤ n.toNat) :
    ∃ x hx, (natural n).rewritten = .float x hx ∧
      x.IsNearest (n.toNat * Binary64.unitsOfOne) 1 :=
  ⟨_, _, if_neg (Nat.not_lt.mpr h), Binary64.isNearest_ofUInt64 n⟩

theorem int64?_natural (n : UInt64) :
    (natural n).int64? = if n.toNat < int64End then some n.toInt64 else none :=
  rfl

/-- Below the bound, a natural number is a signed integer of the same value. -/
theorem toInt_toInt64_of_lt {n : UInt64} (h : n.toNat < int64End) :
    n.toInt64.toInt = n.toNat := by
  show n.toBitVec.toInt = _
  rw [BitVec.toInt_eq_toNat_cond]
  have hw : n.toBitVec.toNat = n.toNat := rfl
  unfold int64End at h
  rw [hw]
  omega

/-- Below the bound, the signed integer is written as the natural number. -/
theorem ofInt64_toInt64 {n : UInt64} (h : n.toNat < int64End) : ofInt64 n.toInt64 = .natural n := by
  have hn : ¬ n.toInt64 < 0 := by
    rw [Int64.lt_iff_toInt_lt, toInt_toInt64_of_lt h]
    exact Int.not_lt.mpr (Int.natCast_nonneg _)
  rw [ofInt64, dif_neg hn, UInt64.toUInt64_toInt64]

theorem isFinite_toDouble {n : Number} (h : n.int64? = none) : n.toDouble.isFinite = true := by
  cases n with
  | natural n => exact (Binary64.isNearest_ofUInt64 n).finite
  | negative n lt => cases h
  | float x finite => exact finite

theorem ofInt64_of_int64? {n : Number} {i : Int64} (h : n.int64? = some i) :
    ofInt64 i = n.rewritten := by
  cases n with
  | natural n =>
    rw [int64?_natural] at h
    by_cases hlt : n.toNat < int64End
    · rw [if_pos hlt] at h
      cases h
      rw [ofInt64_toInt64 hlt, rewritten, if_pos hlt]
    · rw [if_neg hlt] at h
      cases h
  | negative n lt =>
    cases h
    exact dif_pos lt
  | float x finite => cases h

theorem float_toDouble {n : Number} (h : n.int64? = none) :
    .float n.toDouble (isFinite_toDouble h) = n.rewritten := by
  cases n with
  | natural n =>
    have hlt : ¬ n.toNat < int64End := by
      intro hlt
      rw [int64?_natural, if_pos hlt] at h
      cases h
    rw [rewritten, if_neg hlt]
    rfl
  | negative n lt => cases h
  | float x finite => rfl

theorem node_toValue (n : Number) : n.toValue.node = .number n.rewritten := by
  unfold toValue
  split
  · rename_i i hi
    rw [Value.node, ofInt64_of_int64? hi]
  · rename_i hi
    rw [Value.node, dif_pos (isFinite_toDouble hi), float_toDouble hi]

theorem isFinite_toValue (n : Number) : n.toValue.Everywhere Value.IsFinite := by
  unfold toValue
  split
  · exact (Value.everywhere_leaf rfl).mpr trivial
  · rename_i hi
    exact (Value.everywhere_leaf rfl).mpr (isFinite_toDouble hi)

end Json.Number

/-! ## Decoded trees -/

namespace Codec

variable (codec : Codec)

theorem node_decode_entry_string (k s : String) :
    (codec.decode (.object [(k, .string s)])).node =
      (Node.object [(k, .string s)]).rewritten codec := by
  have ha := Node.atom?_string k s
  have hsome : ∀ v, (Node.object [(k, .string s)]).atom? = some v →
      (codec.decode (.object [(k, .string s)])).node = v.node := fun v h => by
    rw [decode_of_atom? h]
  have hnone : (Node.object [(k, .string s)]).atom? = none →
      (codec.decode (.object [(k, .string s)])).node = .object [(k, .string s)] := fun h => by
    rw [decode_entries h (by simp)]
    rfl
  show _ = Node.object [(k, .string (Node.rewrittenText k s))]
  unfold Node.rewrittenText
  by_cases hr : k = refTag
  · subst hr
    exact hsome _ ha
  rw [if_neg hr] at ha
  by_cases ht : k = timestampTag
  · subst ht
    rw [if_pos rfl] at ha ⊢
    cases hi : Instant.ofText? s with
    | none => exact hnone (by rw [ha, hi]; rfl)
    | some t => exact hsome (.timestamp t) (by rw [ha, hi]; rfl)
  rw [if_neg ht] at ha ⊢
  by_cases hd : k = dateTag
  · subst hd
    rw [if_pos rfl] at ha ⊢
    cases hi : Date.ofText? s with
    | none => exact hnone (by rw [ha, hi]; rfl)
    | some d => exact hsome (.date d) (by rw [ha, hi]; rfl)
  · rw [if_neg hd] at ha ⊢
    exact hnone ha

mutual
/-- The tree of a decoded value is the rewritten one. -/
theorem node_decode : (node : Node) → (codec.decode node).node = node.rewritten codec
  | .null => rfl
  | .bool _ => rfl
  | .number n => n.node_toValue
  | .string _ => rfl
  | .array items => congrArg Node.array (nodes_decodeItems items)
  | .object entries => by
    have h := entries_decodeEntries entries
    rw [Json.Node.rewritten.eq_def]
    dsimp only
    split
    · exact node_decode_entry_string codec _ _
    · rename_i k inner
      have hi := entries_decodeEntries inner
      rw [decode_entry_object]
      split
      · rename_i hk
        rw [Value.node, hi, hk]
        rfl
      · split
        · rw [Value.node, hi]
        · exact congrArg Node.object h
    · rename_i hs ho
      rw [decode_entries (Node.atom?_eq_none hs) ho, Value.node, h]

theorem nodes_decodeItems : (items : List Node) →
    Value.nodes (codec.decodeItems items) = Node.rewrittenItems codec items
  | [] => rfl
  | node :: rest => by
    rw [decodeItems, Value.nodes, Node.rewrittenItems, node_decode node, nodes_decodeItems rest]

theorem entries_decodeEntries : (entries : List (String × Node)) →
    Value.entries (codec.decodeEntries entries) = Node.rewrittenEntries codec entries
  | [] => rfl
  | (k, node) :: rest => by
    rw [decodeEntries, Value.entries, Node.rewrittenEntries, node_decode node,
      entries_decodeEntries rest]
end

theorem isFinite_of_atom? {node : Node} {v : Value} (h : node.atom? = some v) :
    v.Everywhere Value.IsFinite := by
  unfold Node.atom? at h
  split at h
  · cases h
    exact (Value.everywhere_leaf rfl).mpr trivial
  · split at h
    · cases h
      exact (Value.everywhere_leaf rfl).mpr trivial
    · obtain ⟨d, -, rfl⟩ := Option.map_eq_some_iff.mp h
      exact (Value.everywhere_leaf rfl).mpr trivial

mutual
/-- Decoding makes no double that cannot be written. -/
theorem isFinite_decode : (node : Node) → (codec.decode node).Everywhere Value.IsFinite
  | .null => (Value.everywhere_leaf rfl).mpr trivial
  | .bool _ => (Value.everywhere_leaf rfl).mpr trivial
  | .number n => n.isFinite_toValue
  | .string _ => (Value.everywhere_leaf rfl).mpr trivial
  | .array items => Value.everywhere_array.mpr ⟨trivial, isFinite_decodeItems items⟩
  | .object entries => by
    have h := isFinite_decodeEntries entries
    rw [decode.eq_def]
    dsimp only
    split
    · rename_i v hv
      exact isFinite_of_atom? hv
    · split
      · rename_i k inner _
        have hi := isFinite_decodeEntries inner
        split
        · exact Value.everywhere_setRef.mpr ⟨trivial, hi⟩
        · split
          · exact Value.everywhere_object.mpr ⟨trivial, hi⟩
          · exact Value.everywhere_object.mpr ⟨trivial, h⟩
      · exact Value.everywhere_object.mpr ⟨trivial, h⟩

theorem isFinite_decodeItems : (items : List Node) →
    ∀ v ∈ codec.decodeItems items, v.Everywhere Value.IsFinite
  | [] => List.forall_mem_nil _
  | node :: rest => List.forall_mem_cons.mpr ⟨isFinite_decode node, isFinite_decodeItems rest⟩

theorem isFinite_decodeEntries : (entries : List (String × Node)) →
    ∀ q ∈ codec.decodeEntries entries, q.2.Everywhere Value.IsFinite
  | [] => List.forall_mem_nil _
  | (_, node) :: rest =>
    List.forall_mem_cons.mpr ⟨isFinite_decode node, isFinite_decodeEntries rest⟩
end

end Codec

namespace LazyValue

/-- Writing the value of a document that was read never fails, escaped or not,
    and yields the text of the rewritten document.  A rewritten text means the
    same instant or date, and a double that stands for a natural number is the
    nearest one. -/
theorem text_toValue_of_parse {codec : Codec} {text : String} {v : LazyValue}
    (h : parse codec text = .ok v) :
    Json.document text = .ok v.node ∧
    v.toValue.text = .ok (v.node.rewritten codec).text ∧
    (∃ body, (Expr.escape v.toValue).text = .ok body) ∧
    (∀ s t, Instant.ofText? s = some t → 0 ≤ t.year ∧ t.year ≤ 9999 →
      Instant.ofText? (Node.rewrittenText timestampTag s) = some t) ∧
    (∀ s d, Date.ofText? s = some d → Date.ofText? (Node.rewrittenText dateTag s) = some d) ∧
    ∀ n : UInt64, Number.int64End ≤ n.toNat → ∃ x hx,
      (Number.natural n).rewritten = .float x hx ∧
        x.IsNearest (n.toNat * Binary64.unitsOfOne) 1 := by
  unfold parse at h
  split at h
  · rename_i node hd
    cases h
    have hf : (codec.decode node).Everywhere Value.IsFinite := codec.isFinite_decode node
    have ht : (codec.decode node).text = .ok (node.rewritten codec).text := by
      rw [Value.text_eq hf, codec.node_decode node]
    refine ⟨hd, ht, ⟨_, Value.text_eq (Value.isFinite_escaped _ hf)⟩, ?_, ?_, ?_⟩
    · exact fun s t => Node.ofText?_rewrittenText_timestamp
    · exact fun s d => Node.ofText?_rewrittenText_date
    · exact fun n => Number.rewritten_natural
  · cases h

/-- A wrapper around an instant with an offset and the greatest natural number
    of 64 bits. -/
def wrappedInstant : LazyValue where
  node := .object [("@obj", .object [("a", .object [("@ts", .string "2020-01-01T01:30:00+01:00")]),
    ("b", .number (.natural 18446744073709551615))])]
  codec := ⟨true⟩

theorem text_toValue_of_parse_wrappedInstant :
    parse ⟨true⟩ ("\x7b\"@obj\":\x7b\"a\":\x7b\"@ts\":\"2020-01-01T01:30:00+01:00\"\x7d," ++
      "\"b\":18446744073709551615\x7d\x7d") = .ok wrappedInstant ∧
    wrappedInstant.toValue.text =
      .ok "\x7b\"a\":\x7b\"@ts\":\"2020-01-01T00:30:00Z\"\x7d,\"b\":1.8446744073709552e+19\x7d" ∧
    Instant.ofText? (Node.rewrittenText timestampTag "2020-01-01T01:30:00+01:00") =
      Instant.ofText? "2020-01-01T01:30:00+01:00" ∧
    Date.ofText? (Node.rewrittenText dateTag "2020-1-5") = Date.ofText? "2020-1-5" ∧
    ∃ x hx, (Number.natural 18446744073709551615).rewritten = .float x hx ∧
      x.IsNearest (UInt64.toNat 18446744073709551615 * Binary64.unitsOfOne) 1 := by
  have h : parse ⟨true⟩
      ("\x7b\"@obj\":\x7b\"a\":\x7b\"@ts\":\"2020-01-01T01:30:00+01:00\"\x7d," ++
        "\"b\":18446744073709551615\x7d\x7d") = .ok wrappedInstant := rfl
  have ht : (wrappedInstant.node.rewritten ⟨true⟩).text =
      "\x7b\"a\":\x7b\"@ts\":\"2020-01-01T00:30:00Z\"\x7d,\"b\":1.8446744073709552e+19\x7d" := by
    decide +kernel
  have hi : Instant.ofText? "2020-01-01T01:30:00+01:00" = some ⟨1577838600, 0, by decide⟩ := by
    decide +kernel
  have hd : Date.ofText? "2020-1-5" = some ⟨2020, 1, 5, by decide⟩ := by decide +kernel
  obtain ⟨-, hv, -, hts, hdate, hn⟩ := text_toValue_of_parse h
  exact ⟨h, hv.trans (congrArg Except.ok ht), (hts _ _ hi (by decide +kernel)).trans hi.symm,
    (hdate _ _ hd).trans hd.symm, hn _ (by decide)⟩

end LazyValue

end QueryWire

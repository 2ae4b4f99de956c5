/-
  What can be written, and what is reported if it cannot.

  JSON has no infinities and no NaN.  Writing goes through the doubles of a
  value in the order of the text (`Value.doubles`) and stops at the first one
  that is not finite; if there is none, the result is the tree of the value
  (`Value.toNode_eq_refusing`).  Escaping makes no double that could not be
  written (`Value.isFinite_escaped`).  A batch goes through the doubles of its
  expressions, one expression after the other, so what it reports is what the
  first expression that fails reports, and otherwise its text is that of the
  list of the trees (`Expr.batchText_eq_refusing`).
-/
import Mathlib.Data.List.Forall2
import QueryWire.Codec
import QueryWire.Proofs.Wire.Tree

namespace QueryWire

open Json (Node)

/-! ## Doubles that are not finite -/

theorem Binary64.isFinite_eq_false_iff {x : Binary64} :
    x.isFinite = false ↔ x.isNaN = true ∨ x.isInfinite = true := by
  unfold isFinite isNaN isInfinite
  by_cases he : x.exponentField = 2047
  · by_cases hf : x.fractionField = 0 <;> simp [he, hf]
  · simp [he]

theorem Binary64.eq_infinity_of_isInfinite {x : Binary64} (h : x.isInfinite = true) :
    x = infinity x.isNegative := by
  have hw : x.word < 2 ^ 64 := x.bits.toNat_lt
  have he : x.word / hiddenBit % 2048 = 2047 ∧ x.word % hiddenBit = 0 := by
    simpa [isInfinite, exponentField, fractionField] using h
  have hb : x.bits = (infinity x.isNegative).bits := by
    apply UInt64.toNat_inj.mp
    show x.word = _
    unfold infinity isNegative
    unfold hiddenBit at he ⊢
    unfold signBit
    by_cases hn : 0x8000000000000000 ≤ x.word
    · simp [hn]
      omega
    · simp [hn]
      omega
  calc x = ⟨x.bits⟩ := rfl
    _ = infinity x.isNegative := by rw [hb]

theorem Binary64.not_isFinite :
    (fun x : Binary64 => !x.isFinite) = fun x => x.isNaN || x.isInfinite := by
  funext x
  rw [Bool.eq_iff_iff, Bool.not_eq_true', Bool.or_eq_true, isFinite_eq_false_iff]

/-- A fault tells the kind of its double, and of an infinity the sign. -/
theorem NonFinite.message_cases (e : NonFinite)
    (h : e.value.isNaN = true ∨ e.value.isInfinite = true) :
    (e.value.isNaN = true ∧ (CodecFault.unwritable e).message =
      "serialization error: cannot encode non-finite double NaN") ∨
    (e.value = .infinity false ∧ (CodecFault.unwritable e).message =
      "serialization error: cannot encode non-finite double inf") ∨
    (e.value = .infinity true ∧ (CodecFault.unwritable e).message =
      "serialization error: cannot encode non-finite double -inf") := by
  have hm : (CodecFault.unwritable e).message = "serialization error: " ++
      ("cannot encode non-finite double " ++
        if e.value.isNaN = true then "NaN" else if e.value.isNegative = true then "-inf"
        else "inf") := rfl
  rw [hm]
  rcases h with hn | hi
  · refine Or.inl ⟨hn, ?_⟩
    rw [if_pos hn]
    decide
  · have hx : e.value = .infinity e.value.isNegative := Binary64.eq_infinity_of_isInfinite hi
    have hf : ∀ negative, (Binary64.infinity negative).isNaN ≠ true ∧
        (Binary64.infinity negative).isNegative = negative := by decide
    cases hs : e.value.isNegative with
    | false =>
      rw [hs] at hx
      refine Or.inr (Or.inl ⟨hx, ?_⟩)
      rw [hx, if_neg (hf false).1]
      decide
    | true =>
      rw [hs] at hx
      refine Or.inr (Or.inr ⟨hx, ?_⟩)
      rw [hx, if_neg (hf true).1]
      decide

/-- The result, unless one of the doubles is not finite: the first such double is
    reported. -/
def refusing {α : Type} (xs : List Binary64) (a : α) : Except NonFinite α :=
  match xs.find? (fun x => !x.isFinite) with
  | some x => .error ⟨x⟩
  | none => .ok a

section

variable {α β γ : Type} {xs ys : List Binary64} {a : α} {b : β}

theorem map_refusing (f : α → β) : (refusing xs a).map f = refusing xs (f a) := by
  unfold refusing
  cases xs.find? (fun x => !x.isFinite) <;> rfl

/-- One after the other, the doubles of both parts are gone through. -/
theorem refusing_append (f : α → β → γ) :
    (do let a ← refusing xs a
        let b ← refusing ys b
        Except.ok (f a b)) = refusing (xs ++ ys) (f a b) := by
  unfold refusing
  rw [List.find?_append]
  cases xs.find? (fun x => !x.isFinite) with
  | some x => rfl
  | none => cases ys.find? (fun x => !x.isFinite) <;> rfl

theorem refusing_eq_error_iff {e : NonFinite} :
    refusing xs a = .error e ↔ xs.find? (fun x => !x.isFinite) = some e.value := by
  obtain ⟨y⟩ := e
  unfold refusing
  cases xs.find? (fun x => !x.isFinite) <;> simp

theorem refusing_eq_ok_iff {b : α} :
    refusing xs a = .ok b ↔ xs.find? (fun x => !x.isFinite) = none ∧ a = b := by
  unfold refusing
  cases xs.find? (fun x => !x.isFinite) <;> simp

end

/-! ## Values -/

namespace Value

mutual
/-- The doubles in a value in the order in which they are written: depth first,
    items from the left, fields and parameters in their order. -/
def doubles : Value → List Binary64
  | .double x => [x]
  | .array items => doublesOfItems items
  | .object fields => doublesOfFields fields
  | .setRef parameters => doublesOfFields parameters
  | _ => []

def doublesOfItems : List Value → List Binary64
  | [] => []
  | v :: rest => doubles v ++ doublesOfItems rest

def doublesOfFields : List (String × Value) → List Binary64
  | [] => []
  | (_, v) :: rest => doubles v ++ doublesOfFields rest
end

theorem doublesOfItems_eq_flatMap (items : List Value) :
    doublesOfItems items = items.flatMap doubles := by
  induction items with
  | nil => rfl
  | cons v rest ih => rw [doublesOfItems, ih, List.flatMap_cons]

theorem doublesOfFields_eq_flatMap (fields : List (String × Value)) :
    doublesOfFields fields = fields.flatMap (fun q => q.2.doubles) := by
  induction fields with
  | nil => rfl
  | cons q rest ih => rw [doublesOfFields, ih, List.flatMap_cons]

theorem mem_doubles_iff {x : Binary64} {v : Value} :
    x ∈ v.doubles ↔ (Value.double x).Within v := by
  induction v using Value.induction with
  | leaf v hl =>
    rw [within_leaf hl]
    cases v with
    | array _ | object _ | setRef _ => cases hl
    | double y => simp [doubles]
    | _ => simp [doubles]
  | array items ih =>
    simp only [doubles, doublesOfItems_eq_flatMap, List.mem_flatMap, within_array]
    simp only [reduceCtorEq, false_or]
    exact exists_congr fun v => and_congr_right fun hv => ih v hv
  | object fields ih =>
    simp only [doubles, doublesOfFields_eq_flatMap, List.mem_flatMap, within_object]
    simp only [reduceCtorEq, false_or]
    exact exists_congr fun q => and_congr_right fun hq => ih q hq
  | setRef parameters ih =>
    simp only [doubles, doublesOfFields_eq_flatMap, List.mem_flatMap, within_setRef]
    simp only [reduceCtorEq, false_or]
    exact exists_congr fun q => and_congr_right fun hq => ih q hq

mutual
/-- Writing goes through the doubles of a value. -/
theorem toNode_eq_refusing : (v : Value) → v.toNode = refusing v.doubles v.node
  | .null => rfl
  | .boolean _ => rfl
  | .integer _ => rfl
  | .double x => by
    rw [toNode, doubleNode, node]
    by_cases hx : x.isFinite = true <;> simp [doubles, refusing, hx]
  | .string _ => rfl
  | .timestamp _ => rfl
  | .date _ => rfl
  | .array items => by
    rw [toNode, toNodes_eq_refusing items, map_refusing]
    rfl
  | .object fields => by
    rw [toNode, toEntries_eq_refusing fields, map_refusing]
    rfl
  | .ref _ => rfl
  | .setRef parameters => by
    rw [toNode, toEntries_eq_refusing parameters, map_refusing]
    rfl

theorem toNodes_eq_refusing : (items : List Value) →
    toNodes items = refusing (doublesOfItems items) (nodes items)
  | [] => rfl
  | v :: rest => by
    rw [toNodes, toNode_eq_refusing v, toNodes_eq_refusing rest]
    exact refusing_append List.cons

theorem toEntries_eq_refusing : (fields : List (String × Value)) →
    toEntries fields = refusing (doublesOfFields fields) (entries fields)
  | [] => rfl
  | (k, v) :: rest => by
    rw [toEntries, toNode_eq_refusing v, toEntries_eq_refusing rest]
    exact refusing_append fun node entries => (k, node) :: entries
end

theorem text_eq_refusing (v : Value) : v.text = refusing v.doubles v.node.text := by
  rw [text, toNode_eq_refusing, map_refusing]

theorem text_eq {v : Value} (h : v.Everywhere IsFinite) : v.text = .ok v.node.text := by
  rw [text_eq_refusing, refusing_eq_ok_iff, List.find?_eq_none]
  refine ⟨fun x hx => ?_, rfl⟩
  have hf : x.isFinite = true := h _ (mem_doubles_iff.mp hx)
  simp [hf]

/-! ## Escaped values -/

theorem escaped_leaf {v : Value} (hl : v.isLeaf = true) : v.escaped = v := by
  cases v with
  | array _ | object _ | setRef _ => cases hl
  | _ => rfl

theorem isFinite_escaped (v : Value) (h : v.Everywhere IsFinite) :
    v.escaped.Everywhere IsFinite := by
  induction v using Value.induction with
  | leaf v hl => rwa [escaped_leaf hl]
  | array items ih =>
    rw [escaped_array]
    have hi := (everywhere_array.mp h).2
    exact everywhere_array.mpr ⟨trivial, List.forall_mem_map.mpr fun v hv => ih v hv (hi v hv)⟩
  | object fields ih =>
    rw [escaped_object]
    have hf := (everywhere_object.mp h).2
    have hi : (Value.object (Fields.mapValues escaped fields)).Everywhere IsFinite :=
      everywhere_object.mpr ⟨trivial, List.forall_mem_map.mpr fun q hq => ih q hq (hf q hq)⟩
    exact everywhere_object.mpr ⟨trivial, List.forall_mem_singleton.mpr hi⟩
  | setRef parameters => exact h

end Value

/-! ## Texts of lists -/

namespace Json.Node

theorem ofList_itemChars (node : Node) (rest : List Node) :
    String.ofList (node.chars ++ itemChars rest) =
      ",".intercalate ((node :: rest).map text) ++ "]" := by
  induction rest generalizing node with
  | nil =>
    rw [itemChars, String.ofList_append]
    simp [text]
  | cons next rest ih =>
    have hc : node.chars ++ itemChars (next :: rest) =
        node.chars ++ ([','] ++ (next.chars ++ itemChars rest)) := rfl
    rw [hc, String.ofList_append, String.ofList_append, ih next]
    simp [text, String.append_assoc]

theorem text_array (nodes : List Node) :
    (Node.array nodes).text = "[" ++ ",".intercalate (nodes.map text) ++ "]" := by
  cases nodes with
  | nil => rfl
  | cons node rest =>
    have hc : (Node.array (node :: rest)).chars = ['['] ++ (node.chars ++ itemChars rest) := by
      rw [chars]
      rfl
    rw [text, hc, String.ofList_append, ofList_itemChars, String.append_assoc]

end Json.Node

/-! ## Requests -/

namespace Expr

variable {e : Expr} {es : List Expr} {bodies : List String} {fault : NonFinite}

theorem text_eq_refusing (e : Expr) : e.text = refusing e.tree.doubles e.tree.node.text :=
  Value.text_eq_refusing e.tree

theorem batchText_eq_refusing (es : List Expr) :
    batchText es = refusing (es.flatMap fun e => e.tree.doubles)
      (Node.array (es.map fun e => e.tree.node)).text := by
  have hd : (Value.array (es.map tree)).doubles = es.flatMap fun e => e.tree.doubles := by
    rw [Value.doubles, Value.doublesOfItems_eq_flatMap, List.flatMap_map]
  have hn : (Value.array (es.map tree)).node = .array (es.map fun e => e.tree.node) := by
    rw [Value.node, Value.nodes_eq_map, List.map_map]
    rfl
  rw [batchText, list, text_eq_refusing, hd, hn]

theorem text_eq_error_iff :
    e.text = .error fault ↔
      e.tree.doubles.find? (fun x => x.isNaN || x.isInfinite) = some fault.value := by
  rw [text_eq_refusing, refusing_eq_error_iff, Binary64.not_isFinite]

theorem exists_fault_iff :
    (∃ fault, e.text = .error fault) ↔
      ∃ x, (Value.double x).Within e.tree ∧ (x.isNaN = true ∨ x.isInfinite = true) := by
  constructor
  · rintro ⟨fault, h⟩
    have hf := text_eq_error_iff.mp h
    exact ⟨fault.value, Value.mem_doubles_iff.mp (List.mem_of_find?_eq_some hf),
      by simpa using List.find?_some hf⟩
  · rintro ⟨x, hx, hn⟩
    have hs : (e.tree.doubles.find? fun x => x.isNaN || x.isInfinite).isSome = true :=
      List.find?_isSome.mpr ⟨x, Value.mem_doubles_iff.mpr hx, by simpa using hn⟩
    obtain ⟨y, hy⟩ := Option.isSome_iff_exists.mp hs
    exact ⟨⟨y⟩, text_eq_error_iff.mpr hy⟩

theorem exists_text_iff :
    (∃ body, e.text = .ok body) ↔ e.tree.doubles.find? (fun x => !x.isFinite) = none := by
  simp only [text_eq_refusing, refusing_eq_ok_iff, exists_and_left, exists_eq', and_true]

theorem text_node_of_text {body : String} (h : e.text = .ok body) : e.tree.node.text = body := by
  rw [text_eq_refusing, refusing_eq_ok_iff] at h
  exact h.2

theorem forall₂_text_iff :
    List.Forall₂ (fun e body => e.text = .ok body) es bodies ↔
      (∀ e ∈ es, ∃ body, e.text = .ok body) ∧ (es.map fun e => e.tree.node.text) = bodies := by
  induction es generalizing bodies with
  | nil => simp [eq_comm]
  | cons e es ih =>
    rw [List.forall₂_cons_left_iff, List.forall_mem_cons, List.map_cons]
    constructor
    · rintro ⟨body, bodies, he, hes, rfl⟩
      obtain ⟨hall, rfl⟩ := ih.mp hes
      exact ⟨⟨⟨body, he⟩, hall⟩, by rw [text_node_of_text he]⟩
    · rintro ⟨⟨⟨body, he⟩, hall⟩, rfl⟩
      exact ⟨body, _, he, ih.mpr ⟨hall, rfl⟩, by rw [text_node_of_text he]⟩

theorem exists_batchText_iff :
    (∃ body, batchText es = .ok body) ↔ ∀ e ∈ es, ∃ body, e.text = .ok body := by
  simp only [batchText_eq_refusing, refusing_eq_ok_iff, exists_and_left, exists_eq', and_true,
    List.find?_flatMap, List.findSome?_eq_none_iff, exists_text_iff]

/-- The text of a batch is the list of the texts. -/
theorem batchText_eq_ok_iff {body : String} :
    batchText es = .ok body ↔
      ∃ bodies, List.Forall₂ (fun e body => e.text = .ok body) es bodies ∧
        body = "[" ++ ",".intercalate bodies ++ "]" := by
  have hj : (Node.array (es.map fun e => e.tree.node)).text =
      "[" ++ ",".intercalate (es.map fun e => e.tree.node.text) ++ "]" := by
    rw [Node.text_array, List.map_map]
    rfl
  constructor
  · intro h
    have hall := exists_batchText_iff.mp ⟨body, h⟩
    rw [batchText_eq_refusing, refusing_eq_ok_iff, hj] at h
    exact ⟨_, forall₂_text_iff.mpr ⟨hall, rfl⟩, h.2.symm⟩
  · rintro ⟨bodies, hb, rfl⟩
    obtain ⟨hall, rfl⟩ := forall₂_text_iff.mp hb
    obtain ⟨body, h⟩ := exists_batchText_iff.mpr hall
    rw [h, Except.ok.injEq, ← hj]
    rw [batchText_eq_refusing, refusing_eq_ok_iff] at h
    exact h.2.symm

/-- A batch reports what the first expression that cannot be written reports. -/
theorem batchText_eq_error_iff :
    batchText es = .error fault ↔ ∃ front e back, es = front ++ e :: back ∧
      (∀ d ∈ front, ∃ body, d.text = .ok body) ∧ e.text = .error fault := by
  simp only [exists_text_iff]
  simp only [batchText_eq_refusing, refusing_eq_error_iff, List.find?_flatMap,
    List.findSome?_eq_some_iff, text_eq_refusing]
  simp only [and_comm]

/-- An expression is refused exactly if it holds a NaN or an infinity, and the fault
    names the first of them.  The text of a batch is the list of the texts of its
    expressions; if some of them are refused, so is the batch, with the fault of
    the first of these. -/
theorem reports_first_nonFinite (e : Expr) (es : List Expr) :
    ((∃ fault, e.text = .error fault) ↔
      ∃ x, (Value.double x).Within e.tree ∧ (x.isNaN = true ∨ x.isInfinite = true)) ∧
    (∀ fault, e.text = .error fault ↔
      e.tree.doubles.find? (fun x => x.isNaN || x.isInfinite) = some fault.value) ∧
    (∀ fault, e.text = .error fault →
      (fault.value.isNaN = true ∧ (CodecFault.unwritable fault).message =
        "serialization error: cannot encode non-finite double NaN") ∨
      (fault.value = .infinity false ∧ (CodecFault.unwritable fault).message =
        "serialization error: cannot encode non-finite double inf") ∨
      (fault.value = .infinity true ∧ (CodecFault.unwritable fault).message =
        "serialization error: cannot encode non-finite double -inf")) ∧
    ((∃ body, batchText es = .ok body) ↔ ∀ e ∈ es, ∃ body, e.text = .ok body) ∧
    (∀ body, batchText es = .ok body ↔
      ∃ bodies, List.Forall₂ (fun e body => e.text = .ok body) es bodies ∧
        body = "[" ++ ",".intercalate bodies ++ "]") ∧
    ∀ fault, batchText es = .error fault ↔
      ∃ front e back, es = front ++ e :: back ∧
        (∀ d ∈ front, ∃ body, d.text = .ok body) ∧ e.text = .error fault := by
  refine ⟨?_, ?_, ?_, exists_batchText_iff, fun _ => batchText_eq_ok_iff,
    fun _ => batchText_eq_error_iff⟩
  · exact exists_fault_iff
  · exact fun fault => text_eq_error_iff
  · intro fault h
    exact fault.message_cases (by simpa using List.find?_some (text_eq_error_iff.mp h))

/-- Of a NaN among the parameters of a set reference and an infinity behind it, the
    NaN is reported. -/
example : (escape (.array [.setRef [("a", .double ⟨0x7FF8000000000000⟩)],
    .double (.infinity true)])).text = .error ⟨⟨0x7FF8000000000000⟩⟩ := rfl

end Expr

end QueryWire

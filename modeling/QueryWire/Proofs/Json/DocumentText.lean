/-
  JSON trees read back from their texts.

  What is written for a tree belongs to the grammar of lists and objects
  (`listText_array`, `objectText_object`), and the induction is on the brackets
  that may still be opened (`covers_value`).  A tree within the limit of open
  brackets, without repeated keys and with numbers that the reader of numbers
  takes for themselves, is read back from its text (`document_text`); of a
  floating point number the reader of documents does this exactly if the reader
  of numbers does (`Number.readsBack_of_document`).
-/
import QueryWire.Proofs.Json.NodeText
import QueryWire.Proofs.Json.Reading

namespace QueryWire.Json

open Text
open Decimal (isNumberChar)

/-! ## Trees that can be read back -/

/-- The reader of numbers takes the text of the number for this number. -/
def Number.ReadsBack (n : Number) : Prop :=
  number n.chars = .ok (n, [])

instance (n : Number) : Decidable n.ReadsBack :=
  match h : number n.chars with
  | .ok (m, []) => decidable_of_iff (m = n) (by simp [Number.ReadsBack, h])
  | .ok (m, c :: cs) => isFalse (by simp [Number.ReadsBack, h])
  | .error fault => isFalse (by simp [Number.ReadsBack, h])

namespace Number

theorem toNat_toUInt64 {n : Int64} (h : ¬ n < 0) : (n.toUInt64.toNat : Int) = n.toInt := by
  have hle : 0 ≤ n := Int64.not_lt.mp h
  have hi : 0 ≤ n.toInt := Int64.le_iff_toInt_le.mp hle
  rw [Int64.toNat_toUInt64_of_le hle, Int64.toNatClampNeg, Int.toNat_of_nonneg hi]

theorem int64?_ofInt64 (n : Int64) : (ofInt64 n).int64? = some n := by
  unfold ofInt64
  by_cases h : n < 0
  · rw [dif_pos h]
    rfl
  · have hlt : n.toUInt64.toNat < int64End := by
      have := toNat_toUInt64 h
      have := n.toInt_lt
      unfold int64End
      omega
    rw [dif_neg h, int64?, if_pos hlt]
    exact congrArg some (Int64.toInt64_toUInt64 n)

theorem chars_ofInt64 (n : Int64) : (ofInt64 n).chars = Numeral.ofInt n.toInt := by
  refine chars_of_int ?_
  unfold ofInt64
  by_cases h : n < 0
  · rw [dif_pos h]
    rfl
  · rw [dif_neg h]
    exact congrArg some (toNat_toUInt64 h)

theorem readsBack_ofInt64 (n : Int64) : (ofInt64 n).ReadsBack := by
  unfold ofInt64
  split
  · rename_i h
    exact number_ofInt h
  · exact number_ofNat n.toUInt64

end Number

namespace Node

mutual
/-- The most brackets that are open at the same time in the text of a node. -/
def nesting : Node → Nat
  | .array items => nestingItems items + 1
  | .object entries => nestingEntries entries + 1
  | _ => 0

def nestingItems : List Node → Nat
  | [] => 0
  | node :: rest => max (nesting node) (nestingItems rest)

def nestingEntries : List (String × Node) → Nat
  | [] => 0
  | (_, node) :: rest => max (nesting node) (nestingEntries rest)
end

mutual
/-- Every number in the tree reads back. -/
def ReadsBack : Node → Prop
  | .number n => n.ReadsBack
  | .array items => ReadsBackItems items
  | .object entries => ReadsBackEntries entries
  | _ => True

def ReadsBackItems : List Node → Prop
  | [] => True
  | node :: rest => ReadsBack node ∧ ReadsBackItems rest

def ReadsBackEntries : List (String × Node) → Prop
  | [] => True
  | (_, node) :: rest => ReadsBack node ∧ ReadsBackEntries rest
end

theorem readsBackItems_iff (items : List Node) :
    ReadsBackItems items ↔ ∀ node ∈ items, ReadsBack node := by
  induction items with
  | nil => simp [ReadsBackItems]
  | cons node rest ih => simp [ReadsBackItems, ih]

theorem readsBackEntries_iff (entries : List (String × Node)) :
    ReadsBackEntries entries ↔ ∀ p ∈ entries, ReadsBack p.2 := by
  induction entries with
  | nil => simp [ReadsBackEntries]
  | cons p rest ih => simp only [ReadsBackEntries, ih, List.forall_mem_cons]

theorem nestingItems_le_iff (items : List Node) (n : Nat) :
    nestingItems items ≤ n ↔ ∀ node ∈ items, nesting node ≤ n := by
  induction items with
  | nil => simp [nestingItems]
  | cons node rest ih => simp only [nestingItems, Nat.max_le, ih, List.forall_mem_cons]

theorem nestingEntries_le_iff (entries : List (String × Node)) (n : Nat) :
    nestingEntries entries ≤ n ↔ ∀ p ∈ entries, nesting p.2 ≤ n := by
  induction entries with
  | nil => simp [nestingEntries]
  | cons p rest ih => simp only [nestingEntries, Nat.max_le, ih, List.forall_mem_cons]

end Node

open Node (itemChars entryChars chars_eq_cons delimits_itemChars delimits_entryChars)

/-! ## Written lists and objects -/

section

variable {α : Type} {Text : α → List Char → Prop} {f : α → Node}

theorem tailText_itemChars {xs : List α} (h : ∀ x ∈ xs, Text x (f x).chars) :
    TailText ']' Text xs (itemChars (xs.map f)) := by
  induction xs with
  | nil => exact .close blanks_nil
  | cons x xs ih =>
    obtain ⟨hx, hxs⟩ := List.forall_mem_cons.mp h
    exact .comma blanks_nil blanks_nil hx (ih hxs)

theorem listText_array {xs : List α} (h : ∀ x ∈ xs, Text x (f x).chars) :
    ListText Text xs (Node.array (xs.map f)).chars := by
  cases xs with
  | nil => exact .empty blanks_nil
  | cons x xs =>
    obtain ⟨hx, hxs⟩ := List.forall_mem_cons.mp h
    exact .items blanks_nil hx (tailText_itemChars hxs)

end

section

variable {Text : Node → List Char → Prop} {fields : List (String × Node)}

theorem memberText_stringChars {α : Type} {Value : α → List Char → Prop} (key : String) {x : α}
    {v : List Char} (h : Value x v) :
    MemberText StringText Value (key, x) (stringChars key ++ ':' :: v) :=
  ⟨_, [], [], v, rfl, blanks_nil, blanks_nil, stringText_stringChars key, h⟩

theorem tailText_entryChars (h : ∀ p ∈ fields, Text p.2 p.2.chars) :
    TailText '\x7d' (MemberText StringText Text) fields (entryChars fields) := by
  induction fields with
  | nil => exact .close blanks_nil
  | cons p fields ih =>
    obtain ⟨hp, hps⟩ := List.forall_mem_cons.mp h
    have ht := TailText.comma blanks_nil blanks_nil (memberText_stringChars p.1 hp) (ih hps)
    rwa [List.append_assoc] at ht

theorem objectText_object (h : ∀ p ∈ fields, Text p.2 p.2.chars) :
    ObjectText StringText Text fields (Node.object fields).chars := by
  cases fields with
  | nil => exact .empty blanks_nil
  | cons p fields =>
    obtain ⟨hp, hps⟩ := List.forall_mem_cons.mp h
    have ht : ObjectText StringText Text _ _ :=
      .items blanks_nil (memberText_stringChars p.1 hp) (tailText_entryChars hps)
    rwa [List.append_assoc] at ht

end

/-! ## Values -/

section

variable {inner : Option (Reader Node)}

theorem startsNumber_of_number {c : Char} {cs left : List Char} {n : Number}
    (h : number (c :: cs) = .ok (n, left)) : startsNumber c = true := by
  by_cases hm : c = '-'
  · rw [hm]
    rfl
  have hu : number (c :: cs) = unsignedNumber false (c :: cs) := by simp [number, hm]
  rw [hu, unsignedNumber.eq_def] at h
  dsimp only at h
  by_cases hz : c = '0'
  · rw [hz]
    rfl
  rw [if_neg hz] at h
  by_cases hd : c.isDigit = true
  · simp [startsNumber, hd]
  · rw [if_neg hd] at h
    cases h

theorem isNumberChar_of_startsNumber {c : Char} (h : startsNumber c = true) :
    isNumberChar c = true := by
  rcases (Bool.or_eq_true _ _).mp h with hm | hd
  · rw [eq_of_beq hm]
    rfl
  · exact Decimal.isNumberChar_of_isDigit hd

theorem valueWith_number {c : Char} (h : startsNumber c = true) (cs : List Char) :
    valueWith inner (c :: cs) =
      (number (c :: cs)).map (fun (n, left) => (.number n, left)) := by
  have hn := isNumberChar_of_startsNumber h
  have hne : ∀ d, isNumberChar d = false → c ≠ d := fun d => ne_of_isNumberChar hn
  unfold valueWith
  rw [skipBlanks_cons (isBlank_of_isNumberChar hn)]
  dsimp only
  rw [if_neg (hne 'n' rfl), if_neg (hne 't' rfl), if_neg (hne 'f' rfl), if_neg (hne '"' rfl),
    if_pos h]

theorem valueWith_blanks {b : List Char} (hb : Blanks b) (cs : List Char) :
    valueWith inner (b ++ cs) = valueWith inner cs := by
  rw [valueWith, valueWith, skipBlanks_append hb]

theorem valueWith_stringText {s : String} {cs : List Char} (h : StringText s cs)
    (rest : List Char) : valueWith inner (cs ++ rest) = .ok (.string s, rest) := by
  have hv : ∀ cs, valueWith inner ('"' :: cs) =
      (stringBody cs).map (fun p => (.string p.1, p.2)) := fun cs => rfl
  obtain ⟨tail, rfl, hread⟩ := h.exists_stringBody
  rw [List.cons_append, hv, hread]
  rfl

theorem valueWith_readsBack {n : Number} (hb : n.ReadsBack) {rest : List Char}
    (hr : StopsNumber rest) : valueWith inner (n.chars ++ rest) = .ok (.number n, rest) := by
  have hs := number_append hb hr
  unfold Number.ReadsBack at hb
  cases hc : n.chars with
  | nil => exact absurd hc n.chars_ne_nil
  | cons c cs =>
    rw [hc] at hs hb
    rw [List.cons_append] at hs ⊢
    rw [valueWith_number (startsNumber_of_number hb), hs]
    rfl

/-- A node without brackets is read back at any depth. -/
theorem takes_scalar {node : Node} (hn : node.nesting = 0) (hb : node.ReadsBack) :
    Takes (valueWith inner) node node.chars := by
  intro rest hr
  cases node with
  | null => rfl
  | bool b => cases b <;> rfl
  | number n => exact valueWith_readsBack hb hr
  | string s => exact valueWith_stringText (stringText_stringChars s) rest
  | array items => cases hn
  | object entries => cases hn

end

section

variable {read : Reader Node} {Text : Node → List Char → Prop} {cs : List Char}

theorem takes_array (h : Covers read Text) {nodes : List Node} (ht : ListText Text nodes cs) :
    Takes (valueWith (some read)) (.array nodes) cs := by
  intro rest _
  have hv : ∀ cs, valueWith (some read) ('[' :: cs) =
      (items read cs).map (fun p => (.array p.1, p.2)) := fun cs => rfl
  obtain ⟨tail, rfl, hread⟩ := items_listText (BracketText.imp ht fun _ _ hx _ => h.item hx)
  rw [List.cons_append, hv, hread]
  rfl

theorem takes_object (h : Covers read Text) {fields : List (String × Node)}
    (hd : Fields.Distinct fields) (ht : ObjectText StringText Text fields cs) :
    Takes (valueWith (some read)) (.object fields) cs := by
  intro rest _
  have hv : ∀ cs, valueWith (some read) ('\x7b' :: cs) =
      (Json.entries (entry read stringBody) cs).map
        (fun p => (.object (Fields.ofPairs p.1), p.2)) := fun cs => rfl
  obtain ⟨tail, rfl, hread⟩ := entries_objectText coversKeys_stringBody h ht
  rw [List.cons_append, hv, hread]
  show Except.ok (Node.object (Fields.ofPairs fields), rest) = _
  rw [Fields.ofPairs_of_distinct hd]

end

/-- The text that is written for a node which can be read back within the brackets. -/
structure NodeText (opens : Nat) (node : Node) (cs : List Char) : Prop where
  chars : cs = node.chars
  nesting : node.nesting ≤ opens
  distinct : node.Distinct
  readsBack : node.ReadsBack

theorem NodeText.begins {opens : Nat} {node : Node} {cs : List Char} (h : NodeText opens node cs) :
    Begins cs := by
  obtain ⟨c, tail, hc, -, hb, hs, -⟩ := chars_eq_cons node
  exact ⟨c, tail, h.chars.trans hc, hb, hs⟩

/-- The induction is on the brackets that may be opened: a list hands one less
    to its items. -/
theorem covers_value (opens : Nat) : Covers (value opens) (NodeText opens) := by
  refine ⟨NodeText.begins, ?_⟩
  induction opens with
  | zero =>
    rintro node b cs hblanks ⟨rfl, hn, hd, hb⟩ rest hr
    rw [value, List.append_assoc, valueWith_blanks hblanks]
    exact takes_scalar (Nat.le_zero.mp hn) hb rest hr
  | succ opens ih =>
    rintro node b cs hblanks ⟨rfl, hn, hd, hb⟩ rest hr
    have hc : Covers (value opens) (NodeText opens) := ⟨NodeText.begins, ih⟩
    rw [value, List.append_assoc, valueWith_blanks hblanks]
    cases node with
    | array nodes =>
      have hle := (Node.nestingItems_le_iff nodes opens).mp (Nat.le_of_succ_le_succ hn)
      have hds := (Node.distinctItems_iff nodes).mp hd
      have hbs := (Node.readsBackItems_iff nodes).mp hb
      have hnode : ∀ n ∈ nodes, NodeText opens n (id n).chars := fun n hm =>
        ⟨rfl, hle n hm, hds n hm, hbs n hm⟩
      have ht := listText_array hnode
      rw [List.map_id] at ht
      exact takes_array hc ht rest hr
    | object fields =>
      have hle := (Node.nestingEntries_le_iff fields opens).mp (Nat.le_of_succ_le_succ hn)
      have hds := (Node.distinctEntries_iff fields).mp hd.2
      have hbs := (Node.readsBackEntries_iff fields).mp hb
      exact takes_object hc hd.1
        (objectText_object fun p hp => ⟨rfl, hle p hp, hds p hp, hbs p hp⟩) rest hr
    | null => exact takes_scalar rfl hb rest hr
    | bool b => exact takes_scalar rfl hb rest hr
    | number n => exact takes_scalar rfl hb rest hr
    | string s => exact takes_scalar rfl hb rest hr

/-! ## Documents -/

theorem document_text {node : Node} (hn : node.nesting ≤ nestingLimit) (hd : node.Distinct)
    (hb : node.ReadsBack) : document node.text = .ok node := by
  have hv := (covers_value nestingLimit).takes blanks_nil ⟨rfl, hn, hd, hb⟩ [] stopsNumber_nil
  rw [List.append_nil, List.nil_append] at hv
  unfold document whole Node.text
  rw [String.toList_ofList, hv]
  rfl

theorem whole_of_ok {α : Type} {read : Reader α} {cs left : List Char} {x : α}
    (h : read cs = .ok (x, left)) (hl : skipBlanks left = []) : whole read cs = .ok x := by
  unfold whole finish
  rw [h]
  dsimp only
  rw [hl]
  rfl

theorem whole_eq_ok {α : Type} {read : Reader α} {cs : List Char} {x : α}
    (h : whole read cs = .ok x) :
    ∃ left, read cs = .ok (x, left) ∧ skipBlanks left = [] := by
  unfold whole at h
  cases hr : read cs with
  | error fault =>
    rw [hr] at h
    cases h
  | ok p =>
    obtain ⟨y, left⟩ := p
    rw [hr] at h
    dsimp only at h
    unfold finish at h
    cases hs : skipBlanks left with
    | nil =>
      rw [hs] at h
      cases h
      exact ⟨left, rfl, hs⟩
    | cons c cs =>
      rw [hs] at h
      cases h

theorem valueWith_isNumberChar {inner : Option (Reader Node)} {c : Char} {cs : List Char}
    (hc : isNumberChar c = true) {found : Node × List Char}
    (h : valueWith inner (c :: cs) = .ok found) : startsNumber c = true := by
  simp only [isNumberChar, Bool.or_eq_true, beq_iff_eq] at hc
  rcases hc with (((hd | rfl) | rfl) | rfl) | rfl
  · simp [startsNumber, hd]
  · cases h
  · cases h
  · cases h
  · rfl

/-- A number that is read from the document it makes is read by the reader of
    numbers. -/
theorem Number.readsBack_of_document {n : Number}
    (h : document (Node.text (.number n)) = .ok (.number n)) : n.ReadsBack := by
  unfold document Node.text at h
  rw [String.toList_ofList, Node.chars] at h
  obtain ⟨left, hv, hl⟩ := whole_eq_ok h
  have hnum : ∀ c ∈ n.chars, isNumberChar c = true := fun c => isNumberChar_of_mem_chars
  unfold ReadsBack
  cases hc : n.chars with
  | nil => exact absurd hc n.chars_ne_nil
  | cons c cs =>
    rw [hc] at hv hnum
    have hw : value nestingLimit (c :: cs) = valueWith (some (value 126)) (c :: cs) := rfl
    rw [hw] at hv
    have hs := valueWith_isNumberChar (hnum c List.mem_cons_self) hv
    rw [valueWith_number hs] at hv
    cases hn : number (c :: cs) with
    | error fault =>
      rw [hn] at hv
      cases hv
    | ok found =>
      obtain ⟨m, after⟩ := found
      rw [hn] at hv
      cases hv
      -- what is left belongs to the number, so it is no blank
      have hsuf := (streams_number _ _ _ hn).1
      cases left with
      | nil => rfl
      | cons d ds =>
        have hd := hnum d (hsuf.subset List.mem_cons_self)
        rw [skipBlanks_cons (isBlank_of_isNumberChar hd)] at hl
        cases hl

theorem Number.readsBack_iff {n : Number} :
    n.ReadsBack ↔ document (Node.text (.number n)) = .ok (.number n) :=
  ⟨fun h => document_text (Nat.zero_le _) trivial h, readsBack_of_document⟩

end QueryWire.Json

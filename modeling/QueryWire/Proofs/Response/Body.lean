/-
  The descriptors in a body read back, whatever its layout.

  A body has many texts: members in any order and among any others, blanks
  anywhere, strings with any escapes, and empty lists written or left out
  (`BodyText`).  Each of them is read as the descriptors it was written for, and
  the text that is written for descriptors is one of them
  (`readBody_of_bodyText`).
-/
import QueryWire.Proofs.Json.Record
import QueryWire.Response.Failure

namespace QueryWire

open Json

namespace Response

/-! ## Layouts -/

/-- A list that may be left out if it is empty. -/
def listPart {α : Type} (key : String) (Item : α → List Char → Prop) (xs : List α) : Part where
  key := key
  optional := xs = []
  Text := ListText Item xs

def stringPart (key s : String) : Part where
  key := key
  optional := False
  Text := StringText s

/-- An index is written as a numeral, and a field as a string. -/
def SegmentText : Segment → List Char → Prop
  | .index n, cs => cs = Text.Numeral.ofInt n.toInt
  | .field name, cs => StringText name cs

def FieldFailure.parts (f : FieldFailure) : List Part :=
  [listPart "field" StringText f.field, stringPart "code" f.code,
    stringPart "description" f.description]

def FieldFailureText (f : FieldFailure) : List Char → Prop :=
  RecordText f.parts

def Descriptor.parts (d : Descriptor) : List Part :=
  [listPart "position" SegmentText d.position, stringPart "code" d.code,
    stringPart "description" d.description, listPart "failures" FieldFailureText d.failures]

def DescriptorText (d : Descriptor) : List Char → Prop :=
  RecordText d.parts

/-- The list of descriptors has to be there, even if it is empty. -/
def bodyParts (ds : List Descriptor) : List Part :=
  [{ listPart "errors" DescriptorText ds with optional := False }]

/-- The texts of a body with these descriptors. -/
def BodyText (ds : List Descriptor) (text : String) : Prop :=
  ∃ front cs back, text.toList = front ++ (cs ++ back) ∧ Blanks front ∧ Blanks back ∧
    RecordText (bodyParts ds) cs

/-! ## Reading -/

theorem positionNesting_eq (cs : List Char) :
    Json.value positionNesting cs = valueWith (some (Json.value 122)) cs :=
  rfl

theorem SegmentText.begins {s : Segment} {cs : List Char} (h : SegmentText s cs) : Begins cs := by
  cases s with
  | index n =>
    cases h
    rw [← Number.chars_ofInt64]
    have hr := Number.readsBack_ofInt64 n
    unfold Number.ReadsBack at hr
    cases hc : (Number.ofInt64 n).chars with
    | nil => exact absurd hc (Number.chars_ne_nil _)
    | cons c tail =>
      rw [hc] at hr
      have hn := isNumberChar_of_startsNumber (startsNumber_of_number hr)
      exact ⟨c, tail, rfl, isBlank_of_isNumberChar hn, ne_of_isNumberChar hn rfl⟩
  | field name => exact covers_typedString.begins h

/-- Numerals and strings are told apart by how they begin. -/
theorem covers_segment : Covers Segment.read SegmentText where
  begins := SegmentText.begins
  takes := by
    intro s b cs hb h rest hr
    rw [Segment.read, List.append_assoc, positionNesting_eq, valueWith_blanks hb]
    cases s with
    | index n =>
      cases h
      rw [← Number.chars_ofInt64, valueWith_readsBack (Number.readsBack_ofInt64 n) hr]
      dsimp only
      rw [Segment.ofNode?, Number.int64?_ofInt64]
      rfl
    | field name =>
      rw [valueWith_stringText h]
      rfl

section

variable {π φ : Type}

/-- The draft of a record of which these keys have been read; `failures` is `none`
    if the record has no such member. -/
def Draft.afterKeys (pathKey : String) (path : π) (code description : String)
    (failures : Option φ) (seen : List String) : Draft π φ where
  path := if pathKey ∈ seen then some path else none
  code := if "code" ∈ seen then some code else none
  description := if "description" ∈ seen then some description else none
  failures := if "failures" ∈ seen then failures else none

variable {pathKey code description : String}

theorem afterKeys_ignores {path : π} {failures : Option φ} {seen : List String} {key : String}
    (hk : key ∉ [pathKey, "code", "description"]) (hf : key ≠ "failures" ∨ failures = none) :
    Draft.afterKeys pathKey path code description failures (key :: seen) =
      Draft.afterKeys pathKey path code description failures seen := by
  simp only [List.mem_cons, List.not_mem_nil, or_false, not_or] at hk
  obtain ⟨hp, hc, hd⟩ := hk
  rcases hf with hf | rfl
  · simp [Draft.afterKeys, Ne.symm hp, Ne.symm hc, Ne.symm hd, Ne.symm hf]
  · simp [Draft.afterKeys, Ne.symm hp, Ne.symm hc, Ne.symm hd]

theorem fits_pathSlot {read : Reader π} {Text : π → List Char → Prop} (h : Covers read Text)
    {path : List π} {failures : Option φ} (hk : pathKey ∉ ["code", "description", "failures"]) :
    Fits (Draft.afterKeys pathKey path code description failures)
      (pathSlot pathKey (typedList read)) (listPart pathKey Text path) := by
  refine fits_of_covers (covers_typedList h) (fun draft p => { draft with path := some p }) rfl
    rfl (fun _ _ => rfl) ?_
  intro seen hs
  simp only [List.mem_cons, List.not_mem_nil, or_false, not_or] at hk
  obtain ⟨hc, hd, hf⟩ := hk
  have hn : pathKey ∉ seen := hs
  simp [Draft.afterKeys, listPart, pathSlot, hn, Ne.symm hc, Ne.symm hd, Ne.symm hf]

theorem fits_codeSlot {path : π} {failures : Option φ} (hk : pathKey ≠ "code") :
    Fits (Draft.afterKeys pathKey path code description failures) codeSlot
      (stringPart "code" code) := by
  refine fits_of_covers covers_typedString (fun draft s => { draft with code := some s }) rfl
    rfl (fun _ _ => rfl) ?_
  intro seen hs
  have hn : "code" ∉ seen := hs
  simp [Draft.afterKeys, stringPart, codeSlot, hn, hk]

theorem fits_descriptionSlot {path : π} {failures : Option φ} (hk : pathKey ≠ "description") :
    Fits (Draft.afterKeys pathKey path code description failures) descriptionSlot
      (stringPart "description" description) := by
  refine fits_of_covers covers_typedString (fun draft s => { draft with description := some s })
    rfl rfl (fun _ _ => rfl) ?_
  intro seen hs
  have hn : "description" ∉ seen := hs
  simp [Draft.afterKeys, stringPart, descriptionSlot, hn, hk]

theorem fits_failuresSlot {path : π} {read : Reader φ} {Text : φ → List Char → Prop}
    (h : Covers read Text) {failures : List φ} (hk : pathKey ≠ "failures") :
    Fits (Draft.afterKeys pathKey path code description (some failures))
      (failuresSlot (typedList read)) (listPart "failures" Text failures) := by
  refine fits_of_covers (covers_typedList h) (fun draft f => { draft with failures := some f })
    rfl rfl (fun _ _ => rfl) ?_
  intro seen hs
  have hn : "failures" ∉ seen := hs
  simp [Draft.afterKeys, listPart, failuresSlot, hn, hk]

end

/-- An empty list need not be written. -/
theorem getD_listPart {α : Type} {key : String} {xs : List α} {seen : List String}
    (h : key ∈ seen ∨ xs = []) : (if key ∈ seen then some xs else none).getD [] = xs := by
  by_cases hk : key ∈ seen
  · rw [if_pos hk]
    rfl
  · rw [if_neg hk, h.resolve_left hk]
    rfl

theorem assembles_fieldFailure (f : FieldFailure) :
    Assembles [pathSlot "field" (typedList typedString), codeSlot, descriptionSlot] {}
      FieldFailure.complete f.parts
      (Draft.afterKeys "field" f.field f.code f.description none) f where
  fits := .cons (fits_pathSlot covers_typedString (by decide))
    (.cons (fits_codeSlot (by decide)) (.cons (fits_descriptionSlot (by decide)) .nil))
  empty_eq := rfl
  ignores hk := afterKeys_ignores hk (.inr rfl)
  completes := by
    intro seen h
    simp only [FieldFailure.parts, listPart, stringPart, List.forall_mem_cons, or_false] at h
    obtain ⟨hp, hc, hd, -⟩ := h
    simp only [FieldFailure.complete, Draft.afterKeys, if_pos hc, if_pos hd, getD_listPart hp]
    rfl

theorem covers_fieldFailure : Covers FieldFailure.read FieldFailureText :=
  covers_record assembles_fieldFailure

theorem assembles_descriptor (d : Descriptor) :
    Assembles [pathSlot "position" (typedList Segment.read), codeSlot, descriptionSlot,
        failuresSlot (typedList FieldFailure.read)] {}
      Descriptor.complete d.parts
      (Draft.afterKeys "position" d.position d.code d.description (some d.failures)) d where
  fits := .cons (fits_pathSlot covers_segment (by decide))
    (.cons (fits_codeSlot (by decide)) (.cons (fits_descriptionSlot (by decide))
      (.cons (fits_failuresSlot covers_fieldFailure (by decide)) .nil)))
  empty_eq := rfl
  ignores hk := by
    simp only [Descriptor.parts, listPart, stringPart, List.map_cons, List.map_nil,
      List.mem_cons, List.not_mem_nil, or_false, not_or] at hk
    obtain ⟨hp, hc, hd, hf⟩ := hk
    exact afterKeys_ignores (by simp [hp, hc, hd]) (.inl hf)
  completes := by
    intro seen h
    simp only [Descriptor.parts, listPart, stringPart, List.forall_mem_cons, or_false] at h
    obtain ⟨hp, hc, hd, hf, -⟩ := h
    simp only [Descriptor.complete, Draft.afterKeys, if_pos hc, if_pos hd, getD_listPart hp,
      getD_listPart hf]
    rfl

theorem covers_descriptor : Covers Descriptor.read DescriptorText :=
  covers_record assembles_descriptor

theorem assembles_body (ds : List Descriptor) :
    Assembles [errorsSlot] none id (bodyParts ds)
      (fun seen => if "errors" ∈ seen then some ds else none) ds where
  fits := by
    refine .cons (fits_of_covers (covers_typedList covers_descriptor) (fun _ ds => some ds) rfl
      rfl (fun _ _ => rfl) fun {seen} hs => ?_) .nil
    have hn : "errors" ∉ seen := hs
    simp [errorsSlot, listPart, hn]
  empty_eq := rfl
  ignores hk := by
    have hk : _ ≠ "errors" := fun he => hk (List.mem_singleton.mpr he)
    simp [Ne.symm hk]
  completes := by
    intro seen h
    have he : "errors" ∈ seen := (List.forall_mem_singleton.mp h).resolve_right id
    exact if_pos he

theorem readBody_eq_ok {ds : List Descriptor} {text : String} (h : BodyText ds text) :
    readBody text = .ok ds := by
  obtain ⟨front, cs, back, ht, hfront, hback, hcs⟩ := h
  have hread := (covers_record assembles_body).takes hfront hcs back
    (List.append_nil back ▸ stopsNumber_append hback stopsNumber_nil)
  rw [readBody, ht, ← List.append_assoc]
  exact whole_of_ok hread (skipBlanks_eq_nil hback)

/-! ## Writing -/

theorem segmentText_toNode (s : Segment) : SegmentText s s.toNode.chars := by
  cases s with
  | index n => exact Number.chars_ofInt64 n
  | field name => exact stringText_stringChars name

theorem listText_strings (names : List String) :
    ListText StringText names (Node.array (names.map .string)).chars :=
  listText_array fun name _ => stringText_stringChars name

theorem fieldFailureText_toNode (f : FieldFailure) : FieldFailureText f f.toNode.chars := by
  have hd : ["field", "code", "description"].Nodup := by decide
  refine recordText_object (isRecord_of_forall₂ hd ?_)
  exact .cons ⟨rfl, listText_strings f.field⟩ (.cons ⟨rfl, stringText_stringChars f.code⟩
    (.cons ⟨rfl, stringText_stringChars f.description⟩ .nil))

theorem descriptorText_toNode (d : Descriptor) : DescriptorText d d.toNode.chars := by
  have hposition := listText_array fun s (_ : s ∈ d.position) => segmentText_toNode s
  have hcode := stringText_stringChars d.code
  have hdescription := stringText_stringChars d.description
  refine recordText_object ?_
  by_cases hf : d.failures.isEmpty = true
  · -- the failures are the one member that is not written
    have hd : ["position", "code", "description"].Nodup := by decide
    have hn : "failures" ∉ ["position", "code", "description"] := by decide
    have h : IsRecord [listPart "position" SegmentText d.position, stringPart "code" d.code,
        stringPart "description" d.description]
        [("position", (Node.array (d.position.map Segment.toNode)).chars),
          ("code", stringChars d.code), ("description", stringChars d.description)] :=
      isRecord_of_forall₂ hd
        (.cons ⟨rfl, hposition⟩ (.cons ⟨rfl, hcode⟩ (.cons ⟨rfl, hdescription⟩ .nil)))
    rw [if_pos hf]
    have ho : (listPart "failures" FieldFailureText d.failures).optional := List.isEmpty_iff.mp hf
    exact h.append_optional ho hn
  · have hd : ["position", "code", "description", "failures"].Nodup := by decide
    rw [if_neg hf]
    refine isRecord_of_forall₂ hd ?_
    exact .cons ⟨rfl, hposition⟩ (.cons ⟨rfl, hcode⟩ (.cons ⟨rfl, hdescription⟩
      (.cons ⟨rfl, listText_array fun f _ => fieldFailureText_toNode f⟩ .nil)))

theorem bodyText_bodyNode (ds : List Descriptor) : BodyText ds (bodyNode ds).text := by
  have hd : ["errors"].Nodup := by decide
  refine ⟨[], (bodyNode ds).chars, [], ?_, blanks_nil, blanks_nil,
    recordText_object (isRecord_of_forall₂ hd ?_)⟩
  · rw [Node.text, String.toList_ofList, List.append_nil, List.nil_append]
  · exact .cons ⟨rfl, listText_array fun d _ => descriptorText_toNode d⟩ .nil

/-- Every text of a body is read as its descriptors, and so the failure of a
    response has them all.  The text that is written for descriptors is one of
    these texts. -/
theorem readBody_of_bodyText (ds : List Descriptor) :
    (∀ text, BodyText ds text → readBody text = .ok ds ∧
      ∀ status, Failure.ofResponse status text =
        ⟨.ofStatus status, .ofDescriptors status ds⟩) ∧
    BodyText ds (bodyNode ds).text ∧ readBody (bodyNode ds).text = .ok ds := by
  have hb := bodyText_bodyNode ds
  refine ⟨fun text ht => ⟨readBody_eq_ok ht, fun status => ?_⟩, hb, readBody_eq_ok hb⟩
  rw [Failure.ofResponse, readBody_eq_ok ht]

def sampleDescriptor : Descriptor :=
  ⟨[.index 0, .field "0"], "c", "d/", []⟩

/-- A number too large for a double in an object in a list. -/
theorem valueText_sample : ValueText 2 "[null,\x7b\"a\":-1.5e400\x7d]".toList := by
  have hnumber : ValueText 0 ['-', '1', '.', '5', 'e', '4', '0', '0'] :=
    .inr (.inr ⟨['-'], ['1'], ['.', '5'], ['e', '4', '0', '0'], rfl, .inr rfl, by decide,
      by decide, .inr ⟨['5'], by decide, rfl⟩,
      .inr ⟨'e', [], ['4', '0', '0'], .inl rfl, .inl rfl, by decide, rfl⟩⟩)
  have hkey : RawString ['"', 'a', '"'] :=
    ⟨['a'], rfl, .plain ⟨by decide, by decide, by decide⟩ .nil⟩
  have hobject : ObjectText (fun (_ : Unit) => RawString) (fun (_ : Unit) => ValueText 0)
      [((), ())] _ :=
    .items blanks_nil ⟨_, [], [], _, rfl, blanks_nil, blanks_nil, hkey, hnumber⟩
      (.close blanks_nil)
  have hnull : ValueText 1 ['n', 'u', 'l', 'l'] := .inl (.inl (.inl rfl))
  have hlist : ListText (fun (_ : Unit) => ValueText 1) [(), ()] _ :=
    .items blanks_nil hnull (.comma blanks_nil blanks_nil (.inr (.inr ⟨_, hobject⟩))
      (.close blanks_nil))
  exact .inr (.inl ⟨_, hlist⟩)

/-- Members in another order, with escapes, and an empty list written out. -/
theorem descriptorText_sample : DescriptorText sampleDescriptor
    ("\x7b\"failures\":[ ],\"description\":\"\\u0064\\/\",".toList ++
      "\"code\":\"c\",\"position\":[0 ,\"0\"]\x7d".toList) := by
  have hspace : Blanks [' '] := by decide
  have hfailures : ListText FieldFailureText sampleDescriptor.failures ['[', ' ', ']'] :=
    .empty hspace
  have hdescription : StringText sampleDescriptor.description
      ['"', '\\', 'u', '0', '0', '6', '4', '\\', '/', '"'] :=
    ⟨_, rfl, .cons (@CharText.code 'd' ['0', '0', '6', '4'] rfl) (.cons (.short rfl) .nil)⟩
  have hindex : SegmentText (.index 0) ['0'] := rfl
  have hfield : SegmentText (.field "0") ['"', '0', '"'] := stringText_stringChars "0"
  have hposition : ListText SegmentText sampleDescriptor.position
      ['[', '0', ' ', ',', '"', '0', '"', ']'] :=
    .items blanks_nil hindex (.comma hspace blanks_nil hfield (.close blanks_nil))
  have hd : ["position", "code", "description", "failures"].Nodup := by decide
  have hrecord : IsRecord sampleDescriptor.parts [("position", _), ("code", _),
      ("description", _), ("failures", _)] :=
    isRecord_of_forall₂ hd (.cons ⟨rfl, hposition⟩ (.cons ⟨rfl, stringText_stringChars "c"⟩
      (.cons ⟨rfl, hdescription⟩ (.cons ⟨rfl, hfailures⟩ .nil))))
  refine ⟨_, hrecord.perm (List.reverse_perm _).symm, ?_⟩
  exact .items blanks_nil (memberText_stringChars "failures" rfl)
    (.comma blanks_nil blanks_nil (memberText_stringChars "description" rfl)
      (.comma blanks_nil blanks_nil (memberText_stringChars "code" rfl)
        (.comma blanks_nil blanks_nil (memberText_stringChars "position" rfl)
          (.close blanks_nil))))

def sampleText : String :=
  "\x7b\"id\":[null,\x7b\"a\":-1.5e400\x7d], \"errors\" :[ \x7b\"failures\":[ ]," ++
    "\"description\":\"\\u0064\\/\",\"code\":\"c\",\"position\":[0 ,\"0\"]\x7d]\x7d\n"

/-- An unknown member in front, and blanks in most places. -/
theorem bodyText_sample : BodyText [sampleDescriptor] sampleText := by
  have hspace : Blanks [' '] := by decide
  have hd : ["errors"].Nodup := by decide
  have herrors : ListText DescriptorText [sampleDescriptor] _ :=
    .items hspace descriptorText_sample (.close blanks_nil)
  have hrecord : IsRecord (bodyParts [sampleDescriptor]) [("errors", _)] :=
    isRecord_of_forall₂ hd (.cons ⟨rfl, herrors⟩ .nil)
  have hmember (v : List Char) : MemberText StringText Eq ("errors", v)
      (stringChars "errors" ++ ([' '] ++ ':' :: ([] ++ v))) :=
    ⟨_, _, _, _, rfl, hspace, blanks_nil, stringText_stringChars "errors", rfl⟩
  refine ⟨[], _, ['\n'], ?_, blanks_nil, by decide,
    _, hrecord.cons_unknown (by decide) (by decide) ⟨2, valueText_sample⟩,
    .items blanks_nil (memberText_stringChars "id" rfl)
      (.comma blanks_nil hspace (hmember _) (.close blanks_nil))⟩
  decide +kernel

/-- The index stays an index and the field a field. -/
theorem readBody_of_bodyText_sample :
    BodyText [sampleDescriptor] sampleText ∧ readBody sampleText = .ok [sampleDescriptor] ∧
    Failure.ofResponse 400 sampleText =
      ⟨.badRequest, ⟨some 400, [sampleDescriptor], "c: d/"⟩⟩ := by
  obtain ⟨hread, hresponse⟩ := (readBody_of_bodyText [sampleDescriptor]).1 _ bodyText_sample
  exact ⟨bodyText_sample, hread, (hresponse 400).trans rfl⟩

end Response

end QueryWire

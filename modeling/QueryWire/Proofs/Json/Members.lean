/-
  The members of the object that a document holds.

  A document that is an object keeps one field for each key.  The text may
  repeat a key: `rootMembers?` lists the members as they stand in the text, and
  the fields are made of them (`document_eq_object_iff`).  So a member is found
  under its key exactly if it is the last one there (`lastMember_iff`).
-/
import QueryWire.Proofs.Fields
import QueryWire.Proofs.Json.DocumentText
import QueryWire.Proofs.Json.Keys

namespace QueryWire.Json

/-! ## Readers -/

theorem valueWith_brace {read : Reader Node} {cs rest : List Char}
    (h : skipBlanks cs = '\x7b' :: rest) :
    valueWith (some read) cs = (entries (entry read stringBody) rest).map
      (fun (pairs, left) => (.object (Fields.ofPairs pairs), left)) := by
  unfold valueWith
  rw [h]
  rfl

/-- Only an opening brace begins an object. -/
theorem brace_of_valueWith {read : Reader Node} {cs left : List Char}
    {fields : List (String × Node)}
    (h : valueWith (some read) cs = .ok (.object fields, left)) :
    ∃ rest, skipBlanks cs = '\x7b' :: rest := by
  unfold valueWith at h
  split at h
  · cases h
  · rename_i c rest hs
    -- the literals, strings and numbers
    iterate 5
      split at h
      · obtain ⟨_, _, he⟩ := map_eq_ok h
        cases he
    split at h
    · rename_i hc
      dsimp only at h
      split at h
      · obtain ⟨_, _, he⟩ := map_eq_ok h
        cases he
      · rename_i hne
        exact ⟨rest, hc.resolve_left hne ▸ hs⟩
    · cases h

/-! ## Members of the root -/

/-- The members of the object that a text holds, as they stand in the text: a
    key may be repeated. -/
def rootMembers? (text : String) : Option (List (String × Node)) :=
  match skipBlanks text.toList with
  | '\x7b' :: rest =>
    match whole (entries (entry (value (nestingLimit - 1)) stringBody)) rest with
    | .ok pairs => some pairs
    | .error _ => none
  | _ => none

theorem rootMembers?_eq_some_iff {text : String} {pairs : List (String × Node)} :
    rootMembers? text = some pairs ↔
      ∃ rest left, skipBlanks text.toList = '\x7b' :: rest ∧
        entries (entry (value (nestingLimit - 1)) stringBody) rest = .ok (pairs, left) ∧
        skipBlanks left = [] := by
  unfold rootMembers?
  constructor
  · intro h
    split at h
    · rename_i rest hs
      split at h
      · rename_i hw
        cases h
        obtain ⟨left, he, hl⟩ := whole_eq_ok hw
        exact ⟨rest, left, hs, he, hl⟩
      · cases h
    · cases h
  · rintro ⟨rest, left, hs, he, hl⟩
    simp only [hs, whole_of_ok he hl]

/-- A document is an object exactly if its text has members; the fields are made
    of them. -/
theorem document_eq_object_iff {text : String} {fields : List (String × Node)} :
    document text = .ok (.object fields) ↔
      ∃ pairs, rootMembers? text = some pairs ∧ Fields.ofPairs pairs = fields := by
  have hv : ∀ cs, value nestingLimit cs = valueWith (some (value (nestingLimit - 1))) cs :=
    fun cs => rfl
  constructor
  · intro h
    obtain ⟨left, hr, hl⟩ := whole_eq_ok h
    rw [hv] at hr
    obtain ⟨rest, hs⟩ := brace_of_valueWith hr
    rw [valueWith_brace hs] at hr
    obtain ⟨⟨pairs, after⟩, he, hp⟩ := map_eq_ok hr
    cases hp
    exact ⟨pairs, rootMembers?_eq_some_iff.mpr ⟨rest, left, hs, he, hl⟩, rfl⟩
  · rintro ⟨pairs, hm, rfl⟩
    obtain ⟨rest, left, hs, he, hl⟩ := rootMembers?_eq_some_iff.mp hm
    have hr : value nestingLimit text.toList = .ok (.object (Fields.ofPairs pairs), left) := by
      rw [hv, valueWith_brace hs, he]
      rfl
    exact whole_of_ok hr hl

/-! ## The last member under a key -/

/-- The text holds an object, and this is the last of its members under the key. -/
def LastMember (key text : String) (node : Node) : Prop :=
  ∃ front back, rootMembers? text = some (front ++ (key, node) :: back) ∧ key ∉ Fields.keys back

/-- The last member under a key is the one that is found in the document. -/
theorem lastMember_iff {key text : String} {node : Node} :
    LastMember key text node ↔
      ∃ envelope, document text = .ok envelope ∧
        envelope.object?.bind (Fields.get? key) = some node := by
  constructor
  · rintro ⟨front, back, hm, hk⟩
    exact ⟨_, document_eq_object_iff.mpr ⟨_, hm, rfl⟩,
      Fields.get?_ofPairs_eq_some_iff.mpr ⟨front, back, rfl, hk⟩⟩
  · rintro ⟨envelope, hd, hg⟩
    cases envelope with
    | object fields =>
      obtain ⟨pairs, hm, rfl⟩ := document_eq_object_iff.mp hd
      obtain ⟨front, back, rfl, hk⟩ := Fields.get?_ofPairs_eq_some_iff.mp hg
      exact ⟨front, back, hm, hk⟩
    | null | bool _ | number _ | string _ | array _ => cases hg

theorem LastMember.unique {key text : String} {a b : Node} (ha : LastMember key text a)
    (hb : LastMember key text b) : a = b := by
  obtain ⟨envelope, hd, hg⟩ := lastMember_iff.mp ha
  obtain ⟨envelope', hd', hg'⟩ := lastMember_iff.mp hb
  cases hd.symm.trans hd'
  exact Option.some.inj (hg.symm.trans hg')

end QueryWire.Json

/-
  Decoding, one object at a time.

  An object is taken for a special without values of its own only if its one
  entry is a text (`atom?_entry`).  If its one entry is an object, the key says
  what it is (`decode_entry_object`); all else is decoded entry by entry
  (`decode_entries`).  `size` counts the nodes of a tree, the measure for what
  goes down a tree by more than one level.
-/
import QueryWire.Codec

namespace QueryWire

open Json (Node)
open Calendar (Date Instant)

/-! ## Decoding objects -/

/-- An object with one entry is a special without values of its own only if the
    content is a text. -/
theorem Json.Node.atom?_entry (k : String) (content : Node) :
    (Node.object [(k, content)]).atom? =
      content.string?.bind (fun s =>
        if k = refTag then some (.ref ⟨s⟩)
        else if k = timestampTag then (Instant.ofText? s).map .timestamp
        else if k = dateTag then (Date.ofText? s).map .date
        else none) := by
  have ho : ∀ tag, (Node.object [(k, content)]).tagContent? tag =
      if k = tag then some content else none := fun tag => rfl
  have htr : timestampTag ≠ refTag := by decide
  have hdr : dateTag ≠ refTag := by decide
  have hdt : dateTag ≠ timestampTag := by decide
  unfold atom? ref? timestamp? date?
  rw [ho, ho, ho]
  by_cases hr : k = refTag
  · subst hr
    cases hs : content.string? <;> simp [hs, htr.symm, hdr.symm]
  by_cases ht : k = timestampTag
  · subst ht
    cases hs : content.string? with
    | none => simp [hs, htr, hdt.symm]
    | some s => cases hi : Instant.ofText? s <;> simp [hs, hi, htr, hdt.symm]
  by_cases hd : k = dateTag
  · subst hd
    cases hs : content.string? <;> simp [hs, hdr, hdt]
  · cases content.string? <;> simp [hr, ht, hd]

theorem Json.Node.atom?_string (k s : String) :
    (Node.object [(k, .string s)]).atom? =
      if k = refTag then some (.ref ⟨s⟩)
      else if k = timestampTag then (Instant.ofText? s).map .timestamp
      else if k = dateTag then (Date.ofText? s).map .date
      else none :=
  atom?_entry k (.string s)

theorem Json.Node.atom?_eq_none {entries : List (String × Node)}
    (h : ∀ k s, entries ≠ [(k, .string s)]) : (Node.object entries).atom? = none := by
  match entries with
  | [] => rfl
  | [(k, content)] =>
    have hc : content.string? = none := by
      cases content with
      | string s => exact absurd rfl (h k s)
      | _ => rfl
    rw [atom?_entry, hc]
    rfl
  | _ :: _ :: _ => rfl

namespace Codec

variable {codec : Codec}

theorem decode_of_atom? {entries : List (String × Node)} {v : Value}
    (h : (Node.object entries).atom? = some v) : codec.decode (.object entries) = v := by
  rw [decode.eq_def]
  dsimp only
  rw [h]

theorem decode_entry_object (k : String) (inner : List (String × Node)) :
    codec.decode (.object [(k, .object inner)]) =
      if k = setTag then .setRef (codec.decodeEntries inner)
      else if k = legacyObjectTag ∧ codec.acceptLegacyObjectTag = true then
        .object (codec.decodeEntries inner)
      else .object [(k, codec.decode (.object inner))] := by
  have ha : (Node.object [(k, .object inner)]).atom? = none := Node.atom?_entry k _
  rw [decode.eq_def]
  dsimp only
  rw [ha]

/-- Whatever is no special and no wrapper is decoded entry by entry. -/
theorem decode_entries {entries : List (String × Node)} (ha : (Node.object entries).atom? = none)
    (hn : ∀ k inner, entries ≠ [(k, .object inner)]) :
    codec.decode (.object entries) = .object (codec.decodeEntries entries) := by
  rw [decode.eq_def]
  dsimp only
  rw [ha]
  dsimp only
  split
  · rename_i k inner
    exact absurd rfl (hn k inner)
  · rfl

end Codec

/-! ## Sizes -/

namespace Json.Node

mutual
/-- The count of nodes in a tree. -/
def size : Node → Nat
  | .array items => sizeItems items + 1
  | .object entries => sizeEntries entries + 1
  | _ => 1

def sizeItems : List Node → Nat
  | [] => 0
  | node :: rest => size node + sizeItems rest

def sizeEntries : List (String × Node) → Nat
  | [] => 0
  | (_, node) :: rest => size node + sizeEntries rest
end

theorem size_pos (node : Node) : 0 < node.size := by
  cases node <;> exact Nat.succ_pos _

theorem size_entry (k : String) (node : Node) : (Node.object [(k, node)]).size = node.size + 1 :=
  rfl

end Json.Node

end QueryWire

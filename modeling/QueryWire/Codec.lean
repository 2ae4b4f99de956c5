/-
  Decoding of responses.

  An object whose only key is a tag stands for a special if its content has the
  form of that special; otherwise it is an object like any other.  Older
  servers wrap literal objects into `@obj`: with the legacy tag accepted, the
  wrapper is taken off, once, and what it holds is an object even if it looks
  like a tag.  No key is repeated by decoding (`distinct_decode`).
-/
import QueryWire.Expr
import QueryWire.Json.Typed

namespace QueryWire

open Json (Node Number)
open Calendar (Date Instant)

/-! ## Tags of nodes -/

namespace Json.Node

/-- The content of an object whose only key is `tag`. -/
def tagContent? (tag : String) (node : Node) : Option Node :=
  node.object?.bind (Fields.only? tag)

def ref? (node : Node) : Option Ref :=
  ((node.tagContent? refTag).bind Node.string?).map Ref.mk

def timestamp? (node : Node) : Option Instant :=
  ((node.tagContent? timestampTag).bind Node.string?).bind Instant.ofText?

def date? (node : Node) : Option Date :=
  ((node.tagContent? dateTag).bind Node.string?).bind Date.ofText?

/-- A special that holds no values of its own. -/
def atom? (node : Node) : Option Value :=
  match node.ref? with
  | some r => some (.ref r)
  | none =>
  match node.timestamp? with
  | some t => some (.timestamp t)
  | none => node.date?.map .date

theorem distinct_of_atom? {node : Node} {v : Value} (h : node.atom? = some v) :
    v.Distinct := by
  unfold atom? at h
  split at h
  · cases h; trivial
  · split at h
    · cases h; trivial
    · obtain ⟨d, -, rfl⟩ := Option.map_eq_some_iff.mp h; trivial

/-- The parameters of a set reference. -/
def setParameters? (node : Node) : Option (List (String × Node)) :=
  (node.tagContent? setTag).bind Node.object?

/-- The entries inside a legacy wrapper. -/
def legacyEntries? (node : Node) : Option (List (String × Node)) :=
  (node.tagContent? legacyObjectTag).bind Node.object?

end Json.Node

/-! ## Numbers -/

namespace Json.Number

/-- The nearest double of any number. -/
def toDouble : Number → Binary64
  | .natural n => Binary64.ofNat n.toNat
  | .negative n _ => (Binary64.ofNat n.toInt.natAbs).negate
  | .float x _ => x

/-- An integer of 64 bits, or else the nearest double. -/
def toValue (n : Number) : Value :=
  match n.int64? with
  | some i => .integer i
  | none => .double n.toDouble

theorem distinct_toValue (n : Number) : n.toValue.Distinct := by
  unfold toValue
  split <;> trivial

end Json.Number

/-! ## Faults -/

/-- Why a request cannot be written or a document cannot be read. -/
inductive CodecFault
  | unwritable (e : NonFinite)
  | unreadable (fault : Json.Fault) (text : String)
deriving DecidableEq

def CodecFault.message : CodecFault → String
  | .unwritable e => "serialization error: " ++ e.message
  | .unreadable fault text => "serialization error: " ++ fault.message text

/-! ## The codec -/

structure Codec where
  /-- Whether `@obj` is taken for a wrapper around a literal object. -/
  acceptLegacyObjectTag : Bool := true
deriving DecidableEq

namespace Codec

mutual
/-- The value of a node. -/
def decode (codec : Codec) : Node → Value
  | .null => .null
  | .bool b => .boolean b
  | .number n => n.toValue
  | .string s => .string s
  | .array items => .array (decodeItems codec items)
  | .object entries =>
    match (Node.object entries).atom? with
    | some v => v
    | none =>
    match entries with
    | [(tag, .object inner)] =>
      if tag = setTag then .setRef (decodeEntries codec inner)
      else if tag = legacyObjectTag ∧ codec.acceptLegacyObjectTag = true then
        .object (decodeEntries codec inner)
      else .object [(tag, decode codec (.object inner))]
    | entries => .object (decodeEntries codec entries)
termination_by structural node => node

def decodeItems (codec : Codec) : List Node → List Value
  | [] => []
  | node :: rest => decode codec node :: decodeItems codec rest
termination_by structural items => items

def decodeEntries (codec : Codec) : List (String × Node) → List (String × Value)
  | [] => []
  | (k, node) :: rest => (k, decode codec node) :: decodeEntries codec rest
termination_by structural entries => entries
end

theorem decodeItems_eq_map (codec : Codec) (items : List Node) :
    codec.decodeItems items = items.map codec.decode := by
  induction items with
  | nil => rfl
  | cons node rest ih => rw [decodeItems, ih, List.map_cons]

theorem decodeEntries_eq_mapValues (codec : Codec) (entries : List (String × Node)) :
    codec.decodeEntries entries = Fields.mapValues codec.decode entries := by
  induction entries with
  | nil => rfl
  | cons p rest ih => rw [decodeEntries, ih]; rfl

mutual
theorem distinct_decode (codec : Codec) : (node : Node) → node.Distinct → (codec.decode node).Distinct
  | .null, _ => trivial
  | .bool _, _ => trivial
  | .number n, _ => n.distinct_toValue
  | .string _, _ => trivial
  | .array items, h => distinct_decodeItems codec items h
  | .object entries, h => by
    rw [decode.eq_def]
    dsimp only
    split
    · rename_i v hv; exact Node.distinct_of_atom? hv
    · split
      · rename_i tag inner _
        have hi : Node.Distinct (.object inner) := h.2.1
        split
        · exact ⟨decodeEntries_eq_mapValues codec inner ▸ Fields.distinct_mapValues hi.1,
            distinct_decodeEntries codec inner hi.2⟩
        · split
          · exact ⟨decodeEntries_eq_mapValues codec inner ▸ Fields.distinct_mapValues hi.1,
              distinct_decodeEntries codec inner hi.2⟩
          · exact ⟨by simp [Fields.Distinct, Fields.keys],
              distinct_decode codec (.object inner) hi, trivial⟩
      · exact ⟨decodeEntries_eq_mapValues codec entries ▸ Fields.distinct_mapValues h.1,
          distinct_decodeEntries codec entries h.2⟩

theorem distinct_decodeItems (codec : Codec) : (items : List Node) →
    Node.DistinctItems items → Value.DistinctItems (codec.decodeItems items)
  | [], _ => trivial
  | node :: rest, h => ⟨distinct_decode codec node h.1, distinct_decodeItems codec rest h.2⟩

theorem distinct_decodeEntries (codec : Codec) : (entries : List (String × Node)) →
    Node.DistinctEntries entries → Value.DistinctFields (codec.decodeEntries entries)
  | [], _ => trivial
  | (_, node) :: rest, h => ⟨distinct_decode codec node h.1, distinct_decodeEntries codec rest h.2⟩
end

/-- The entries inside a legacy wrapper, if the codec takes it for one. -/
def legacyEntries? (codec : Codec) (node : Node) : Option (List (String × Node)) :=
  if codec.acceptLegacyObjectTag then node.legacyEntries? else none

/-! ## Settings as JSON -/

def settingKey : String := "accept_legacy_object_tag"

def toNode (codec : Codec) : Node :=
  .object [(settingKey, .bool codec.acceptLegacyObjectTag)]

/-- The only slot of the settings. -/
def settingSlot : Json.Slot (Option Codec) where
  key := settingKey
  required := true
  isFilled draft := draft.isSome
  fill _ cs := (Json.typedBool cs).map (fun (b, left) => (some ⟨b⟩, left))

/-- The settings in a text. -/
def read (text : String) : Except Json.Fault Codec :=
  Json.whole (Json.record [settingSlot] none id) text.toList

end Codec

end QueryWire

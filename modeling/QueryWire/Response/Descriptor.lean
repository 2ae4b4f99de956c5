/-
  The body of a failed request: descriptors of what went wrong, each with the
  path of the query part that it concerns, and with failures of single fields.

  Positions, failures and fields may be left out where they are empty; written
  out, an empty list of failures is left out.
-/
import QueryWire.Json.Typed
import QueryWire.Json.Text

namespace QueryWire.Response

open Json (Node Reader Fault Slot)

/-- A step of a path into a query. -/
inductive Segment
  | index (n : Int64)
  | field (name : String)
deriving DecidableEq

/-- The text of a step as a person reads it. -/
def Segment.text : Segment → String
  | .index n => String.ofList (Text.Numeral.ofInt n.toInt)
  | .field name => name

/-- A field of the data that was refused. -/
structure FieldFailure where
  field : List String
  code : String
  description : String
deriving DecidableEq

structure Descriptor where
  position : List Segment
  code : String
  description : String
  failures : List FieldFailure
deriving DecidableEq

/-! ## Writing -/

def Segment.toNode : Segment → Node
  | .index n => .number (.ofInt64 n)
  | .field name => .string name

def FieldFailure.toNode (f : FieldFailure) : Node :=
  .object [("field", .array (f.field.map .string)), ("code", .string f.code),
    ("description", .string f.description)]

def Descriptor.toNode (d : Descriptor) : Node :=
  .object ([("position", .array (d.position.map Segment.toNode)), ("code", .string d.code),
      ("description", .string d.description)] ++
    if d.failures.isEmpty then []
    else [("failures", .array (d.failures.map FieldFailure.toNode))])

/-- The body with the given descriptors. -/
def bodyNode (descriptors : List Descriptor) : Node :=
  .object [("errors", .array (descriptors.map Descriptor.toNode))]

/-! ## Reading -/

/-- The brackets that may be open within a position: four are open around it. -/
def positionNesting : Nat :=
  Json.nestingLimit - 4

/-- A step is an integer of 64 bits or a string. -/
def Segment.ofNode? : Node → Option Segment
  | .string name => some (.field name)
  | .number n => n.int64?.map .index
  | _ => none

def Segment.read (cs : List Char) : Except Fault (Segment × List Char) :=
  match Json.value positionNesting cs with
  | .error fault => .error fault
  | .ok (node, left) =>
    match Segment.ofNode? node with
    | some segment => .ok (segment, left)
    | none => .error (.before .mismatch left)

/-- A record on the way to a descriptor or a field failure. -/
structure Draft (π φ : Type) where
  path : Option π := none
  code : Option String := none
  description : Option String := none
  failures : Option φ := none

section

variable {π φ : Type}

/-- An optional slot for the path, under the given key. -/
def pathSlot (key : String) (path : Reader π) : Slot (Draft π φ) where
  key := key
  required := false
  isFilled draft := draft.path.isSome
  fill draft cs := (path cs).map (fun (p, left) => ({ draft with path := some p }, left))

def codeSlot : Slot (Draft π φ) where
  key := "code"
  required := true
  isFilled draft := draft.code.isSome
  fill draft cs :=
    (Json.typedString cs).map (fun (s, left) => ({ draft with code := some s }, left))

def descriptionSlot : Slot (Draft π φ) where
  key := "description"
  required := true
  isFilled draft := draft.description.isSome
  fill draft cs :=
    (Json.typedString cs).map (fun (s, left) => ({ draft with description := some s }, left))

def failuresSlot (failures : Reader φ) : Slot (Draft π φ) where
  key := "failures"
  required := false
  isFilled draft := draft.failures.isSome
  fill draft cs := (failures cs).map (fun (f, left) => ({ draft with failures := some f }, left))

end

def FieldFailure.complete (draft : Draft (List String) Unit) : Option FieldFailure := do
  let code ← draft.code
  let description ← draft.description
  some ⟨draft.path.getD [], code, description⟩

def FieldFailure.read : Reader FieldFailure :=
  Json.record
    [pathSlot "field" (Json.typedList Json.typedString), codeSlot, descriptionSlot]
    {} FieldFailure.complete

def Descriptor.complete (draft : Draft (List Segment) (List FieldFailure)) :
    Option Descriptor := do
  let code ← draft.code
  let description ← draft.description
  some ⟨draft.path.getD [], code, description, draft.failures.getD []⟩

def Descriptor.read : Reader Descriptor :=
  Json.record
    [pathSlot "position" (Json.typedList Segment.read), codeSlot, descriptionSlot,
      failuresSlot (Json.typedList FieldFailure.read)]
    {} Descriptor.complete

/-- The only slot of a body. -/
def errorsSlot : Slot (Option (List Descriptor)) where
  key := "errors"
  required := true
  isFilled draft := draft.isSome
  fill _ cs := (Json.typedList Descriptor.read cs).map (fun (ds, left) => (some ds, left))

/-- The descriptors in the body of a failed request. -/
def readBody (text : String) : Except Fault (List Descriptor) :=
  Json.whole (Json.record [errorsSlot] none id) text.toList

end QueryWire.Response

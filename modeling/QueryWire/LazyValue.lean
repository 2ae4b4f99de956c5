/-
  Nodes of a response that are decoded on demand.

  A coercion looks at one node only and answers `none` if the node is of
  another kind; `LazyValue.get?` steps into the raw tree, through a legacy
  wrapper where the codec accepts it.
-/
import QueryWire.Codec
import QueryWire.Text.Quoted

namespace QueryWire

open Json (Node)
open Calendar (Date Instant)

structure LazyValue where
  node : Node
  codec : Codec

namespace LazyValue

/-- Reads a document. -/
def parse (codec : Codec) (text : String) : Except CodecFault LazyValue :=
  match Json.document text with
  | .ok node => .ok ⟨node, codec⟩
  | .error fault => .error (.unreadable fault text)

/-- The decoded tree. -/
def toValue (v : LazyValue) : Value :=
  v.codec.decode v.node

/-- The JSON text of the raw node. -/
def text (v : LazyValue) : String :=
  v.node.text

/-- Equality of the raw nodes. -/
def same (v w : LazyValue) : Bool :=
  v.node.same w.node

/-! ## Coercions -/

def isNull (v : LazyValue) : Bool :=
  v.node.isNull

def string? (v : LazyValue) : Option String :=
  v.node.string?

def bool? (v : LazyValue) : Option Bool :=
  v.node.bool?

/-- Any number, truncated toward zero and clamped to 64 bits. -/
def int64? (v : LazyValue) : Option Int64 :=
  v.node.number?.map (fun n => n.int64?.getD n.toDouble.toInt64)

/-- Floating point numbers; a number that was written as an integer is none. -/
def double? (v : LazyValue) : Option Binary64 :=
  match v.node with
  | .number (.float x _) => some x
  | _ => none

def timestamp? (v : LazyValue) : Option Instant :=
  v.node.timestamp?

def date? (v : LazyValue) : Option Date :=
  v.node.date?

def ref? (v : LazyValue) : Option Ref :=
  v.node.ref?

/-- The decoded parameters of a set reference. -/
def setRef? (v : LazyValue) : Option (List (String × Value)) :=
  v.node.setParameters?.map v.codec.decodeEntries

/-- The entries of an object, tagged or not; those inside a legacy wrapper. -/
def entries? (v : LazyValue) : Option (List (String × Node)) :=
  match v.codec.legacyEntries? v.node with
  | some inner => some inner
  | none => v.node.object?

def array? (v : LazyValue) : Option (List LazyValue) :=
  v.node.array?.map (fun items => items.map (fun node => ⟨node, v.codec⟩))

def object? (v : LazyValue) : Option (List (String × LazyValue)) :=
  v.entries?.map (Fields.mapValues (fun node => ⟨node, v.codec⟩))

/-! ## Access -/

def get? (v : LazyValue) : Step → Option LazyValue
  | .key k => (v.entries?.bind (Fields.get? k)).map (fun node => ⟨node, v.codec⟩)
  | .index n => (v.node.array?.bind (fun items => items[n]?)).map (fun node => ⟨node, v.codec⟩)

/-- Follows a path of steps. -/
def follow? (v : LazyValue) : List Step → Option LazyValue
  | [] => some v
  | step :: path => (v.get? step).bind (fun w => w.follow? path)

end LazyValue

/-! ## Diagnostics -/

namespace Json.Node

mutual
/-- The tree with the kind of each node, for a log. -/
def diagnostic : Node → String
  | .null => "Null"
  | .bool b => "Bool(" ++ (if b then "true" else "false") ++ ")"
  | .number n => "Number(" ++ String.ofList n.chars ++ ")"
  | .string s => "String(" ++ Text.quoted s ++ ")"
  | .array items => "Array [" ++ ", ".intercalate (diagnosticItems items) ++ "]"
  | .object entries => "Object \x7b" ++ ", ".intercalate (diagnosticEntries entries) ++ "\x7d"

def diagnosticItems : List Node → List String
  | [] => []
  | node :: rest => diagnostic node :: diagnosticItems rest

def diagnosticEntries : List (String × Node) → List String
  | [] => []
  | (k, node) :: rest => (Text.quoted k ++ ": " ++ diagnostic node) :: diagnosticEntries rest
end

end Json.Node

def LazyValue.diagnostic (v : LazyValue) : String :=
  "LazyValue(" ++ v.node.diagnostic ++ ")"

end QueryWire

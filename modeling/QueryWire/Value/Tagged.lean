/-
  The wire form of values.

  The specials are written as objects with one tag: `@ts`, `@date`, `@ref` and
  `@set`.  JSON has no infinities and no NaN, so a value with a double that is
  not finite has no wire form; the first such double in the order of writing
  is reported.
-/
import QueryWire.Value
import QueryWire.Json.Text
import QueryWire.Calendar.InstantText

namespace QueryWire

open Json (Node)

/-! ## Tags -/

def refTag : String := "@ref"

def setTag : String := "@set"

def timestampTag : String := "@ts"

def dateTag : String := "@date"

/-- The tag around a literal object in responses of older servers. -/
def legacyObjectTag : String := "@obj"

/-- The key around a literal object in requests. -/
def objectKey : String := "object"

/-- An object with the tag as its only key. -/
def tagged (tag : String) (content : Node) : Node :=
  .object [(tag, content)]

/-! ## Encoding -/

/-- A double that JSON cannot express. -/
structure NonFinite where
  value : Binary64
deriving DecidableEq

def NonFinite.message (e : NonFinite) : String :=
  "cannot encode non-finite double " ++
    (if e.value.isNaN then "NaN" else if e.value.isNegative then "-inf" else "inf")

namespace Value

def doubleNode (x : Binary64) : Except NonFinite Node :=
  if h : x.isFinite = true then .ok (.number (.float x h)) else .error ⟨x⟩

mutual
/-- The tree of a value on the wire. -/
def toNode : Value → Except NonFinite Node
  | .null => .ok .null
  | .boolean b => .ok (.bool b)
  | .integer n => .ok (.number (.ofInt64 n))
  | .double x => doubleNode x
  | .string s => .ok (.string s)
  | .timestamp t => .ok (tagged timestampTag (.string t.text))
  | .date d => .ok (tagged dateTag (.string d.text))
  | .array items => (toNodes items).map .array
  | .object fields => (toEntries fields).map .object
  | .ref r => .ok (tagged refTag (.string r.path))
  | .setRef parameters => (toEntries parameters).map (fun es => tagged setTag (.object es))

def toNodes : List Value → Except NonFinite (List Node)
  | [] => .ok []
  | v :: rest => do
    let node ← toNode v
    let nodes ← toNodes rest
    .ok (node :: nodes)

def toEntries : List (String × Value) → Except NonFinite (List (String × Node))
  | [] => .ok []
  | (k, v) :: rest => do
    let node ← toNode v
    let entries ← toEntries rest
    .ok ((k, node) :: entries)
end

/-- The JSON text of a value. -/
def text (v : Value) : Except NonFinite String :=
  v.toNode.map Node.text

end Value

end QueryWire

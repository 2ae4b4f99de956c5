/-
  The forms of the query language.  Each constructor builds one form: an object
  whose keys are the reserved words of the form, in a fixed order.
-/
import QueryWire.Expr

namespace QueryWire.Query

/-! ## Words -/

/-- The unit of a number given to `epoch`. -/
inductive TimeUnit
  | second
  | millisecond
  | microsecond
  | nanosecond
deriving DecidableEq

def TimeUnit.word : TimeUnit → String
  | .second => "second"
  | .millisecond => "millisecond"
  | .microsecond => "microsecond"
  | .nanosecond => "nanosecond"

def TimeUnit.expr (u : TimeUnit) : Expr :=
  .ofString u.word

/-- What an event in the history of a resource does. -/
inductive Action
  | create
  | delete
deriving DecidableEq

def Action.word : Action → String
  | .create => "create"
  | .delete => "delete"

def Action.expr (a : Action) : Expr :=
  .ofString a.word

/-- A step of a path within a value. -/
inductive Segment
  | field (name : String)
  | index (n : Int64)
deriving DecidableEq

def Segment.expr : Segment → Expr
  | .field name => .ofString name
  | .index n => .ofInt64 n

def path (segments : List Segment) : Expr :=
  .list (segments.map Segment.expr)

/-! ## Literals -/

def ref (path : String) : Expr :=
  .escape (.ref ⟨path⟩)

/-- A reference below another one. -/
def childRef (parent : Ref) (id : String) : Expr :=
  .escape (.ref (parent.child id))

def null : Expr :=
  .escape .null

/-! ## Control -/

/-- The bindings are not literal data: the form owns their map. -/
def letIn (bindings : List (String × Expr)) (body : Expr) : Expr :=
  .form [("let", .form bindings), ("in", body)]

def var (name : String) : Expr :=
  .form [("var", .ofString name)]

def ifThenElse (condition yes no : Expr) : Expr :=
  .form [("if", condition), ("then", yes), ("else", no)]

def doAll (steps : List Expr) : Expr :=
  .form [("do", .list steps)]

def lambda (parameter : String) (body : Expr) : Expr :=
  .form [("lambda", .ofString parameter), ("expr", body)]

/-! ## Collections -/

/-- A form that works on a collection. -/
def onCollection (word : String) (argument collection : Expr) : Expr :=
  .form [(word, argument), ("collection", collection)]

def map (f collection : Expr) : Expr :=
  onCollection "map" f collection

def foreach (f collection : Expr) : Expr :=
  onCollection "foreach" f collection

def filter (f collection : Expr) : Expr :=
  onCollection "filter" f collection

def take (count collection : Expr) : Expr :=
  onCollection "take" count collection

def drop (count collection : Expr) : Expr :=
  onCollection "drop" count collection

def prepend (elements collection : Expr) : Expr :=
  onCollection "prepend" elements collection

def append (elements collection : Expr) : Expr :=
  onCollection "append" elements collection

/-! ## Reading -/

def get (resource : Expr) : Expr :=
  .form [("get", resource)]

def getAt (resource ts : Expr) : Expr :=
  .form [("get", resource), ("ts", ts)]

def existsNow (resource : Expr) : Expr :=
  .form [("exists", resource)]

def existsAt (resource ts : Expr) : Expr :=
  .form [("exists", resource), ("ts", ts)]

def count (set : Expr) : Expr :=
  .form [("count", set)]

def countEvents (set events : Expr) : Expr :=
  .form [("count", set), ("events", events)]

/-! ## Writing -/

def create (cls params : Expr) : Expr :=
  .form [("create", cls), ("params", params)]

def update (resource params : Expr) : Expr :=
  .form [("update", resource), ("params", params)]

def replace (resource params : Expr) : Expr :=
  .form [("replace", resource), ("params", params)]

def delete (resource : Expr) : Expr :=
  .form [("delete", resource)]

/-- Adds an event to the history of a resource. -/
def insert (resource ts : Expr) (action : Action) (params : Expr) : Expr :=
  .form [("insert", resource), ("ts", ts), ("action", action.expr), ("params", params)]

/-- Removes an event from the history of a resource. -/
def remove (resource ts : Expr) (action : Action) : Expr :=
  .form [("remove", resource), ("ts", ts), ("action", action.expr)]

/-! ## Sets -/

def matchIndex (index : Expr) : Expr :=
  .form [("match", index)]

def matchTerms (index terms : Expr) : Expr :=
  .form [("match", index), ("terms", terms)]

def union (sets : List Expr) : Expr :=
  .form [("union", .list sets)]

def intersection (sets : List Expr) : Expr :=
  .form [("intersection", .list sets)]

def difference (sets : List Expr) : Expr :=
  .form [("difference", .list sets)]

def distinct (sets : List Expr) : Expr :=
  .form [("distinct", .list sets)]

def join (source target : Expr) : Expr :=
  .form [("join", source), ("with", target)]

/-! ## Authentication -/

def login (resource params : Expr) : Expr :=
  .form [("login", resource), ("params", params)]

def logout (all : Expr) : Expr :=
  .form [("logout", all)]

def identify (resource password : Expr) : Expr :=
  .form [("identify", resource), ("password", password)]

/-! ## Strings -/

def concat (terms : List Expr) : Expr :=
  .form [("concat", .list terms)]

def concatWith (terms : List Expr) (separator : Expr) : Expr :=
  .form [("concat", .list terms), ("separator", separator)]

def casefold (s : Expr) : Expr :=
  .form [("casefold", s)]

/-! ## Time -/

def time (s : Expr) : Expr :=
  .form [("time", s)]

def epoch (number : Expr) (unit : TimeUnit) : Expr :=
  .form [("epoch", number), ("unit", unit.expr)]

def date (s : Expr) : Expr :=
  .form [("date", s)]

/-! ## Values -/

def nextId : Expr :=
  .form [("next_id", null)]

def equals (terms : List Expr) : Expr :=
  .form [("equals", .list terms)]

/-- Whether a path leads to something within a value. -/
def contains (segments : List Segment) (within : Expr) : Expr :=
  .form [("contains", path segments), ("in", within)]

def select (segments : List Segment) (source : Expr) : Expr :=
  .form [("select", path segments), ("from", source)]

def add (terms : List Expr) : Expr :=
  .form [("add", .list terms)]

def subtract (terms : List Expr) : Expr :=
  .form [("subtract", .list terms)]

def multiply (terms : List Expr) : Expr :=
  .form [("multiply", .list terms)]

def divide (terms : List Expr) : Expr :=
  .form [("divide", .list terms)]

def modulo (terms : List Expr) : Expr :=
  .form [("modulo", .list terms)]

def allOf (terms : List Expr) : Expr :=
  .form [("and", .list terms)]

def anyOf (terms : List Expr) : Expr :=
  .form [("or", .list terms)]

def negation (term : Expr) : Expr :=
  .form [("not", term)]

end QueryWire.Query

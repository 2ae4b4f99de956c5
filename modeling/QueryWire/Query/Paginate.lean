/-
  Reading a set page by page.

  A request for a page has five slots beside the set that is read; a later
  setting of a slot replaces an earlier one, and both cursors share one slot.
  Only slots that were set are written, the two flags only when they are true,
  and the order of the keys does not depend on the order of the settings.
-/
import QueryWire.Query.Forms

namespace QueryWire.Query

/-- Where a page begins or ends. -/
inductive Cursor
  | before (position : Expr)
  | after (position : Expr)

structure Paginate where
  resource : Expr
  ts : Option Expr := none
  cursor : Option Cursor := none
  size : Option Int64 := none
  events : Bool := false
  sources : Bool := false

/-- One setting of a slot. -/
inductive Paginate.Setting
  | ts (e : Expr)
  | cursor (c : Cursor)
  | size (n : Int64)
  | events (b : Bool)
  | sources (b : Bool)

namespace Paginate

def set (p : Paginate) : Setting → Paginate
  | .ts e => { p with ts := some e }
  | .cursor c => { p with cursor := some c }
  | .size n => { p with size := some n }
  | .events b => { p with events := b }
  | .sources b => { p with sources := b }

def setAll (p : Paginate) (settings : List Setting) : Paginate :=
  settings.foldl set p

def cursorPair : Cursor → String × Expr
  | .before e => ("before", e)
  | .after e => ("after", e)

/-- A flag, which is written only when it is true. -/
def flag (key : String) (b : Bool) : List (String × Expr) :=
  if b then [(key, .ofBool true)] else []

/-- The keys and arguments of the form. -/
def pairs (p : Paginate) : List (String × Expr) :=
  ("paginate", p.resource) :: (p.ts.toList.map (fun e => ("ts", e)) ++
    p.cursor.toList.map cursorPair ++ p.size.toList.map (fun n => ("size", Expr.ofInt64 n)) ++
    flag "events" p.events ++ flag "sources" p.sources)

def expr (p : Paginate) : Expr :=
  .form p.pairs

end Paginate

end QueryWire.Query

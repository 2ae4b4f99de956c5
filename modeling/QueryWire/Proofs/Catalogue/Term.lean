/-
  The terms of the query language.

  A term is a tree of constructor calls: literal data, literal objects and
  arrays made of terms, the forms, and requests for a page with any choice of
  their options.  `Term.expr` makes the calls.

  Two different terms can make the same expression in two ways only: a literal
  array or object says the same as the array or object of its escaped parts, and
  a flag that is set to false says the same as one that is not set.
  `Term.normal` takes away both.
-/
import QueryWire.Query.Paginate

namespace QueryWire.Query

/-! ## Families of forms -/

/-- The forms with one argument. -/
inductive Unary
  | get
  | existsNow
  | count
  | delete
  | matchIndex
  | logout
  | casefold
  | time
  | date
  | negation

def Unary.build : Unary → Expr → Expr
  | .get => Query.get
  | .existsNow => Query.existsNow
  | .count => Query.count
  | .delete => Query.delete
  | .matchIndex => Query.matchIndex
  | .logout => Query.logout
  | .casefold => Query.casefold
  | .time => Query.time
  | .date => Query.date
  | .negation => Query.negation

/-- The forms with two arguments. -/
inductive Binary
  | map
  | foreach
  | filter
  | take
  | drop
  | prepend
  | append
  | getAt
  | existsAt
  | countEvents
  | create
  | update
  | replace
  | matchTerms
  | join
  | login
  | identify

def Binary.build : Binary → Expr → Expr → Expr
  | .map => Query.map
  | .foreach => Query.foreach
  | .filter => Query.filter
  | .take => Query.take
  | .drop => Query.drop
  | .prepend => Query.prepend
  | .append => Query.append
  | .getAt => Query.getAt
  | .existsAt => Query.existsAt
  | .countEvents => Query.countEvents
  | .create => Query.create
  | .update => Query.update
  | .replace => Query.replace
  | .matchTerms => Query.matchTerms
  | .join => Query.join
  | .login => Query.login
  | .identify => Query.identify

/-- The forms with one list of arguments. -/
inductive Listed
  | doAll
  | union
  | intersection
  | difference
  | distinct
  | concat
  | equals
  | add
  | subtract
  | multiply
  | divide
  | modulo
  | allOf
  | anyOf

def Listed.build : Listed → List Expr → Expr
  | .doAll => Query.doAll
  | .union => Query.union
  | .intersection => Query.intersection
  | .difference => Query.difference
  | .distinct => Query.distinct
  | .concat => Query.concat
  | .equals => Query.equals
  | .add => Query.add
  | .subtract => Query.subtract
  | .multiply => Query.multiply
  | .divide => Query.divide
  | .modulo => Query.modulo
  | .allOf => Query.allOf
  | .anyOf => Query.anyOf

/-! ## Terms -/

/-- The side of a page on which its cursor lies. -/
inductive Side
  | before
  | after

def Side.cursor : Side → Expr → Cursor
  | .before => .before
  | .after => .after

inductive Term
  | literal (v : Value)
  | object (entries : List (String × Term))
  | array (items : List Term)
  | letIn (bindings : List (String × Term)) (body : Term)
  | var (name : String)
  | ifThenElse (condition yes no : Term)
  | lambda (parameter : String) (body : Term)
  | unary (f : Unary) (argument : Term)
  | binary (f : Binary) (first second : Term)
  | listed (f : Listed) (items : List Term)
  | insert (resource ts : Term) (action : Action) (params : Term)
  | remove (resource ts : Term) (action : Action)
  | concatWith (terms : List Term) (separator : Term)
  | epoch (number : Term) (unit : TimeUnit)
  | nextId
  | contains (segments : List Segment) (within : Term)
  | select (segments : List Segment) (source : Term)
  | paginate (resource : Term) (ts : Option Term) (cursor : Option (Side × Term))
    (size : Option Int64) (events sources : Option Bool)

namespace Term

/-- The settings of the slots that are set. -/
def settings (ts : Option Expr) (cursor : Option Cursor) (size : Option Int64)
    (events sources : Option Bool) : List Paginate.Setting :=
  ts.toList.map .ts ++ cursor.toList.map .cursor ++ size.toList.map .size ++
    events.toList.map .events ++ sources.toList.map .sources

mutual
/-- The expression that the calls of a term build. -/
def expr : Term → Expr
  | .literal v => .escape v
  | .object entries => .object (exprEntries entries)
  | .array items => .list (exprItems items)
  | .letIn bindings body => Query.letIn (exprEntries bindings) body.expr
  | .var name => Query.var name
  | .ifThenElse condition yes no => Query.ifThenElse condition.expr yes.expr no.expr
  | .lambda parameter body => Query.lambda parameter body.expr
  | .unary f argument => f.build argument.expr
  | .binary f first second => f.build first.expr second.expr
  | .listed f items => f.build (exprItems items)
  | .insert resource ts action params => Query.insert resource.expr ts.expr action params.expr
  | .remove resource ts action => Query.remove resource.expr ts.expr action
  | .concatWith terms separator => Query.concatWith (exprItems terms) separator.expr
  | .epoch number unit => Query.epoch number.expr unit
  | .nextId => Query.nextId
  | .contains segments within => Query.contains segments within.expr
  | .select segments source => Query.select segments source.expr
  | .paginate resource ts cursor size events sources =>
    (Paginate.setAll { resource := resource.expr }
      (settings (exprOption ts) (exprCursor cursor) size events sources)).expr

def exprItems : List Term → List Expr
  | [] => []
  | t :: rest => t.expr :: exprItems rest

def exprEntries : List (String × Term) → List (String × Expr)
  | [] => []
  | (k, t) :: rest => (k, t.expr) :: exprEntries rest

def exprOption : Option Term → Option Expr
  | some t => some t.expr
  | none => none

def exprCursor : Option (Side × Term) → Option Cursor
  | some (side, t) => some (side.cursor t.expr)
  | none => none
end

/-! ## Distinct keys -/

mutual
/-- No literal value, no object and no map of bindings in the term repeats a key. -/
def DistinctKeys : Term → Prop
  | .literal v => v.Distinct
  | .object entries => Fields.Distinct entries ∧ DistinctKeysEntries entries
  | .array items => DistinctKeysItems items
  | .letIn bindings body =>
    Fields.Distinct bindings ∧ DistinctKeysEntries bindings ∧ body.DistinctKeys
  | .ifThenElse condition yes no =>
    condition.DistinctKeys ∧ yes.DistinctKeys ∧ no.DistinctKeys
  | .lambda _ body => body.DistinctKeys
  | .unary _ argument => argument.DistinctKeys
  | .binary _ first second => first.DistinctKeys ∧ second.DistinctKeys
  | .listed _ items => DistinctKeysItems items
  | .insert resource ts _ params =>
    resource.DistinctKeys ∧ ts.DistinctKeys ∧ params.DistinctKeys
  | .remove resource ts _ => resource.DistinctKeys ∧ ts.DistinctKeys
  | .concatWith terms separator => DistinctKeysItems terms ∧ separator.DistinctKeys
  | .epoch number _ => number.DistinctKeys
  | .contains _ within => within.DistinctKeys
  | .select _ source => source.DistinctKeys
  | .paginate resource ts cursor _ _ _ =>
    resource.DistinctKeys ∧ DistinctKeysOption ts ∧ DistinctKeysCursor cursor
  | .var _ => True
  | .nextId => True

def DistinctKeysItems : List Term → Prop
  | [] => True
  | t :: rest => t.DistinctKeys ∧ DistinctKeysItems rest

def DistinctKeysEntries : List (String × Term) → Prop
  | [] => True
  | (_, t) :: rest => t.DistinctKeys ∧ DistinctKeysEntries rest

def DistinctKeysOption : Option Term → Prop
  | some t => t.DistinctKeys
  | none => True

def DistinctKeysCursor : Option (Side × Term) → Prop
  | some (_, t) => t.DistinctKeys
  | none => True
end

/-! ## Normal terms -/

mutual
/-- A literal value as a term in which only scalars are literal. -/
def ofValue : Value → Term
  | .array items => .array (ofItems items)
  | .object fields => .object (ofFields fields)
  | v => .literal v

def ofItems : List Value → List Term
  | [] => []
  | v :: rest => ofValue v :: ofItems rest

def ofFields : List (String × Value) → List (String × Term)
  | [] => []
  | (k, v) :: rest => (k, ofValue v) :: ofFields rest
end

/-- A flag, where false is the same as not set. -/
def raised : Option Bool → Option Bool
  | some true => some true
  | _ => none

mutual
/-- The term with its literals taken apart and without flags that are false. -/
def normal : Term → Term
  | .literal v => ofValue v
  | .object entries => .object (normalEntries entries)
  | .array items => .array (normalItems items)
  | .letIn bindings body => .letIn (normalEntries bindings) body.normal
  | .var name => .var name
  | .ifThenElse condition yes no => .ifThenElse condition.normal yes.normal no.normal
  | .lambda parameter body => .lambda parameter body.normal
  | .unary f argument => .unary f argument.normal
  | .binary f first second => .binary f first.normal second.normal
  | .listed f items => .listed f (normalItems items)
  | .insert resource ts action params => .insert resource.normal ts.normal action params.normal
  | .remove resource ts action => .remove resource.normal ts.normal action
  | .concatWith terms separator => .concatWith (normalItems terms) separator.normal
  | .epoch number unit => .epoch number.normal unit
  | .nextId => .nextId
  | .contains segments within => .contains segments within.normal
  | .select segments source => .select segments source.normal
  | .paginate resource ts cursor size events sources =>
    .paginate resource.normal (normalOption ts) (normalCursor cursor) size (raised events)
      (raised sources)

def normalItems : List Term → List Term
  | [] => []
  | t :: rest => t.normal :: normalItems rest

def normalEntries : List (String × Term) → List (String × Term)
  | [] => []
  | (k, t) :: rest => (k, t.normal) :: normalEntries rest

def normalOption : Option Term → Option Term
  | some t => some t.normal
  | none => none

def normalCursor : Option (Side × Term) → Option (Side × Term)
  | some (side, t) => some (side, t.normal)
  | none => none
end

end Term

end QueryWire.Query

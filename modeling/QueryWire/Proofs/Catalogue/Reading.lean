/-
  The catalogue of forms is unambiguous.

  `Term.ofTree` reads a term back from the tree of its expression: a scalar is a
  literal, an array is an array, and of an object the first key tells the form.
  Only under `object` and in the bindings of `let` the keys are data, so these
  two maps are read entry by entry and not as forms.  On the tree of a term the
  reader finds its normal form (`ofTree_expr`), hence two terms with one tree
  have one normal form (`tree_eq_iff_normal_eq`).
-/
import QueryWire.Proofs.Catalogue.Page
import QueryWire.Proofs.Catalogue.Term

namespace QueryWire.Query

/-! ## The words of the families -/

namespace Unary

def word : Unary → String
  | .get => "get"
  | .existsNow => "exists"
  | .count => "count"
  | .delete => "delete"
  | .matchIndex => "match"
  | .logout => "logout"
  | .casefold => "casefold"
  | .time => "time"
  | .date => "date"
  | .negation => "not"

def all : List Unary :=
  [.get, .existsNow, .count, .delete, .matchIndex, .logout, .casefold, .time, .date, .negation]

def ofWord? (w : String) : Option Unary :=
  all.find? (fun f => f.word == w)

theorem tree_build (f : Unary) (e : Expr) : (f.build e).tree = .object [(f.word, e.tree)] := by
  cases f <;> rfl

end Unary

namespace Binary

def words : Binary → String × String
  | .map => ("map", "collection")
  | .foreach => ("foreach", "collection")
  | .filter => ("filter", "collection")
  | .take => ("take", "collection")
  | .drop => ("drop", "collection")
  | .prepend => ("prepend", "collection")
  | .append => ("append", "collection")
  | .getAt => ("get", "ts")
  | .existsAt => ("exists", "ts")
  | .countEvents => ("count", "events")
  | .create => ("create", "params")
  | .update => ("update", "params")
  | .replace => ("replace", "params")
  | .matchTerms => ("match", "terms")
  | .join => ("join", "with")
  | .login => ("login", "params")
  | .identify => ("identify", "password")

def all : List Binary :=
  [.map, .foreach, .filter, .take, .drop, .prepend, .append, .getAt, .existsAt, .countEvents,
    .create, .update, .replace, .matchTerms, .join, .login, .identify]

def ofWord? (w : String) : Option Binary :=
  all.find? (fun f => f.words.1 == w)

theorem tree_build (f : Binary) (a b : Expr) :
    (f.build a b).tree = .object [(f.words.1, a.tree), (f.words.2, b.tree)] := by
  cases f <;> rfl

end Binary

namespace Listed

def word : Listed → String
  | .doAll => "do"
  | .union => "union"
  | .intersection => "intersection"
  | .difference => "difference"
  | .distinct => "distinct"
  | .concat => "concat"
  | .equals => "equals"
  | .add => "add"
  | .subtract => "subtract"
  | .multiply => "multiply"
  | .divide => "divide"
  | .modulo => "modulo"
  | .allOf => "and"
  | .anyOf => "or"

def all : List Listed :=
  [.doAll, .union, .intersection, .difference, .distinct, .concat, .equals, .add, .subtract,
    .multiply, .divide, .modulo, .allOf, .anyOf]

def ofWord? (w : String) : Option Listed :=
  all.find? (fun f => f.word == w)

theorem tree_build (f : Listed) (es : List Expr) :
    (f.build es).tree = .object [(f.word, (Expr.list es).tree)] := by
  cases f <;> rfl

end Listed

def TimeUnit.ofWord (w : String) : TimeUnit :=
  if w = "second" then .second
  else if w = "millisecond" then .millisecond
  else if w = "microsecond" then .microsecond
  else .nanosecond

theorem TimeUnit.ofWord_word (u : TimeUnit) : ofWord u.word = u := by
  cases u <;> rfl

def Action.ofWord (w : String) : Action :=
  if w = "create" then .create else .delete

theorem Action.ofWord_word (a : Action) : ofWord a.word = a := by
  cases a <;> rfl

namespace Term

/-! ## The reader -/

/-- A step of a path, which is a literal string or a literal integer. -/
def segment? : Term → Option Segment
  | .literal (.string name) => some (.field name)
  | .literal (.integer n) => some (.index n)
  | _ => none

/-- The cursor among the options of a page. -/
def cursor? (options : List (String × Term)) : Option (Side × Term) :=
  match Fields.get? "before" options, Fields.get? "after" options with
  | some t, _ => some (.before, t)
  | none, some t => some (.after, t)
  | none, none => none

/-- The size among the options of a page. -/
def size? (options : List (String × Term)) : Option Int64 :=
  match Fields.get? "size" options with
  | some (.literal (.integer n)) => some n
  | _ => none

/-- A flag among the options of a page; it stands there only if it is true. -/
def flag? (key : String) (options : List (String × Term)) : Option Bool :=
  (Fields.get? key options).map fun _ => true

/-- A request for a page from its options. -/
def page (resource : Term) (options : List (String × Term)) : Term :=
  .paginate resource (Fields.get? "ts" options) (cursor? options) (size? options)
    (flag? "events" options) (flag? "sources" options)

/-- A form from its keys and arguments; what is no form gives `nextId`. -/
def ofForm : List (String × Term) → Term
  | ("paginate", resource) :: options => page resource options
  | [("var", .literal (.string name))] => .var name
  | [("next_id", _)] => .nextId
  | [("if", condition), ("then", yes), ("else", no)] => .ifThenElse condition yes no
  | [("lambda", .literal (.string parameter)), ("expr", body)] => .lambda parameter body
  | [("insert", resource), ("ts", ts), ("action", .literal (.string w)), ("params", params)] =>
    .insert resource ts (Action.ofWord w) params
  | [("remove", resource), ("ts", ts), ("action", .literal (.string w))] =>
    .remove resource ts (Action.ofWord w)
  | [("concat", .array terms), ("separator", separator)] => .concatWith terms separator
  | [("epoch", number), ("unit", .literal (.string w))] => .epoch number (TimeUnit.ofWord w)
  | [("contains", .array segments), ("in", within)] =>
    .contains (segments.filterMap segment?) within
  | [("select", .array segments), ("from", source)] =>
    .select (segments.filterMap segment?) source
  | [(w, argument)] =>
    match Unary.ofWord? w, Listed.ofWord? w, argument with
    | some f, _, argument => .unary f argument
    | none, some f, .array items => .listed f items
    | _, _, _ => .nextId
  | [(w, first), (_, second)] =>
    match Binary.ofWord? w with
    | some f => .binary f first second
    | none => .nextId
  | _ => .nextId

/-- The only entry of what follows the bindings of a `let`. -/
def letBody : List (String × Term) → Term
  | [(_, body)] => body
  | _ => .nextId

mutual
/-- The term that a tree says. -/
def ofTree : Value → Term
  | .array items => .array (ofTrees items)
  | .object ((key, .object inner) :: rest) =>
    if key = objectKey then .object (ofEntries inner)
    else if key = "let" then .letIn (ofEntries inner) (letBody (ofEntries rest))
    else ofForm ((key, ofTree (.object inner)) :: ofEntries rest)
  | .object fields => ofForm (ofEntries fields)
  | v => .literal v

def ofTrees : List Value → List Term
  | [] => []
  | v :: rest => ofTree v :: ofTrees rest

def ofEntries : List (String × Value) → List (String × Term)
  | [] => []
  | (k, v) :: rest => (k, ofTree v) :: ofEntries rest
end

theorem ofEntries_eq_mapValues (fields : List (String × Value)) :
    ofEntries fields = Fields.mapValues ofTree fields := by
  induction fields with
  | nil => rfl
  | cons p rest ih => rw [ofEntries, ih]; rfl

theorem ofTree_object (inner : List (String × Value)) :
    ofTree (.object [(objectKey, .object inner)]) = .object (ofEntries inner) := by
  rw [ofTree, if_pos rfl]

theorem ofTree_form {key : String} (ho : key ≠ objectKey) (hl : key ≠ "let") (v : Value)
    (rest : List (String × Value)) :
    ofTree (.object ((key, v) :: rest)) = ofForm ((key, ofTree v) :: ofEntries rest) := by
  cases v with
  | object inner => rw [ofTree, if_neg ho, if_neg hl]
  | _ => rfl

/-! ## Literals -/

mutual
theorem ofTree_escaped : (v : Value) → ofTree v.escaped = ofValue v
  | .null => rfl
  | .boolean _ => rfl
  | .integer _ => rfl
  | .double _ => rfl
  | .string _ => rfl
  | .timestamp _ => rfl
  | .date _ => rfl
  | .ref _ => rfl
  | .setRef _ => rfl
  | .array items => by rw [Value.escaped, ofTree, ofValue, ofTrees_escapedItems items]
  | .object fields => by
    rw [Value.escaped, ofTree_object, ofValue, ofEntries_escapedFields fields]

theorem ofTrees_escapedItems : (items : List Value) →
    ofTrees (Value.escapedItems items) = ofItems items
  | [] => rfl
  | v :: rest => by
    rw [Value.escapedItems, ofTrees, ofItems, ofTree_escaped v, ofTrees_escapedItems rest]

theorem ofEntries_escapedFields : (fields : List (String × Value)) →
    ofEntries (Value.escapedFields fields) = ofFields fields
  | [] => rfl
  | (k, v) :: rest => by
    rw [Value.escapedFields, ofEntries, ofFields, ofTree_escaped v, ofEntries_escapedFields rest]
end

/-! ## Families -/

theorem ofTree_unary (f : Unary) (e : Expr) :
    ofTree (f.build e).tree = .unary f (ofTree e.tree) := by
  have ho : f.word ≠ objectKey := by cases f <;> decide
  have hl : f.word ≠ "let" := by cases f <;> decide
  rw [Unary.tree_build, ofTree_form ho hl, ofEntries]
  cases f <;> rfl

theorem ofTree_binary (f : Binary) (a b : Expr) :
    ofTree (f.build a b).tree = .binary f (ofTree a.tree) (ofTree b.tree) := by
  have ho : f.words.1 ≠ objectKey := by cases f <;> decide
  have hl : f.words.1 ≠ "let" := by cases f <;> decide
  rw [Binary.tree_build, ofTree_form ho hl, ofEntries, ofEntries]
  cases f <;> rfl

theorem ofTree_listed (f : Listed) (es : List Expr) :
    ofTree (f.build es).tree = .listed f (ofTrees (es.map Expr.tree)) := by
  have ho : f.word ≠ objectKey := by cases f <;> decide
  have hl : f.word ≠ "let" := by cases f <;> decide
  rw [Listed.tree_build, ofTree_form ho hl, ofEntries, Expr.list, ofTree]
  cases f <;> rfl

/-! ## Paths -/

theorem ofTree_path (segments : List Segment) :
    ∃ items, ofTree (path segments).tree = .array items ∧ items.filterMap segment? = segments := by
  refine ⟨_, rfl, ?_⟩
  induction segments with
  | nil => rfl
  | cons segment rest ih =>
    cases segment with
    | field name => exact congrArg (List.cons (.field name)) ih
    | index n => exact congrArg (List.cons (.index n)) ih

theorem ofTree_contains (segments : List Segment) (e : Expr) :
    ofTree (Query.contains segments e).tree = .contains segments (ofTree e.tree) := by
  obtain ⟨items, hp, hs⟩ := ofTree_path segments
  have ht : (Query.contains segments e).tree =
      .object [("contains", (path segments).tree), ("in", e.tree)] := rfl
  rw [ht, ofTree_form (by decide) (by decide), hp, ofEntries, ofEntries]
  exact congrArg (Term.contains · _) hs

theorem ofTree_select (segments : List Segment) (e : Expr) :
    ofTree (Query.select segments e).tree = .select segments (ofTree e.tree) := by
  obtain ⟨items, hp, hs⟩ := ofTree_path segments
  have ht : (Query.select segments e).tree =
      .object [("select", (path segments).tree), ("from", e.tree)] := rfl
  rw [ht, ofTree_form (by decide) (by decide), hp, ofEntries, ofEntries]
  exact congrArg (Term.select · _) hs

/-! ## Pages -/

/-- What the reader makes of the cursor slot. -/
def ofCursor : Cursor → Side × Term
  | .before e => (.before, ofTree e.tree)
  | .after e => (.after, ofTree e.tree)

theorem ofTree_page (p : Paginate) :
    ofTree p.expr.tree =
      .paginate (ofTree p.resource.tree) (p.ts.map fun e => ofTree e.tree)
        (p.cursor.map ofCursor) p.size (raised (some p.events)) (raised (some p.sources)) := by
  let options := (Fields.mapValues (fun e : Expr => ofTree e.tree) p.pairs).tail
  have hf : ofTree p.expr.tree = page (ofTree p.resource.tree) options := by
    rw [Paginate.tree_expr]
    refine (@ofTree_form "paginate" (by decide) (by decide) _ _).trans ?_
    rw [ofEntries_eq_mapValues]
    simp only [options, Paginate.pairs, Fields.mapValues, List.map_cons, List.map_map,
      List.tail_cons]
    rfl
  have hg : ∀ key, "paginate" ≠ key →
      Fields.get? key options = (Fields.get? key p.pairs).map fun e => ofTree e.tree := by
    intro key hk
    rw [← Fields.get?_mapValues]
    exact (if_neg hk).symm
  have hc : cursor? options = p.cursor.map ofCursor := by
    rw [cursor?, hg "before" (by decide), hg "after" (by decide), p.get?_before, p.get?_after]
    rcases p.cursor with _ | _ | _ <;> rfl
  have hs : size? options = p.size := by
    rw [size?, hg "size" (by decide), p.get?_size]
    rcases p.size with _ | _ <;> rfl
  have he : flag? "events" options = raised (some p.events) := by
    rw [flag?, hg "events" (by decide), p.get?_events]
    rcases p.events with _ | _ <;> rfl
  have ho : flag? "sources" options = raised (some p.sources) := by
    rw [flag?, hg "sources" (by decide), p.get?_sources]
    rcases p.sources with _ | _ <;> rfl
  rw [hf, page, hg "ts" (by decide), p.get?_ts, hc, hs, he, ho]

theorem setAll_settings (r : Expr) (ts : Option Expr) (cursor : Option Cursor)
    (size : Option Int64) (events sources : Option Bool) :
    Paginate.setAll { resource := r } (settings ts cursor size events sources) =
      { resource := r, ts, cursor, size,
        events := events.getD false, sources := sources.getD false } := by
  cases ts <;> cases cursor <;> cases size <;> cases events <;> cases sources <;> rfl

theorem raised_getD (flag : Option Bool) : raised (some (flag.getD false)) = raised flag := by
  rcases flag with _ | _ | _ <;> rfl

/-! ## Terms -/

theorem keys_exprEntries (entries : List (String × Term)) :
    Fields.keys ((exprEntries entries).map fun p => (p.1, p.2.tree)) = Fields.keys entries := by
  induction entries with
  | nil => rfl
  | cons p rest ih => exact congrArg (List.cons p.1) ih

theorem ofPairs_exprEntries {entries : List (String × Term)} (h : Fields.Distinct entries) :
    Fields.ofPairs ((exprEntries entries).map fun p => (p.1, p.2.tree)) =
      (exprEntries entries).map fun p => (p.1, p.2.tree) := by
  refine Fields.ofPairs_of_distinct ?_
  rw [Fields.Distinct, keys_exprEntries]
  exact h

mutual
theorem ofTree_expr : (t : Term) → t.DistinctKeys → ofTree t.expr.tree = t.normal
  | .literal v, _ => ofTree_escaped v
  | .object entries, h => by
    rw [expr, Expr.object, ofTree_object, ofPairs_exprEntries h.1, ofEntries_exprEntries entries h.2,
      normal]
  | .array items, h => by
    rw [expr, Expr.list, ofTree, ofTrees_exprItems items h, normal]
  | .letIn bindings body, h => by
    have ht : (Term.letIn bindings body).expr.tree =
        .object [("let", .object ((exprEntries bindings).map fun p => (p.1, p.2.tree))),
          ("in", body.expr.tree)] := by
      rw [← ofPairs_exprEntries h.1]
      rfl
    rw [ht, ofTree, if_neg (by decide), if_pos rfl, ofEntries_exprEntries bindings h.2.1, ofEntries,
      ofTree_expr body h.2.2]
    rfl
  | .var _, _ => rfl
  | .ifThenElse condition yes no, h => by
    have ht : (Term.ifThenElse condition yes no).expr.tree =
        .object [("if", condition.expr.tree), ("then", yes.expr.tree), ("else", no.expr.tree)] := rfl
    rw [ht, ofTree_form (by decide) (by decide), ofEntries, ofEntries, ofEntries,
      ofTree_expr condition h.1, ofTree_expr yes h.2.1, ofTree_expr no h.2.2]
    rfl
  | .lambda parameter body, h => by
    have ht : (Term.lambda parameter body).expr.tree =
        .object [("lambda", .string parameter), ("expr", body.expr.tree)] := rfl
    rw [ht, ofTree_form (by decide) (by decide), ofEntries, ofEntries, ofTree_expr body h]
    rfl
  | .unary f argument, h => by
    rw [expr, ofTree_unary, ofTree_expr argument h, normal]
  | .binary f first second, h => by
    rw [expr, ofTree_binary, ofTree_expr first h.1, ofTree_expr second h.2, normal]
  | .listed f items, h => by
    rw [expr, ofTree_listed, ofTrees_exprItems items h, normal]
  | .insert resource ts action params, h => by
    have ht : (Term.insert resource ts action params).expr.tree =
        .object [("insert", resource.expr.tree), ("ts", ts.expr.tree),
          ("action", .string action.word), ("params", params.expr.tree)] := rfl
    rw [ht, ofTree_form (by decide) (by decide), ofEntries, ofEntries, ofEntries, ofEntries,
      ofTree_expr resource h.1, ofTree_expr ts h.2.1, ofTree_expr params h.2.2]
    exact congrArg (Term.insert _ _ · _) action.ofWord_word
  | .remove resource ts action, h => by
    have ht : (Term.remove resource ts action).expr.tree =
        .object [("remove", resource.expr.tree), ("ts", ts.expr.tree),
          ("action", .string action.word)] := rfl
    rw [ht, ofTree_form (by decide) (by decide), ofEntries, ofEntries, ofEntries,
      ofTree_expr resource h.1, ofTree_expr ts h.2]
    exact congrArg (Term.remove _ _) action.ofWord_word
  | .concatWith terms separator, h => by
    have ht : (Term.concatWith terms separator).expr.tree =
        .object [("concat", .array ((exprItems terms).map Expr.tree)),
          ("separator", separator.expr.tree)] := rfl
    rw [ht, ofTree_form (by decide) (by decide), ofTree, ofEntries, ofEntries,
      ofTrees_exprItems terms h.1, ofTree_expr separator h.2]
    rfl
  | .epoch number unit, h => by
    have ht : (Term.epoch number unit).expr.tree =
        .object [("epoch", number.expr.tree), ("unit", .string unit.word)] := rfl
    rw [ht, ofTree_form (by decide) (by decide), ofEntries, ofEntries, ofTree_expr number h]
    exact congrArg (Term.epoch _) unit.ofWord_word
  | .nextId, _ => rfl
  | .contains segments within, h => by
    rw [expr, ofTree_contains, ofTree_expr within h, normal]
  | .select segments source, h => by
    rw [expr, ofTree_select, ofTree_expr source h, normal]
  | .paginate resource ts cursor size events sources, h => by
    rw [expr, setAll_settings, ofTree_page, ofTree_expr resource h.1, map_exprOption ts h.2.1,
      map_exprCursor cursor h.2.2, raised_getD, raised_getD, normal]

theorem ofTrees_exprItems : (items : List Term) → DistinctKeysItems items →
    ofTrees ((exprItems items).map Expr.tree) = normalItems items
  | [], _ => rfl
  | t :: rest, h => by
    rw [exprItems, List.map_cons, ofTrees, ofTree_expr t h.1, ofTrees_exprItems rest h.2,
      normalItems]

theorem ofEntries_exprEntries : (entries : List (String × Term)) → DistinctKeysEntries entries →
    ofEntries ((exprEntries entries).map fun p => (p.1, p.2.tree)) = normalEntries entries
  | [], _ => rfl
  | (k, t) :: rest, h => by
    rw [exprEntries, List.map_cons, ofEntries, ofTree_expr t h.1, ofEntries_exprEntries rest h.2,
      normalEntries]

theorem map_exprOption : (ts : Option Term) → DistinctKeysOption ts →
    (exprOption ts).map (fun e => ofTree e.tree) = normalOption ts
  | none, _ => rfl
  | some t, h => congrArg some (ofTree_expr t h)

theorem map_exprCursor : (cursor : Option (Side × Term)) → DistinctKeysCursor cursor →
    (exprCursor cursor).map ofCursor = normalCursor cursor
  | none, _ => rfl
  | some (.before, t), h => congrArg (fun x => some (Side.before, x)) (ofTree_expr t h)
  | some (.after, t), h => congrArg (fun x => some (Side.after, x)) (ofTree_expr t h)
end

/-! ## Normal forms -/

mutual
theorem expr_ofValue : (v : Value) → v.Distinct → (ofValue v).expr = .escape v
  | .null, _ => rfl
  | .boolean _, _ => rfl
  | .integer _, _ => rfl
  | .double _, _ => rfl
  | .string _, _ => rfl
  | .timestamp _, _ => rfl
  | .date _, _ => rfl
  | .ref _, _ => rfl
  | .setRef _, _ => rfl
  | .array items, h => by
    rw [ofValue, expr, Expr.list, exprItems_ofItems items h]
    rfl
  | .object fields, h => by
    have hd : Fields.Distinct (Value.escapedFields fields) := by
      rw [Value.escapedFields_eq_mapValues]
      exact Fields.distinct_mapValues h.1
    rw [ofValue, expr, Expr.object, exprEntries_ofFields fields h.2, Fields.ofPairs_of_distinct hd]
    rfl

theorem exprItems_ofItems : (items : List Value) → Value.DistinctItems items →
    (exprItems (ofItems items)).map Expr.tree = Value.escapedItems items
  | [], _ => rfl
  | v :: rest, h => by
    rw [ofItems, exprItems, List.map_cons, expr_ofValue v h.1, exprItems_ofItems rest h.2]
    rfl

theorem exprEntries_ofFields : (fields : List (String × Value)) → Value.DistinctFields fields →
    (exprEntries (ofFields fields)).map (fun p => (p.1, p.2.tree)) = Value.escapedFields fields
  | [], _ => rfl
  | (k, v) :: rest, h => by
    rw [ofFields, exprEntries, List.map_cons, expr_ofValue v h.1, exprEntries_ofFields rest h.2]
    rfl
end

mutual
/-- The normal form says the same as the term. -/
theorem expr_normal : (t : Term) → t.DistinctKeys → t.normal.expr = t.expr
  | .literal v, h => expr_ofValue v h
  | .object entries, h => by rw [normal, expr, expr, exprEntries_normalEntries entries h.2]
  | .array items, h => by rw [normal, expr, expr, exprItems_normalItems items h]
  | .letIn bindings body, h => by
    rw [normal, expr, expr, exprEntries_normalEntries bindings h.2.1, expr_normal body h.2.2]
  | .var _, _ => rfl
  | .ifThenElse condition yes no, h => by
    rw [normal, expr, expr, expr_normal condition h.1, expr_normal yes h.2.1, expr_normal no h.2.2]
  | .lambda _ body, h => by rw [normal, expr, expr, expr_normal body h]
  | .unary _ argument, h => by rw [normal, expr, expr, expr_normal argument h]
  | .binary _ first second, h => by
    rw [normal, expr, expr, expr_normal first h.1, expr_normal second h.2]
  | .listed _ items, h => by rw [normal, expr, expr, exprItems_normalItems items h]
  | .insert resource ts _ params, h => by
    rw [normal, expr, expr, expr_normal resource h.1, expr_normal ts h.2.1,
      expr_normal params h.2.2]
  | .remove resource ts _, h => by
    rw [normal, expr, expr, expr_normal resource h.1, expr_normal ts h.2]
  | .concatWith terms separator, h => by
    rw [normal, expr, expr, exprItems_normalItems terms h.1, expr_normal separator h.2]
  | .epoch number _, h => by rw [normal, expr, expr, expr_normal number h]
  | .nextId, _ => rfl
  | .contains _ within, h => by rw [normal, expr, expr, expr_normal within h]
  | .select _ source, h => by rw [normal, expr, expr, expr_normal source h]
  | .paginate resource ts cursor size events sources, h => by
    have hf : ∀ flag : Option Bool, (raised flag).getD false = flag.getD false := by
      intro flag
      rcases flag with _ | _ | _ <;> rfl
    rw [normal, expr, expr, setAll_settings, setAll_settings, hf, hf, expr_normal resource h.1,
      exprOption_normalOption ts h.2.1, exprCursor_normalCursor cursor h.2.2]

theorem exprItems_normalItems : (items : List Term) → DistinctKeysItems items →
    exprItems (normalItems items) = exprItems items
  | [], _ => rfl
  | t :: rest, h => by
    rw [normalItems, exprItems, exprItems, expr_normal t h.1, exprItems_normalItems rest h.2]

theorem exprEntries_normalEntries : (entries : List (String × Term)) →
    DistinctKeysEntries entries → exprEntries (normalEntries entries) = exprEntries entries
  | [], _ => rfl
  | (k, t) :: rest, h => by
    rw [normalEntries, exprEntries, exprEntries, expr_normal t h.1,
      exprEntries_normalEntries rest h.2]

theorem exprOption_normalOption : (ts : Option Term) → DistinctKeysOption ts →
    exprOption (normalOption ts) = exprOption ts
  | none, _ => rfl
  | some t, h => congrArg some (expr_normal t h)

theorem exprCursor_normalCursor : (cursor : Option (Side × Term)) → DistinctKeysCursor cursor →
    exprCursor (normalCursor cursor) = exprCursor cursor
  | none, _ => rfl
  | some (side, t), h => congrArg (fun e => some (side.cursor e)) (expr_normal t h)
end

/-- Two terms make one tree exactly when they are one term up to the ways to
    write a literal and flags that are false: no form is mistaken for data or for
    another form, and no argument is lost. -/
theorem tree_eq_iff_normal_eq {s t : Term} (hs : s.DistinctKeys) (ht : t.DistinctKeys) :
    s.expr.tree = t.expr.tree ↔ s.normal = t.normal := by
  constructor
  · intro h
    rw [← ofTree_expr s hs, ← ofTree_expr t ht, h]
  · intro h
    rw [← expr_normal s hs, ← expr_normal t ht, h]

/-- A page over literal data, and over the same data built part by part, with
    the flags of one set to false; a raised flag makes another tree. -/
theorem page_tree_eq_and_ne :
    (paginate (.unary .matchIndex (.literal (.object [("get", .array [.integer 1])])))
        none none (some 5) (some false) none).expr.tree =
      (paginate (.unary .matchIndex (.object [("get", .array [.literal (.integer 1)])]))
        none none (some 5) none (some false)).expr.tree ∧
    (paginate (.unary .matchIndex (.literal (.object [("get", .array [.integer 1])])))
        none none (some 5) (some false) none).expr.tree ≠
      (paginate (.unary .matchIndex (.object [("get", .array [.literal (.integer 1)])]))
        none none (some 5) (some true) none).expr.tree := by
  have hl : (paginate (.unary .matchIndex (.literal (.object [("get", .array [.integer 1])])))
      none none (some 5) (some false) none).DistinctKeys :=
    ⟨⟨by decide, ⟨trivial, trivial⟩, trivial⟩, trivial, trivial⟩
  have ho : ∀ events sources,
      (paginate (.unary .matchIndex (.object [("get", .array [.literal (.integer 1)])]))
        none none (some 5) events sources).DistinctKeys :=
    fun events sources => ⟨⟨by decide, ⟨trivial, trivial⟩, trivial⟩, trivial, trivial⟩
  refine ⟨(tree_eq_iff_normal_eq hl (ho none (some false))).mpr rfl, fun h => ?_⟩
  have hn := (tree_eq_iff_normal_eq hl (ho (some true) none)).mp h
  cases hn

end Term
end QueryWire.Query

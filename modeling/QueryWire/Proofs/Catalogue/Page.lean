/-
  The slots of a page request in its pairs.

  No key stands twice among the pairs (`Paginate.distinct_pairs`), so the form
  keeps all of them (`Paginate.tree_expr`), and each slot is found again under
  its own key (`Paginate.get?_ts` and the lemmas after it).
-/
import QueryWire.Proofs.Fields
import QueryWire.Query.Paginate

namespace QueryWire

namespace Fields

variable {α β : Type}

/-- A slot that is written under one key, if it is set. -/
theorem get?_slot (key k : String) (f : α → β) (o : Option α) :
    get? key (o.toList.map fun x => (k, f x)) = if k = key then o.map f else none := by
  cases o with
  | none => simp [get?]
  | some x => simp [get?]

end Fields

namespace Query.Paginate

/-! ## Keys -/

theorem keys_slot {α : Type} (k : String) (f : α → Expr) (o : Option α) :
    (Fields.keys (o.toList.map fun x => (k, f x))).Sublist [k] := by
  cases o with
  | none => exact List.nil_sublist _
  | some x => exact List.Sublist.refl _

theorem keys_cursor (c : Option Cursor) :
    (Fields.keys (c.toList.map cursorPair)).Sublist ["before", "after"] := by
  match c with
  | none => exact List.nil_sublist _
  | some (.before _) => exact List.Sublist.cons_cons _ (List.nil_sublist _)
  | some (.after _) => exact List.Sublist.cons _ (List.Sublist.refl _)

theorem keys_flag (k : String) (b : Bool) : (Fields.keys (flag k b)).Sublist [k] := by
  cases b with
  | false => exact List.nil_sublist _
  | true => exact List.Sublist.refl _

/-- The keys that a page request can have, in their order. -/
def slotKeys : List String :=
  ["paginate"] ++ (["ts"] ++ ["before", "after"] ++ ["size"] ++ ["events"] ++ ["sources"])

theorem keys_pairs (p : Paginate) : (Fields.keys p.pairs).Sublist slotKeys := by
  have h : Fields.keys p.pairs = ["paginate"] ++
      (Fields.keys (p.ts.toList.map fun e => ("ts", e)) ++
        Fields.keys (p.cursor.toList.map cursorPair) ++
        Fields.keys (p.size.toList.map fun n => ("size", Expr.ofInt64 n)) ++
        Fields.keys (flag "events" p.events) ++ Fields.keys (flag "sources" p.sources)) := by
    simp only [pairs, Fields.keys, List.map_cons, List.map_append, List.singleton_append]
  rw [h, slotKeys]
  refine (List.Sublist.refl _).append ?_
  refine List.Sublist.append ?_ (keys_flag _ _)
  refine List.Sublist.append ?_ (keys_flag _ _)
  refine List.Sublist.append ?_ (keys_slot _ _ _)
  exact (keys_slot "ts" id p.ts).append (keys_cursor p.cursor)

theorem distinct_pairs (p : Paginate) : Fields.Distinct p.pairs :=
  (keys_pairs p).nodup (by decide)

theorem tree_expr (p : Paginate) :
    p.expr.tree = .object (Fields.mapValues Expr.tree p.pairs) := by
  have h : Fields.Distinct (Fields.mapValues Expr.tree p.pairs) :=
    Fields.distinct_mapValues (distinct_pairs p)
  exact congrArg Value.object (Fields.ofPairs_of_distinct h)

/-! ## Slots -/

theorem get?_cursorPair (key : String) (c : Option Cursor) :
    Fields.get? key (c.toList.map cursorPair) =
      match c with
      | some (.before e) => if "before" = key then some e else none
      | some (.after e) => if "after" = key then some e else none
      | none => none := by
  match c with
  | none => rfl
  | some (.before _) => rfl
  | some (.after _) => rfl

theorem get?_flag (key k : String) (b : Bool) :
    Fields.get? key (flag k b) = if k = key ∧ b = true then some (.ofBool true) else none := by
  cases b with
  | false => simp [flag, Fields.get?]
  | true => simp [flag, Fields.get?]

section

variable (p : Paginate)

theorem get?_pairs (key : String) (h : "paginate" ≠ key) :
    Fields.get? key p.pairs =
      ((((if "ts" = key then p.ts else none).or
        (Fields.get? key (p.cursor.toList.map cursorPair))).or
        (if "size" = key then p.size.map Expr.ofInt64 else none)).or
        (if "events" = key ∧ p.events = true then some (.ofBool true) else none)).or
        (if "sources" = key ∧ p.sources = true then some (.ofBool true) else none) := by
  have ht : Fields.get? key (p.ts.toList.map fun e => ("ts", e)) =
      if "ts" = key then p.ts else none := by
    rw [Fields.get?_slot key "ts" (fun e => e) p.ts, Option.map_id']
  simp only [pairs, Fields.get?, if_neg h, Fields.get?_append, get?_flag, ht,
    Fields.get?_slot key "size" Expr.ofInt64]

theorem get?_ts : Fields.get? "ts" p.pairs = p.ts := by
  rw [get?_pairs p "ts" (by decide), get?_cursorPair]
  rcases p.cursor with _ | _ | _ <;> simp

theorem get?_before :
    Fields.get? "before" p.pairs =
      match p.cursor with
      | some (.before e) => some e
      | _ => none := by
  rw [get?_pairs p "before" (by decide), get?_cursorPair]
  rcases p.cursor with _ | _ | _ <;> simp

theorem get?_after :
    Fields.get? "after" p.pairs =
      match p.cursor with
      | some (.after e) => some e
      | _ => none := by
  rw [get?_pairs p "after" (by decide), get?_cursorPair]
  rcases p.cursor with _ | _ | _ <;> simp

theorem get?_size : Fields.get? "size" p.pairs = p.size.map Expr.ofInt64 := by
  rw [get?_pairs p "size" (by decide), get?_cursorPair]
  rcases p.cursor with _ | _ | _ <;> simp

theorem get?_events :
    Fields.get? "events" p.pairs = if p.events = true then some (.ofBool true) else none := by
  rw [get?_pairs p "events" (by decide), get?_cursorPair]
  rcases p.cursor with _ | _ | _ <;> simp

theorem get?_sources :
    Fields.get? "sources" p.pairs = if p.sources = true then some (.ofBool true) else none := by
  rw [get?_pairs p "sources" (by decide), get?_cursorPair]
  rcases p.cursor with _ | _ | _ <;> simp

end

end Query.Paginate

end QueryWire

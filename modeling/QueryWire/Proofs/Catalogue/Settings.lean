/-
  A page request is determined by the last setting of each slot.

  `Paginate.slot?` reads a slot of a request as the setting that filled it.  One
  setting fills its own slot and leaves the others alone (`slot?_set`), so after
  any number of settings every slot holds the last one that was made for it
  (`slot?_setAll`).  The tree lists the slots in a fixed order (`tree_eq`), and
  no two slots share a key, so the slots can be told from the tree, identical or
  equal (`slots_of_get?`).
-/
import QueryWire.Proofs.Catalogue.Congruence

namespace QueryWire

namespace Fields

variable {α β : Type} {R : α → β → Prop} {xs : List (String × α)} {ys : List (String × β)}

/-- Under every key, both or none of two matched lists have a value. -/
theorem Matched.get? (h : Matched R xs ys) (hd : Distinct xs) (key : String) :
    Option.Rel R (get? key xs) (get? key ys) := by
  have hsymm : Matched (fun y x => R x y) ys xs := h.symm hd fun _ _ _ hr => hr
  cases hx : Fields.get? key xs with
  | some x =>
    obtain ⟨y, hy, hr⟩ := h.2 (key, x) (mem_of_get? hx)
    rw [hy]
    exact .some hr
  | none =>
    cases hy : Fields.get? key ys with
    | none => exact .none
    | some y =>
      obtain ⟨x, hx', -⟩ := hsymm.2 (key, y) (mem_of_get? hy)
      cases hx.symm.trans hx'

end Fields

namespace Query.Paginate

/-! ## Slots -/

/-- What a setting can fill. -/
inductive Slot
  | ts
  | cursor
  | size
  | events
  | sources
deriving DecidableEq

/-- The slots in the order in which they are written. -/
def Slot.all : List Slot :=
  [.ts, .cursor, .size, .events, .sources]

namespace Setting

def slot : Setting → Slot
  | .ts _ => .ts
  | .cursor _ => .cursor
  | .size _ => .size
  | .events _ => .events
  | .sources _ => .sources

/-- A flag that is set to false says as much as one that was never set. -/
def counts : Setting → Bool
  | .events b => b
  | .sources b => b
  | _ => true

/-- The field of the tree in which a setting is written. -/
def field : Setting → String × Value
  | .ts e => ("ts", e.tree)
  | .cursor (.before e) => ("before", e.tree)
  | .cursor (.after e) => ("after", e.tree)
  | .size n => ("size", .integer n)
  | .events b => ("events", .boolean b)
  | .sources b => ("sources", .boolean b)

end Setting

/-- The last setting of a slot. -/
def last? (slot : Slot) (settings : List Setting) : Option Setting :=
  settings.reverse.find? fun s => decide (s.slot = slot)

/-- What the settings leave in a slot: the last one, if it counts. -/
def left? (slot : Slot) (settings : List Setting) : Option Setting :=
  (last? slot settings).filter Setting.counts

/-- What a request has in a slot, as the setting that fills it. -/
def slot? (p : Paginate) : Slot → Option Setting
  | .ts => p.ts.map .ts
  | .cursor => p.cursor.map .cursor
  | .size => p.size.map .size
  | .events => (some (.events p.events)).filter Setting.counts
  | .sources => (some (.sources p.sources)).filter Setting.counts

theorem last?_concat (slot : Slot) (settings : List Setting) (s : Setting) :
    last? slot (settings ++ [s]) = if s.slot = slot then some s else last? slot settings := by
  unfold last?
  rw [List.reverse_concat, List.find?_cons]
  split <;> simp_all

/-- The last setting of a slot does not see settings of other slots. -/
theorem last?_append_cons_cons {s t : Setting} (h : s.slot ≠ t.slot) (slot : Slot)
    (front back : List Setting) :
    last? slot (front ++ s :: t :: back) = last? slot (front ++ t :: s :: back) := by
  have hs : ∀ u v, last? slot (front ++ u :: v :: back) =
      (last? slot back).or (last? slot ((front ++ [u]) ++ [v])) := by
    intro u v
    unfold last?
    rw [← List.find?_append, ← List.reverse_append]
    simp
  rw [hs, hs, last?_concat, last?_concat, last?_concat, last?_concat]
  by_cases hslot : s.slot = slot
  · have ht : t.slot ≠ slot := hslot ▸ h.symm
    rw [if_neg ht, if_pos hslot, if_pos hslot]
  · rw [if_neg hslot, if_neg hslot]

/-! ## One setting, and all of them -/

variable {p q : Paginate}

theorem slot?_set (p : Paginate) (s : Setting) (slot : Slot) :
    (p.set s).slot? slot =
      if s.slot = slot then (some s).filter Setting.counts else p.slot? slot := by
  cases s <;> cases slot <;> rfl

theorem resource_setAll (p : Paginate) (settings : List Setting) :
    (p.setAll settings).resource = p.resource := by
  induction settings generalizing p with
  | nil => rfl
  | cons s settings ih =>
    have hs : (p.set s).resource = p.resource := by cases s <;> rfl
    exact (ih (p.set s)).trans hs

/-- A slot holds what its last setting gave it, or else what it held before. -/
theorem slot?_setAll (p : Paginate) (settings : List Setting) (slot : Slot) :
    (p.setAll settings).slot? slot =
      if last? slot settings = none then p.slot? slot else left? slot settings := by
  induction settings using List.reverseRecOn with
  | nil => rfl
  | append_singleton settings s ih =>
    have hset : p.setAll (settings ++ [s]) = (p.setAll settings).set s := List.foldl_append
    rw [hset, slot?_set, ih, left?, left?, last?_concat]
    by_cases hs : s.slot = slot
    · rw [if_pos hs, if_pos hs, if_neg (Option.some_ne_none s)]
    · rw [if_neg hs, if_neg hs]

theorem slot?_fresh (resource : Expr) (slot : Slot) :
    slot? { resource := resource } slot = none := by
  cases slot <;> rfl

theorem slot?_setAll_fresh (resource : Expr) (settings : List Setting) (slot : Slot) :
    (setAll { resource := resource } settings).slot? slot = left? slot settings := by
  rw [slot?_setAll, slot?_fresh, left?]
  split
  · rename_i hn
    rw [hn]
    rfl
  · rfl

/-! ## The tree -/

theorem tree_eq (p : Paginate) :
    p.expr.tree =
      .object (("paginate", p.resource.tree) :: (Slot.all.filterMap p.slot?).map Setting.field) := by
  rw [tree_expr]
  obtain ⟨resource, ts, cursor, size, events, sources⟩ := p
  rcases ts with _ | e <;> rcases cursor with _ | _ | _ <;> rcases size with _ | n <;>
    cases events <;> cases sources <;> rfl

/-- Requests whose pairs are related key by key have related slots. -/
theorem slots_of_get? {R : Expr → Expr → Prop} {S : Setting → Setting → Prop}
    (hts : ∀ e f, R e f → S (.ts e) (.ts f))
    (hbefore : ∀ e f, R e f → S (.cursor (.before e)) (.cursor (.before f)))
    (hafter : ∀ e f, R e f → S (.cursor (.after e)) (.cursor (.after f)))
    (hsize : ∀ m n, R (.ofInt64 m) (.ofInt64 n) → S (.size m) (.size n))
    (hevents : S (.events true) (.events true)) (hsources : S (.sources true) (.sources true))
    (h : ∀ key, Option.Rel R (Fields.get? key p.pairs) (Fields.get? key q.pairs)) :
    R p.resource q.resource ∧ ∀ slot, Option.Rel S (p.slot? slot) (q.slot? slot) := by
  have hr := h "paginate"
  have ht := h "ts"
  have hb := h "before"
  have ha := h "after"
  have hs := h "size"
  have he := h "events"
  have ho := h "sources"
  rw [get?_ts, get?_ts] at ht
  rw [get?_before, get?_before] at hb
  rw [get?_after, get?_after] at ha
  rw [get?_size, get?_size] at hs
  rw [get?_events, get?_events] at he
  rw [get?_sources, get?_sources] at ho
  obtain ⟨r, ts, cursor, size, events, sources⟩ := p
  obtain ⟨r', ts', cursor', size', events', sources'⟩ := q
  refine ⟨by cases hr with | some hr => exact hr, fun slot => ?_⟩
  cases slot with
  | ts => exact rel_map hts ht
  | cursor =>
    -- a cursor on the other side shows under the key of that side
    rcases cursor with _ | _ | _ <;> rcases cursor' with _ | _ | _ <;> cases hb <;> cases ha
    · exact .none
    · rename_i hr
      exact .some (hbefore _ _ hr)
    · rename_i hr
      exact .some (hafter _ _ hr)
  | size =>
    cases size <;> cases size' <;> cases hs
    · exact .none
    · rename_i hr
      exact .some (hsize _ _ hr)
  | events =>
    cases events <;> cases events' <;> cases he
    · exact .none
    · exact .some hevents
  | sources =>
    cases sources <;> cases sources' <;> cases ho
    · exact .none
    · exact .some hsources

theorem tree_eq_iff :
    p.expr.tree = q.expr.tree ↔
      p.resource = q.resource ∧ ∀ slot, p.slot? slot = q.slot? slot := by
  constructor
  · intro h
    rw [tree_expr, tree_expr] at h
    have htree : Function.Injective Expr.tree := fun _ _ he => congrArg Expr.mk he
    have hpairs : p.pairs = q.pairs :=
      (List.map_injective_iff.mpr fun _ _ he => Prod.ext (Prod.mk.inj he).1
        (htree (Prod.mk.inj he).2)) (Value.object.inj h)
    obtain ⟨hr, hs⟩ := slots_of_get? (R := Eq) (S := Eq) (p := p) (q := q)
      (fun e f he => he ▸ rfl) (fun e f he => he ▸ rfl) (fun e f he => he ▸ rfl)
      (fun m n he => congrArg _ (Value.integer.inj (congrArg Expr.tree he))) rfl rfl
      (fun key => hpairs ▸ rel_refl (fun _ => rfl) _)
    exact ⟨hr, fun slot => eq_of_rel_eq (hs slot)⟩
  · rintro ⟨hr, hs⟩
    rw [tree_eq, tree_eq, hr, funext hs]

theorem alike_of_slot? (hr : p.resource.same q.resource = true)
    (h : ∀ slot, Option.Rel Setting.Same (p.slot? slot) (q.slot? slot)) : p.Alike q := by
  have hts := h .ts
  have hcursor := h .cursor
  have hsize := h .size
  have hevents := h .events
  have hsources := h .sources
  obtain ⟨r, ts, cursor, size, events, sources⟩ := p
  obtain ⟨r', ts', cursor', size', events', sources'⟩ := q
  refine ⟨hr, ?_, ?_, ?_, ?_, ?_⟩
  · cases ts <;> cases ts' <;> cases hts
    · exact .none
    · rename_i hs
      cases hs with
      | ts he => exact .some he
  · cases cursor <;> cases cursor' <;> cases hcursor
    · exact .none
    · rename_i hs
      cases hs with
      | cursor hc => exact .some hc
  · cases size <;> cases size' <;> cases hsize
    · rfl
    · rename_i hs
      cases hs with
      | size n => rfl
  · cases events <;> cases events' <;> first | rfl | cases hevents
  · cases sources <;> cases sources' <;> first | rfl | cases hsources

/-- Equal trees have equal slots. -/
theorem same_iff :
    p.expr.same q.expr = true ↔ p.resource.same q.resource = true ∧
      ∀ slot, Option.Rel Setting.Same (p.slot? slot) (q.slot? slot) := by
  constructor
  · intro h
    unfold Expr.same at h
    rw [tree_expr, tree_expr] at h
    obtain ⟨fields, ⟨⟩, hm⟩ := Value.same_object_iff.mp h
    have hpairs : Fields.Matched (Expr.same · ·) p.pairs q.pairs := Fields.matched_mapValues.mp hm
    exact slots_of_get? (fun _ _ => .ts) (fun _ _ he => .cursor (.before he))
      (fun _ _ he => .cursor (.after he))
      (fun m n he => by
        cases Value.integer.inj ((Value.same_leaf_iff rfl _).mp he)
        exact .size m)
      (.events true) (.sources true) (hpairs.get? (distinct_pairs p))
  · rintro ⟨hr, h⟩
    exact Expr.same_form (alike_of_slot? hr h).pairs

/-! ## All settings -/

/-- The request for a page of a set, after some settings. -/
def page (resource : Expr) (settings : List Setting) : Expr :=
  (setAll { resource := resource } settings).expr

/-- A page request consists of its set and of the last setting of each slot.

    The tree lists them in a fixed order, with one cursor at most and without
    flags that were set to false last.  So settings with the same last one for
    each slot make the same expression, and neighbours for different slots may
    be exchanged.  In turn the tree determines the set and the last settings:
    requests are identical, or equal, exactly if these are. -/
theorem page_eq_last_settings (resource : Expr) (settings : List Setting) :
    (page resource settings).tree = .object (("paginate", resource.tree) ::
      (Slot.all.filterMap fun slot => left? slot settings).map Setting.field) ∧
    (∀ settings', (∀ slot, last? slot settings = last? slot settings') →
      page resource settings = page resource settings') ∧
    (∀ front s t back, settings = front ++ s :: t :: back → s.slot ≠ t.slot →
      page resource settings = page resource (front ++ t :: s :: back)) ∧
    ∀ resource' settings',
      ((page resource settings).tree = (page resource' settings').tree ↔
        resource = resource' ∧ ∀ slot, left? slot settings = left? slot settings') ∧
      ((page resource settings).same (page resource' settings') = true ↔
        resource.same resource' = true ∧
          ∀ slot, Option.Rel Setting.Same (left? slot settings) (left? slot settings')) := by
  have htree : ∀ resource' settings',
      (page resource settings).tree = (page resource' settings').tree ↔
        resource = resource' ∧ ∀ slot, left? slot settings = left? slot settings' := by
    intro resource' settings'
    have h := @tree_eq_iff (setAll { resource := resource } settings)
      (setAll { resource := resource' } settings')
    simp only [resource_setAll, slot?_setAll_fresh] at h
    exact h
  have hlast : ∀ settings', (∀ slot, last? slot settings = last? slot settings') →
      page resource settings = page resource settings' := by
    intro settings' h
    have he := (htree resource settings').mpr
      ⟨rfl, fun slot => congrArg (Option.filter Setting.counts) (h slot)⟩
    exact congrArg Expr.mk he
  refine ⟨?_, hlast, ?_, fun resource' settings' => ⟨htree resource' settings', ?_⟩⟩
  · have h := tree_eq (setAll { resource := resource } settings)
    rwa [resource_setAll, funext (slot?_setAll_fresh resource settings)] at h
  · rintro front s t back rfl h
    exact hlast _ fun slot => last?_append_cons_cons h slot front back
  · have h := @same_iff (setAll { resource := resource } settings)
      (setAll { resource := resource' } settings')
    simp only [resource_setAll, slot?_setAll_fresh] at h
    exact h

/-- Settings that are overwritten, a flag that is taken back and both cursors. -/
theorem page_eq_last_settings_overwritten :
    let settings : List Setting := [.size 1, .events true, .cursor (.before (ref "a")),
      .events false, .cursor (.after (ref "b")), .size 2]
    (page (ref "s") settings).tree =
      .object [("paginate", .ref ⟨"s"⟩), ("after", .ref ⟨"b"⟩), ("size", .integer 2)] ∧
    page (ref "s") settings =
      page (ref "s") [.size 2, .cursor (.after (ref "b")), .events false] ∧
    page (ref "s") settings =
      page (ref "s") [.size 1, .events true, .cursor (.before (ref "a")),
        .cursor (.after (ref "b")), .events false, .size 2] ∧
    (page (ref "s") settings).tree =
      (page (ref "s") [.cursor (.after (ref "b")), .size 2]).tree ∧
    (page (ref "s") settings).same (page (ref "s") [.cursor (.before (ref "b")), .size 2]) =
      false := by
  intro settings
  obtain ⟨htree, hlast, hswap, hiff⟩ := page_eq_last_settings (ref "s") settings
  refine ⟨htree, hlast _ ?_, hswap [_, _, _] _ _ [_] rfl (by decide),
    (hiff (ref "s") _).1.mpr ⟨rfl, ?_⟩, ?_⟩
  · intro slot
    cases slot <;> rfl
  · intro slot
    cases slot <;> rfl
  · rw [← Bool.not_eq_true, (hiff (ref "s") _).2]
    rintro ⟨-, h⟩
    cases h .cursor with
    | some hs =>
      cases hs with
      | cursor hc => cases hc

end Query.Paginate

end QueryWire

/-
  Ordered fields: key/value pairs in which a key stands once.  `insert` gives a
  known key its new value in place and puts a new key last; `ofPairs` inserts
  pairs from the left, so that a repeated key keeps its first place and takes
  its last value.

  * `get?_insert`: an insertion is seen by `get?` at its key and nowhere else.
  * `distinct_ofPairs`: `ofPairs` yields distinct keys, whatever the pairs.
  * `mem_of_mem_ofPairs`: it makes up no field.
  * `ofPairs_of_distinct`: pairs with distinct keys are kept as they are.
-/
namespace QueryWire.Fields

variable {α β : Type}

/-- The value under `key`. -/
def get? (key : String) : List (String × α) → Option α
  | [] => none
  | (k, v) :: rest => if k = key then some v else get? key rest

/-- Sets `key`: in place if it is there, else as the last field. -/
def insert (key : String) (value : α) : List (String × α) → List (String × α)
  | [] => [(key, value)]
  | (k, v) :: rest =>
    if k = key then (k, value) :: rest else (k, v) :: insert key value rest

def ofPairs (pairs : List (String × α)) : List (String × α) :=
  pairs.foldl (fun fields p => insert p.1 p.2 fields) []

def keys (fields : List (String × α)) : List String :=
  fields.map Prod.fst

/-- No key stands twice. -/
def Distinct (fields : List (String × α)) : Prop :=
  (keys fields).Nodup

instance (fields : List (String × α)) : Decidable (Distinct fields) :=
  inferInstanceAs (Decidable (keys fields).Nodup)

/-- Applies `f` to every value and keeps keys and order. -/
def mapValues (f : α → β) (fields : List (String × α)) : List (String × β) :=
  fields.map (fun p => (p.1, f p.2))

/-- The content of a single field named `key`. -/
def only? (key : String) : List (String × α) → Option α
  | [(k, v)] => if k = key then some v else none
  | _ => none

/-! ## Looking up -/

theorem get?_insert (key k : String) (v : α) (fields : List (String × α)) :
    get? k (insert key v fields) = if key = k then some v else get? k fields := by
  induction fields with
  | nil => rfl
  | cons p rest ih =>
    obtain ⟨k', w⟩ := p
    by_cases h : k' = key
    · subst h; simp only [insert, if_pos, get?]; split <;> rfl
    · simp only [insert, if_neg h, get?, ih]
      by_cases h' : k' = k
      · subst h'; simp [Ne.symm h]
      · simp [h']

theorem get?_eq_none_iff (key : String) (fields : List (String × α)) :
    get? key fields = none ↔ key ∉ keys fields := by
  induction fields with
  | nil => simp [get?, keys]
  | cons p rest ih =>
    by_cases h : p.1 = key
    · simp [get?, keys, h]
    · simp only [get?, if_neg h, ih, keys, List.map_cons, List.mem_cons, not_or]
      exact ⟨fun hr => ⟨Ne.symm h, hr⟩, And.right⟩

theorem get?_mapValues (f : α → β) (key : String) (fields : List (String × α)) :
    get? key (mapValues f fields) = (get? key fields).map f := by
  induction fields with
  | nil => rfl
  | cons p rest ih =>
    simp only [mapValues, List.map_cons, get?]
    split
    · rfl
    · exact ih

/-! ## Members -/

theorem mem_insert {key : String} {v : α} {fields : List (String × α)} {p : String × α}
    (h : p ∈ insert key v fields) : p = (key, v) ∨ p ∈ fields := by
  induction fields with
  | nil => exact Or.inl (List.mem_singleton.mp h)
  | cons q rest ih =>
    obtain ⟨k, w⟩ := q
    simp only [insert] at h
    split at h
    · rename_i hk
      rcases List.mem_cons.mp h with rfl | hr
      · exact Or.inl (by rw [hk])
      · exact Or.inr (List.mem_cons_of_mem _ hr)
    · rcases List.mem_cons.mp h with rfl | hr
      · exact Or.inr List.mem_cons_self
      · exact (ih hr).imp_right (List.mem_cons_of_mem _)

theorem mem_foldl_insert (pairs : List (String × α)) {fields : List (String × α)} {p : String × α}
    (h : p ∈ pairs.foldl (fun fields p => insert p.1 p.2 fields) fields) :
    p ∈ pairs ∨ p ∈ fields := by
  induction pairs generalizing fields with
  | nil => exact Or.inr h
  | cons q rest ih =>
    rcases ih h with hr | hf
    · exact Or.inl (List.mem_cons_of_mem _ hr)
    · rcases mem_insert hf with rfl | hf
      · exact Or.inl List.mem_cons_self
      · exact Or.inr hf

theorem mem_of_mem_ofPairs {pairs : List (String × α)} {p : String × α} (h : p ∈ ofPairs pairs) :
    p ∈ pairs :=
  (mem_foldl_insert pairs h).resolve_right List.not_mem_nil

/-! ## Keys -/

theorem keys_mapValues (f : α → β) (fields : List (String × α)) :
    keys (mapValues f fields) = keys fields := by
  simp [keys, mapValues]

theorem distinct_mapValues {f : α → β} {fields : List (String × α)} (h : Distinct fields) :
    Distinct (mapValues f fields) := by
  rwa [Distinct, keys_mapValues]

theorem keys_insert (key : String) (v : α) (fields : List (String × α)) :
    keys (insert key v fields) = if key ∈ keys fields then keys fields else keys fields ++ [key] := by
  induction fields with
  | nil => rfl
  | cons p rest ih =>
    obtain ⟨k, w⟩ := p
    by_cases h : k = key
    · subst h; simp [insert, keys]
    · have hk : keys ((k, w) :: insert key v rest) = k :: keys (insert key v rest) := rfl
      simp only [insert, if_neg h, hk, ih]
      have hc : keys ((k, w) :: rest) = k :: keys rest := rfl
      rw [hc]
      by_cases hm : key ∈ keys rest
      · simp [hm]
      · simp [hm, Ne.symm h]

theorem distinct_insert (key : String) (v : α) {fields : List (String × α)} (h : Distinct fields) :
    Distinct (insert key v fields) := by
  unfold Distinct at *
  rw [keys_insert]
  split
  · exact h
  · rename_i hk
    exact List.nodup_append.mpr ⟨h, by simp, fun a ha b hb => by
      rw [List.mem_singleton.mp hb]; exact fun e => hk (e ▸ ha)⟩

theorem distinct_foldl_insert (pairs : List (String × α)) {fields : List (String × α)}
    (h : Distinct fields) :
    Distinct (pairs.foldl (fun fields p => insert p.1 p.2 fields) fields) := by
  induction pairs generalizing fields with
  | nil => exact h
  | cons p rest ih => exact ih (distinct_insert p.1 p.2 h)

theorem distinct_ofPairs (pairs : List (String × α)) : Distinct (ofPairs pairs) :=
  distinct_foldl_insert pairs List.nodup_nil

theorem insert_new (key : String) (v : α) {fields : List (String × α)} (h : key ∉ keys fields) :
    insert key v fields = fields ++ [(key, v)] := by
  induction fields with
  | nil => rfl
  | cons p rest ih =>
    obtain ⟨k, w⟩ := p
    simp only [keys, List.map_cons, List.mem_cons, not_or] at h
    simp only [insert, if_neg (Ne.symm h.1), List.cons_append, ih h.2]

theorem foldl_insert_of_distinct (pairs fields : List (String × α))
    (h : Distinct (fields ++ pairs)) :
    pairs.foldl (fun fields p => insert p.1 p.2 fields) fields = fields ++ pairs := by
  induction pairs generalizing fields with
  | nil => simp
  | cons p rest ih =>
    have hn : p.1 ∉ keys fields := by
      unfold Distinct keys at h
      rw [List.map_append, List.map_cons] at h
      exact fun hm => (List.nodup_append.mp h).2.2 _ hm _ (List.mem_cons_self) rfl
    rw [List.foldl_cons, insert_new p.1 p.2 hn]
    have ha : fields ++ [p] ++ rest = fields ++ p :: rest := by simp
    rw [ih (fields ++ [p]) (by rw [ha]; exact h), ha]

theorem ofPairs_of_distinct {pairs : List (String × α)} (h : Distinct pairs) :
    ofPairs pairs = pairs :=
  foldl_insert_of_distinct pairs [] h

end QueryWire.Fields

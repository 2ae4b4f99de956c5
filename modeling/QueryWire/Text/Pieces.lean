/-
  Cutting a text at separators.  The pieces keep everything but the separators
  (`flatten_pieces`), and none of them contains one (`not_mem_pieces`).
-/
namespace QueryWire.Text

/-- The pieces between separators; there is always at least one. -/
def pieces (isSeparator : Char → Bool) : List Char → List (List Char)
  | [] => [[]]
  | c :: cs =>
    if isSeparator c then [] :: pieces isSeparator cs
    else match pieces isSeparator cs with
      | [] => [[c]]
      | piece :: rest => (c :: piece) :: rest

theorem flatten_pieces (isSeparator : Char → Bool) (cs : List Char) :
    (pieces isSeparator cs).flatten = cs.filter (fun c => !isSeparator c) := by
  induction cs with
  | nil => rfl
  | cons c cs ih =>
    by_cases h : isSeparator c = true
    · simp [pieces, h, ih]
    · rw [pieces, if_neg h, List.filter_cons_of_pos (by simpa using h), ← ih]
      cases pieces isSeparator cs <;> rfl

theorem not_mem_pieces (isSeparator : Char → Bool) (cs : List Char) :
    ∀ piece ∈ pieces isSeparator cs, ∀ c ∈ piece, isSeparator c = false := by
  induction cs with
  | nil => simp [pieces]
  | cons c cs ih =>
    by_cases h : isSeparator c = true
    · simpa [pieces, h] using ih
    · rw [pieces, if_neg h]
      cases hp : pieces isSeparator cs with
      | nil => simpa using h
      | cons first rest =>
        rw [hp] at ih
        intro piece hm x hx
        rcases List.mem_cons.mp hm with rfl | hm
        · rcases List.mem_cons.mp hx with rfl | hx
          · simpa using h
          · exact ih first List.mem_cons_self x hx
        · exact ih piece (List.mem_cons_of_mem _ hm) x hx

end QueryWire.Text

/-
  The endpoint of a configuration that sets none.

  A configuration holds it as a URL that is read already.  A text in ASCII has
  nothing to compose (`normalized_of_isAscii`), so the domain of the service stands
  for itself, and its address is read as that URL (`parse_defaultEndpoint`).
-/
import QueryWire.Config

namespace QueryWire

/-! ## Texts in ASCII -/

namespace Text

theorem composites_beyond_ascii : ∀ entry ∈ composites, 128 ≤ entry.1 ∧ 128 ≤ entry.2.2 := by
  have h : composites.toList.all (fun entry => decide (128 ≤ entry.1 ∧ 128 ≤ entry.2.2)) = true := by
    decide +kernel
  intro entry he
  exact of_decide_eq_true (List.all_eq_true.mp h entry (Array.mem_toList_iff.mpr he))

theorem rankRuns_beyond_ascii : ∀ run ∈ rankRuns, 128 ≤ run.1 := by
  have h : rankRuns.toList.all (fun run => decide (128 ≤ run.1)) = true := by decide +kernel
  intro run hr
  exact of_decide_eq_true (List.all_eq_true.mp h run (Array.mem_toList_iff.mpr hr))

variable {c d : Char}

theorem rank_of_ascii (h : c.toNat < 128) : rank c = 0 := by
  have hn : rankRuns.find? (fun run => run.1 ≤ c.toNat && c.toNat ≤ run.2.1) = none := by
    rw [Array.find?_eq_none]
    intro run hr
    have hb := rankRuns_beyond_ascii run hr
    simp only [Bool.and_eq_true, decide_eq_true_eq]
    omega
  unfold rank
  rw [hn]

theorem decomposed_of_ascii (h : c.toNat < 128) : decomposed c = [c] := by
  have hs : syllableParts? c = none := if_neg (by omega)
  have hn : composites.find? (fun entry => entry.1 == c.toNat) = none := by
    rw [Array.find?_eq_none]
    intro entry he
    have hb := (composites_beyond_ascii entry he).1
    rw [beq_iff_eq]
    omega
  have hp : parts? c = none := by
    rw [parts?, hs, hn]
    rfl
  rw [decomposed, hp]

theorem composite?_of_ascii (c : Char) (h : d.toNat < 128) : composite? c d = none := by
  have hs : syllable? c d = none := by
    unfold syllable?
    dsimp only
    rw [if_neg (by omega), if_neg (by omega)]
  have hn : composites.find? (fun entry => entry.2.1 == c.toNat && entry.2.2 == d.toNat) = none := by
    rw [Array.find?_eq_none]
    intro entry he
    have hb := (composites_beyond_ascii entry he).2
    simp only [Bool.and_eq_true, beq_iff_eq]
    omega
  rw [composite?, hs, hn]
  rfl

variable {cs : List Char}

theorem arranged_of_ascii (h : ∀ c ∈ cs, c.toNat < 128) : arranged cs = cs := by
  induction cs with
  | nil => rfl
  | cons c cs ih =>
    obtain ⟨-, hcs⟩ := List.forall_mem_cons.mp h
    have ih := ih hcs
    rw [arranged] at ih ⊢
    rw [List.foldr_cons, ih]
    cases cs with
    | nil => rfl
    | cons d cs =>
      have hd := rank_of_ascii (hcs d List.mem_cons_self)
      rw [arrange, if_neg (by omega)]

theorem composed_cons (first c : Char) (cs : List Char) :
    composed first [] (c :: cs) =
      match composite? first c with
      | some d => composed d [] cs
      | none => if rank c = 0 then first :: composed c [] cs else composed first [c] cs :=
  rfl

theorem composed_of_ascii (h : ∀ c ∈ cs, c.toNat < 128) (first : Char) :
    composed first [] cs = first :: cs := by
  induction cs generalizing first with
  | nil => rfl
  | cons c cs ih =>
    obtain ⟨hc, hcs⟩ := List.forall_mem_cons.mp h
    rw [composed_cons, composite?_of_ascii first hc]
    dsimp only
    rw [if_pos (rank_of_ascii hc), ih hcs]

/-- A text in ASCII is normal. -/
theorem normalized_of_isAscii (h : Url.isAscii cs = true) : normalized cs = cs := by
  have hc : ∀ c ∈ cs, c.toNat < 128 := fun c hc => of_decide_eq_true (List.all_eq_true.mp h c hc)
  have hd : cs.flatMap decomposed = cs := by
    rw [List.flatMap_def, List.map_congr_left fun c hm => decomposed_of_ascii (hc c hm),
      ← List.flatMap_def]
    exact List.flatMap_singleton' cs
  rw [normalized, hd, arranged_of_ascii hc]
  cases cs with
  | nil => rfl
  | cons c cs => exact composed_of_ascii (List.forall_mem_cons.mp hc).2 c

end Text

/-! ## The address of the service -/

namespace Url

theorem labels?_service : labels? "rest.faunadb.com".toList =
    some [⟨"rest".toList, "rest".toList⟩, ⟨"faunadb".toList, "faunadb".toList⟩,
      ⟨"com".toList, "com".toList⟩] := by
  have hf : "rest.faunadb.com".toList.mapM fold? =
      some ("rest.faunadb.com".toList.map fun c => [c]) := by decide +kernel
  -- Computed as it stands, the normal form would look up each character in the whole table.
  have hn : Text.normalized ("rest.faunadb.com".toList.map fun c => [c]).flatten =
      "rest.faunadb.com".toList :=
    @Text.normalized_of_isAscii "rest.faunadb.com".toList (by decide)
  rw [labels?, hf, Option.bind_eq_bind, Option.bind_some]
  dsimp only
  rw [hn]
  rfl

theorem specialHost_service :
    specialHost "rest.faunadb.com".toList = .ok "rest.faunadb.com".toList := by
  have hd : domain? (percentDecode "rest.faunadb.com".toList) = some "rest.faunadb.com".toList := by
    have ht : String.fromUTF8? ⟨(percentDecode "rest.faunadb.com".toList).toArray⟩ =
        some "rest.faunadb.com" := by decide +kernel
    rw [domain?, ht, Option.bind_eq_bind, Option.bind_some, labels?_service]
    rfl
  have he : endsInNumber "rest.faunadb.com".toList = false := by decide
  rw [specialHost, hd]
  · dsimp only
    rw [he]
    rfl
  · intro rest hr
    exact absurd (congrArg List.head? hr)
      (by decide : "rest.faunadb.com".toList.head? ≠ some '[')

theorem readAuthority_service : readAuthority "https".toList "rest.faunadb.com".toList =
    .ok ({ host := "rest.faunadb.com".toList }, []) := by
  have hs : (defaultPort? "https".toList).isSome = true := by decide
  have ht : hostText true false "rest.faunadb.com".toList = "rest.faunadb.com".toList := by decide
  have hh : hostAndPort "https".toList "rest.faunadb.com".toList =
      .ok ({ host := "rest.faunadb.com".toList }, []) := by
    simp only [hostAndPort, hs, ht, specialHost_service]
    rfl
  exact hh

end Url

/-- The endpoint by default is the one that this text gives. -/
theorem Config.parse_defaultEndpoint :
    Url.parse "https://rest.faunadb.com" = .ok defaultEndpoint := by
  have hs : Url.scheme? (Url.trimmed "https://rest.faunadb.com".toList) =
      some ("https".toList, "//rest.faunadb.com".toList) := by decide
  have hd : (Url.counted "//rest.faunadb.com".toList).dropWhile (fun c => c == '/' || c == '\\') =
      "rest.faunadb.com".toList := by decide
  rw [Url.parse, hs]
  dsimp only
  rw [if_neg (by decide), if_pos (by decide), Url.ofSpecial, hd, Url.readAuthority_service]
  rfl

end QueryWire

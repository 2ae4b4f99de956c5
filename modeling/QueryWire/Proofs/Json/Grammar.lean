/-
  The grammar of JSON texts, as relations between data and characters.

  A string has many texts, as each character may be written as it is or escaped
  (`StringText`); lists and objects have blanks around their parts and commas
  between them (`BracketText`).  `ValueText` is any value at all, by the brackets
  that are open at the same time, where an escape need not stand for a character
  and a number may have any size.  A record is an object of known members in any
  order, among others that hold any value (`RecordText`).
-/
import QueryWire.Fields
import QueryWire.Json.Lexeme

namespace QueryWire.Json

def Blanks (cs : List Char) : Prop :=
  ∀ c ∈ cs, isBlank c = true

instance (cs : List Char) : Decidable (Blanks cs) :=
  decidable_of_iff (cs.all isBlank = true) List.all_eq_true

/-! ## Strings -/

/-- A character that may stand in a string as it is. -/
structure IsPlain (c : Char) : Prop where
  control : 0x20 ≤ c.toNat
  quote : c ≠ '"'
  backslash : c ≠ '\\'

/-- Four hexadecimal digits that write the number. -/
def HexText (n : Nat) (digits : List Char) : Prop :=
  fourHexDigits? digits = some (n, [])

/-- The texts of one character within a string. -/
inductive CharText : Char → List Char → Prop
  | plain {c : Char} (hc : IsPlain c) : CharText c [c]
  | short {c e : Char} (he : shortEscape? e = some c) : CharText c ['\\', e]
  | code {c : Char} {digits : List Char} (hd : HexText c.toNat digits) :
      CharText c ('\\' :: 'u' :: digits)
  | surrogates {m n : Nat} {ds es : List Char} (hm : isLeadingSurrogate m = true)
      (hn : isTrailingSurrogate n = true) (hd : HexText m ds) (he : HexText n es) :
      CharText (surrogatePair m n) ('\\' :: 'u' :: (ds ++ '\\' :: 'u' :: es))

/-- The texts of the characters of a string, one after the other. -/
inductive CharsText : List Char → List Char → Prop
  | nil : CharsText [] []
  | cons {c : Char} {s t cs : List Char} (hc : CharText c t) (hs : CharsText s cs) :
      CharsText (c :: s) (t ++ cs)

def StringText (s : String) (cs : List Char) : Prop :=
  ∃ inside, cs = '"' :: (inside ++ ['"']) ∧ CharsText s.toList inside

/-- What a string may have inside if its escapes need not stand for characters. -/
inductive RawText : List Char → Prop
  | nil : RawText []
  | plain {c : Char} {cs : List Char} (hc : IsPlain c) (h : RawText cs) : RawText (c :: cs)
  | short {e : Char} {cs : List Char} (he : (shortEscape? e).isSome = true) (h : RawText cs) :
      RawText ('\\' :: e :: cs)
  | code {n : Nat} {digits cs : List Char} (hd : HexText n digits) (h : RawText cs) :
      RawText ('\\' :: 'u' :: (digits ++ cs))

def RawString (cs : List Char) : Prop :=
  ∃ inside, cs = '"' :: (inside ++ ['"']) ∧ RawText inside

/-! ## Numbers -/

def Digits (ds : List Char) : Prop :=
  ds ≠ [] ∧ ∀ c ∈ ds, c.isDigit = true

instance (ds : List Char) : Decidable (Digits ds) :=
  decidable_of_iff (ds ≠ [] ∧ ds.all Char.isDigit = true)
    (and_congr_right fun _ => List.all_eq_true)

def FractionText (cs : List Char) : Prop :=
  cs = [] ∨ ∃ ds, Digits ds ∧ cs = '.' :: ds

def ExponentText (cs : List Char) : Prop :=
  cs = [] ∨ ∃ e sign ds, (e = 'e' ∨ e = 'E') ∧ (sign = [] ∨ sign = ['+'] ∨ sign = ['-']) ∧
    Digits ds ∧ cs = e :: (sign ++ ds)

/-- A sign, digits without a zero in front, a fraction and an exponent. -/
def NumberText (cs : List Char) : Prop :=
  ∃ sign whole fraction exponent, cs = sign ++ (whole ++ (fraction ++ exponent)) ∧
    (sign = [] ∨ sign = ['-']) ∧ Digits whole ∧ (whole.head? = some '0' → whole = ['0']) ∧
    FractionText fraction ∧ ExponentText exponent

/-! ## Lists and objects -/

section

variable {α : Type} (opening closing : Char) (Item : α → List Char → Prop)

/-- What follows an item: the closing bracket, or a comma and more items. -/
inductive TailText : List α → List Char → Prop
  | close {b : List Char} (hb : Blanks b) : TailText [] (b ++ [closing])
  | comma {b b' t cs : List Char} {x : α} {xs : List α} (hb : Blanks b) (hb' : Blanks b')
      (hx : Item x t) (hxs : TailText xs cs) : TailText (x :: xs) (b ++ ',' :: (b' ++ (t ++ cs)))

/-- Items in brackets. -/
inductive BracketText : List α → List Char → Prop
  | empty {b : List Char} (hb : Blanks b) : BracketText [] (opening :: (b ++ [closing]))
  | items {b t cs : List Char} {x : α} {xs : List α} (hb : Blanks b) (hx : Item x t)
      (hxs : TailText closing Item xs cs) : BracketText (x :: xs) (opening :: (b ++ (t ++ cs)))

end

section

variable {κ α : Type}

def ListText (Item : α → List Char → Prop) : List α → List Char → Prop :=
  BracketText '[' ']' Item

/-- A key, a colon and a value. -/
def MemberText (Key : κ → List Char → Prop) (Value : α → List Char → Prop) (p : κ × α)
    (cs : List Char) : Prop :=
  ∃ k b b' v, cs = k ++ (b ++ ':' :: (b' ++ v)) ∧ Blanks b ∧ Blanks b' ∧ Key p.1 k ∧ Value p.2 v

def ObjectText (Key : κ → List Char → Prop) (Value : α → List Char → Prop) :
    List (κ × α) → List Char → Prop :=
  BracketText '\x7b' '\x7d' (MemberText Key Value)

end

/-! ## Values -/

def WordText (cs : List Char) : Prop :=
  cs = ['n', 'u', 'l', 'l'] ∨ cs = ['t', 'r', 'u', 'e'] ∨ cs = ['f', 'a', 'l', 's', 'e']

/-- A value without brackets. -/
def ScalarText (cs : List Char) : Prop :=
  WordText cs ∨ RawString cs ∨ NumberText cs

/-- A value with at most `nesting` brackets open at the same time. -/
def ValueText : (nesting : Nat) → List Char → Prop
  | 0, cs => ScalarText cs
  | nesting + 1, cs => ScalarText cs ∨
    (∃ items : List Unit, ListText (fun _ => ValueText nesting) items cs) ∨
    ∃ members : List (Unit × Unit),
      ObjectText (fun _ => RawString) (fun _ => ValueText nesting) members cs

/-! ## Records -/

/-- A known member of a record: the texts of its value, and whether it may be left out. -/
structure Part where
  key : String
  optional : Prop
  Text : List Char → Prop

/-- The members of a record, each with the text of its value: the known ones, and
    others with any value. -/
structure IsRecord (parts : List Part) (members : List (String × List Char)) : Prop where
  distinct : Fields.Distinct members
  known : ∀ part ∈ parts, (∃ v, (part.key, v) ∈ members ∧ part.Text v) ∨
    part.optional ∧ part.key ∉ Fields.keys members
  unknown : ∀ p ∈ members, p.1 ∉ parts.map Part.key → ∃ nesting, ValueText nesting p.2

def RecordText (parts : List Part) (cs : List Char) : Prop :=
  ∃ members, IsRecord parts members ∧ ObjectText StringText Eq members cs

/-! ## Items that are known better -/

section

variable {α : Type} {opening closing : Char} {Item Item' : α → List Char → Prop} {xs : List α}
  {cs : List Char}

/-- An item is shorter than the text that it is part of. -/
theorem TailText.imp {n : Nat} (h : TailText closing Item xs cs) (hn : cs.length ≤ n)
    (hi : ∀ x t, Item x t → t.length < n → Item' x t) : TailText closing Item' xs cs := by
  induction h with
  | close hb => exact .close hb
  | comma hb hb' hx _ ih =>
    simp only [List.length_append, List.length_cons] at hn
    exact .comma hb hb' (hi _ _ hx (by omega)) (ih (by omega))

theorem BracketText.imp (h : BracketText opening closing Item xs cs)
    (hi : ∀ x t, Item x t → t.length < cs.length → Item' x t) :
    BracketText opening closing Item' xs cs := by
  cases h with
  | empty hb => exact .empty hb
  | items hb hx hxs =>
    simp only [List.length_append, List.length_cons] at hi
    exact .items hb (hi _ _ hx (by omega))
      (hxs.imp (Nat.le_refl _) fun x t ht hl => hi x t ht (by omega))

theorem TailText.map {β : Type} {Item : β → List Char → Prop} (f : α → β)
    (h : TailText closing (fun x => Item (f x)) xs cs) : TailText closing Item (xs.map f) cs := by
  induction h with
  | close hb => exact .close hb
  | comma hb hb' hx _ ih => exact .comma hb hb' hx ih

theorem BracketText.map {β : Type} {Item : β → List Char → Prop} (f : α → β)
    (h : BracketText opening closing (fun x => Item (f x)) xs cs) :
    BracketText opening closing Item (xs.map f) cs := by
  cases h with
  | empty hb => exact .empty hb
  | items hb hx hxs => exact .items hb hx (hxs.map f)

/-- Each item after the first one has a comma in front. -/
theorem TailText.length_lt (h : TailText closing Item xs cs) : xs.length < cs.length := by
  induction h with
  | close _ => simp
  | comma _ _ _ _ ih =>
    simp only [List.length_append, List.length_cons]
    omega

end

/-- The members with the values that are made of them. -/
theorem ObjectText.mapValues {α β : Type} {Key : String → List Char → Prop}
    {Value : β → List Char → Prop} (f : α → β) {members : List (String × α)} {cs : List Char}
    (h : ObjectText Key (fun x => Value (f x)) members cs) :
    ObjectText Key Value (Fields.mapValues f members) cs := by
  let g : String × α → String × β := fun p => (p.1, f p.2)
  have hg : BracketText '\x7b' '\x7d' (fun p => MemberText Key Value (g p)) members cs := h
  exact hg.map g

end QueryWire.Json

/-
  Network addresses as hosts.

  An IPv4 address has up to four numbers, decimal, octal after `0` or
  hexadecimal after `0x`; the last one fills all bytes that are left.  An IPv6
  address has eight groups, of which `::` stands for one or more zero groups
  and the last two may be written as an IPv4 address.  Written out, the first
  longest run of two or more zero groups becomes `::`.
-/
import QueryWire.Text.Pieces
import QueryWire.Url.Percent

namespace QueryWire.Url

open Text (Numeral.hexDigit? Numeral.ofNat Numeral.value pieces)

/-! ## IPv4 -/

/-- The number of a run of hexadecimal digits; zero for the empty run. -/
def hexadecimal? (digits : List Char) : Option Nat :=
  (digits.mapM Numeral.hexDigit?).map (fun ds => ds.foldl (fun n d => n * 16 + d) 0)

/-- A number of an IPv4 address. -/
def ipv4Number? : List Char → Option Nat
  | [] => none
  | '0' :: 'x' :: digits => hexadecimal? digits
  | '0' :: 'X' :: digits => hexadecimal? digits
  | '0' :: d :: digits =>
    if (d :: digits).all (fun c => c.isDigit && c != '8' && c != '9') then
      some (Nat.ofDigitChars 8 (d :: digits) 0)
    else none
  | cs => if cs.all Char.isDigit then some (Numeral.value cs) else none

/-- The pieces of a domain between its dots, without an empty one at the end. -/
def labels (domain : List Char) : List (List Char) :=
  let parts := pieces (· == '.') domain
  if 1 < parts.length ∧ parts.getLast? = some [] then parts.dropLast else parts

/-- Whether the last label is a number, so that the domain has to be an address. -/
def endsInNumber (domain : List Char) : Bool :=
  match (labels domain).getLast? with
  | none => false
  | some last => (!last.isEmpty && last.all Char.isDigit) || (ipv4Number? last).isSome

/-- The bytes of an address as one number, from numbers in front and a last one. -/
def ipv4Value? : (place : Nat) → List Nat → Option Nat
  | _, [] => none
  | place, [last] => if last < Nat.pow 256 (4 - place) then some last else none
  | place, n :: rest =>
    if n < 256 then (ipv4Value? (place + 1) rest).map (· + n * Nat.pow 256 (3 - place)) else none

/-- The address that a domain denotes. -/
def ipv4? (domain : List Char) : Option Nat := do
  let numbers ← (labels domain).mapM ipv4Number?
  if numbers.length ≤ 4 then ipv4Value? 0 numbers else none

def ipv4Chars (address : Nat) : List Char :=
  Numeral.ofNat (address / 0x1000000 % 256) ++ '.' :: Numeral.ofNat (address / 0x10000 % 256) ++
    '.' :: Numeral.ofNat (address / 256 % 256) ++ '.' :: Numeral.ofNat (address % 256)

/-! ## IPv6 -/

/-- A group of one to four hexadecimal digits. -/
def ipv6Group? (cs : List Char) : Option Nat :=
  if 1 ≤ cs.length ∧ cs.length ≤ 4 then hexadecimal? cs else none

/-- A byte of an IPv4 address within an IPv6 address: decimal without leading zeros. -/
def plainByte? (cs : List Char) : Option Nat :=
  let n := Numeral.value cs
  if !cs.isEmpty && cs.all Char.isDigit && n < 256 && cs == Numeral.ofNat n then some n else none

/-- The last part of an address: a group, or two groups written as IPv4. -/
def lastGroups? (cs : List Char) : Option (List Nat) :=
  match ipv6Group? cs with
  | some n => some [n]
  | none =>
    match (pieces (· == '.') cs).mapM plainByte? with
    | some [a, b, c, d] => some [a * 256 + b, c * 256 + d]
    | _ => none

/-- Groups between colons. -/
def groups? : List (List Char) → Option (List Nat)
  | [] => some []
  | [last] => lastGroups? last
  | group :: rest => do
    let n ← ipv6Group? group
    let ns ← groups? rest
    some (n :: ns)

/-- The groups of a text without `::`; none for the empty text. -/
def groupRun? (cs : List Char) : Option (List Nat) :=
  if cs.isEmpty then some [] else groups? (pieces (· == ':') cs)

/-- Groups in front of `::`, which cannot be written as IPv4. -/
def leadingRun? (cs : List Char) : Option (List Nat) :=
  if cs.isEmpty then some [] else (pieces (· == ':') cs).mapM ipv6Group?

/-- What stands before and after the first `::`. -/
def splitAtGap : List Char → Option (List Char × List Char)
  | [] => none
  | ':' :: ':' :: rest => some ([], rest)
  | c :: rest => (splitAtGap rest).map (fun (front, back) => (c :: front, back))

/-- The eight groups of an address. -/
def ipv6? (cs : List Char) : Option (List Nat) :=
  match splitAtGap cs with
  | some (front, back) => do
    let before ← leadingRun? front
    let after ← groupRun? back
    let count := before.length + after.length
    if count ≤ 7 then some (before ++ List.replicate (8 - count) 0 ++ after) else none
  | none => do
    let groups ← groupRun? cs
    if groups.length = 8 then some groups else none

/-- The length of the run of zeros in front. -/
def zeroRun (groups : List Nat) : Nat :=
  (groups.takeWhile (· == 0)).length

/-- Place and length of the first longest run of zeros. -/
def longestZeroRun (place : Nat) : List Nat → Nat × Nat
  | [] => (place, 0)
  | group :: rest =>
    let later := longestZeroRun (place + 1) rest
    let here := zeroRun (group :: rest)
    if later.2 ≤ here then (place, here) else later

def groupChars (groups : List Nat) : List Char :=
  List.intercalate [':'] (groups.map (Nat.toDigits 16))

def ipv6Chars (groups : List Nat) : List Char :=
  let (place, length) := longestZeroRun 0 groups
  if 2 ≤ length then
    groupChars (groups.take place) ++ ':' :: ':' :: groupChars (groups.drop (place + length))
  else groupChars groups

end QueryWire.Url

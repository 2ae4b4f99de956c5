/-
  URLs after the WHATWG standard.

  A URL is read into its parts, each already in the form in which it is
  written, and `href` puts them together.  Blanks and controls around a URL do
  not count, nor do tabs and line breaks within it, except behind a drive letter.
  The schemes of the web are special: they have a host, take a backslash for a
  slash and have a port by default, which is not written; `file` has an optional
  host and no port.  A URL of any other scheme may have a plain text instead of a
  path.
-/
import QueryWire.Fields
import QueryWire.Url.Host
import QueryWire.Url.Path

namespace QueryWire

namespace Url

/-- User, host and port. -/
structure Authority where
  user : List Char := []
  password : List Char := []
  host : List Char
  port : Option Nat := none
deriving DecidableEq

inductive Location
  | text (cs : List Char)
  | segments (path : List (List Char))
deriving DecidableEq

end Url

structure Url where
  scheme : List Char
  authority : Option Url.Authority
  location : Url.Location
  query : Option (List Char) := none
  fragment : Option (List Char) := none
deriving DecidableEq

namespace Url

/-! ## Schemes -/

/-- The ports by default of the special schemes but `file`. -/
def defaultPorts : List (String × Nat) :=
  [("http", 80), ("https", 443), ("ws", 80), ("wss", 443), ("ftp", 21)]

def defaultPort? (scheme : List Char) : Option Nat :=
  Fields.get? (String.ofList scheme) defaultPorts

def isSchemeChar (c : Char) : Bool :=
  c.isAlphanum || c == '+' || c == '-' || c == '.'

/-- The scheme, in small letters, and what follows its colon. -/
def scheme? (cs : List Char) : Option (List Char × List Char) :=
  match cs.span (fun c => isSchemeChar c || isIgnored c) with
  | (scheme, ':' :: rest) =>
    let scheme := counted scheme
    if (scheme.head?.map Char.isAlpha).getD false then some (scheme.map Char.toLower, rest)
    else none
  | _ => none

/-! ## Authority -/

/-- Whether a character ends the authority. -/
def endsAuthority (special : Bool) (c : Char) : Bool :=
  c == '/' || c == '?' || c == '#' || (special && c == '\\')

/-- User and password of the text before the last `@`. -/
def credentials (cs : List Char) : List Char × List Char :=
  let user := cs.takeWhile (· != ':')
  (percentEncode inUserSet user, percentEncode inUserSet (cs.drop (user.length + 1)))

/-- The text before the last `@` of the authority, and what follows it. -/
def userPart (special : Bool) (cs : List Char) : Option (List Char) × List Char :=
  let authority := cs.takeWhile (fun c => !endsAuthority special c)
  if authority.contains '@' then
    let after := (authority.reverse.takeWhile (· != '@')).reverse
    (some (authority.take (authority.length - after.length - 1)),
      after ++ cs.drop authority.length)
  else (none, cs)

/-- The text of the host, in which a colon may stand between brackets. -/
def hostText (special inBrackets : Bool) : List Char → List Char
  | [] => []
  | c :: cs =>
    if endsAuthority special c || (c == ':' && !inBrackets) then []
    else c :: hostText special (if c == '[' then true else if c == ']' then false else inBrackets) cs

/-- The number after the colon of a port, and what follows it. -/
def portNumber (cs : List Char) : Except UrlFault (Option Nat × List Char) :=
  let digits := cs.takeWhile Char.isDigit
  let rest := cs.drop digits.length
  let n := Text.Numeral.value digits
  if 65535 < n then .error .invalidPort
  else match rest with
    | [] => .ok (if digits.isEmpty then none else some n, [])
    | c :: _ =>
      if endsAuthority true c then .ok (if digits.isEmpty then none else some n, rest)
      else .error .invalidPort

/-- Host and port, without a port by default. -/
def hostAndPort (scheme : List Char) (cs : List Char) :
    Except UrlFault (Authority × List Char) := do
  let special := (defaultPort? scheme).isSome
  let text := hostText special false cs
  let rest := cs.drop text.length
  if special && text.isEmpty then throw .emptyHost
  let host ← if special then specialHost text else plainHost text
  match rest with
  | ':' :: rest => do
    if host.isEmpty then throw .emptyHost
    let (port, rest) ← portNumber rest
    return ({ host, port := if port = defaultPort? scheme then none else port }, rest)
  | _ => return ({ host }, rest)

/-- What follows `//`. -/
def readAuthority (scheme : List Char) (cs : List Char) : Except UrlFault (Authority × List Char) := do
  let special := (defaultPort? scheme).isSome
  match userPart special cs with
  | (none, rest) => hostAndPort scheme rest
  | (some text, rest) => do
    if text.isEmpty && (rest.head?.map (endsAuthority special)).getD false then throw .emptyHost
    let (user, password) := credentials text
    let (found, rest) ← hostAndPort scheme rest
    if found.host.isEmpty && !(user.isEmpty && password.isEmpty) then throw .emptyHost
    return ({ found with user, password }, rest)

/-! ## Path, query and fragment -/

/-- The text before a query or a fragment, and what is left. -/
def pathText (cs : List Char) : List Char × List Char :=
  cs.span (fun c => c != '?' && c != '#')

/-- Adds the query and the fragment that follow the path. -/
def withTail (url : Url) (special : Bool) (cs : List Char) : Url :=
  let (query, rest) :=
    match cs with
    | '?' :: rest =>
      let text := rest.takeWhile (· != '#')
      (some (percentEncode (if special then inSpecialQuerySet else inQuerySet) text),
        rest.drop text.length)
    | _ => (none, cs)
  let fragment :=
    match rest with
    | '#' :: text => some (percentEncode inFragmentSet text)
    | _ => none
  { url with query, fragment }

/-- Drops one slash in front, or a backslash as well. -/
def dropSlash (special : Bool) : List Char → List Char
  | c :: cs => if c == '/' || (special && c == '\\') then cs else c :: cs
  | [] => []

/-! ## URLs of the three kinds of schemes -/

/-- A special URL, after any number of slashes. -/
def ofSpecial (scheme : List Char) (cs : List Char) : Except UrlFault Url := do
  let (found, rest) ← readAuthority scheme (cs.dropWhile (fun c => c == '/' || c == '\\'))
  let (path, tail) := pathText rest
  return withTail ⟨scheme, some found, .segments (segments true (dropSlash true path)),
    none, none⟩ true tail

/-- A URL of a scheme that is not special. -/
def ofPlain (scheme : List Char) : List Char → Except UrlFault Url
  | '/' :: '/' :: cs => do
    let (found, rest) ← readAuthority scheme cs
    let (path, tail) := pathText rest
    let location := if path.isEmpty then [] else segments false (dropSlash false path)
    return withTail ⟨scheme, some found, .segments location, none, none⟩ false tail
  | '/' :: cs =>
    let (path, tail) := pathText cs
    .ok (withTail ⟨scheme, none, .segments (segments false path), none, none⟩ false tail)
  | cs =>
    let (path, tail) := pathText cs
    .ok (withTail ⟨scheme, none, .text (percentEncode isControl path), none, none⟩ false tail)

/-- What follows a slash in front. -/
def afterSlash? (cs : List Char) : Option (List Char) :=
  match cs.dropWhile isIgnored with
  | c :: rest => if c == '/' || c == '\\' then some rest else none
  | [] => none

/-- A `file` URL with the given host, unless a drive letter takes its place.  Empty
    segments in front do not stay. -/
def fileUrl (host : List Char) (cs : List Char) : Url :=
  let (path, tail) := pathText cs
  let walk := Walk.ofPath true true path
  let host := if walk.drive then [] else host
  withTail ⟨"file".toList, some { host }, .segments (dropEmpty walk.segments), none, none⟩ true
    (counted tail)

/-- A `file` URL, after the colon.  A drive letter may stand where a host would.
    Behind an empty host, or the local one, the path keeps its leading slash, so
    that it begins with an empty segment. -/
def ofFile (cs : List Char) : Except UrlFault Url :=
  match afterSlash? cs with
  | none => .ok (fileUrl [] cs)
  | some path =>
    match afterSlash? path with
    | none => .ok (fileUrl [] path)
    | some rest => do
      let text := rest.takeWhile (fun c => !endsAuthority true c)
      let name := counted text
      if isDriveLetter name then return fileUrl [] rest
      let path := rest.drop text.length
      let host ← if name.isEmpty then pure [] else specialHost name
      if host.isEmpty || host == "localhost".toList then return fileUrl [] path
      return fileUrl host ((afterSlash? path).getD path)

/-- Drops blanks and controls around a URL. -/
def trimmed (cs : List Char) : List Char :=
  let isOuter := fun c : Char => decide (c.toNat ≤ 0x20)
  ((cs.dropWhile isOuter).reverse.dropWhile isOuter).reverse

/-- Reads a URL. -/
def parse (text : String) : Except UrlFault Url :=
  match scheme? (trimmed text.toList) with
  | none => .error .noScheme
  | some (scheme, rest) =>
    if scheme = "file".toList then ofFile rest
    else if (defaultPort? scheme).isSome then ofSpecial scheme (counted rest)
    else ofPlain scheme (counted rest)

/-! ## Writing -/

def Authority.chars (a : Authority) : List Char :=
  a.user ++ (if a.password.isEmpty then [] else ':' :: a.password) ++
    (if a.user.isEmpty && a.password.isEmpty then [] else ['@']) ++ a.host ++
    (match a.port with
      | some port => ':' :: Text.Numeral.ofNat port
      | none => [])

def Location.chars : Location → List Char
  | .text cs => cs
  | .segments path => path.flatMap (fun segment => '/' :: segment)

/-- The mark that keeps a path with an empty first segment from being taken for
    an authority. -/
def guardChars (url : Url) : List Char :=
  match url.authority, url.location with
  | none, .segments ([] :: _ :: _) => ['/', '.']
  | _, _ => []

/-- The text of a URL. -/
def href (url : Url) : String :=
  String.ofList (url.scheme ++ ':' ::
    (match url.authority with
      | some a => '/' :: '/' :: a.chars
      | none => []) ++
    guardChars url ++ url.location.chars ++
    (match url.query with
      | some query => '?' :: query
      | none => []) ++
    (match url.fragment with
      | some fragment => '#' :: fragment
      | none => []))

/-- The root of the same authority.  A drive letter is the root of its own and has
    no host. -/
def root (url : Url) : Except UrlFault Url :=
  match url.location with
  | .text _ => .error .noPath
  | .segments path =>
    let root := { url with location := .segments [[]], query := none, fragment := none }
    if url.scheme = "file".toList && hasDriveLetter path then
      .ok { root with authority := some { host := [] }, location := .segments (path.take 1 ++ [[]]) }
    else .ok root

end Url

end QueryWire

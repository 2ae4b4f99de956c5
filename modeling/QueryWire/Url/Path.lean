/-
  Paths of URLs.

  A path is cut into segments; a single dot stands for the directory itself and
  a double dot for the one above.  A Windows drive letter is never removed by a
  double dot.  A drive letter at the beginning of a `file` path is written with a
  colon and takes the place of the host.
-/
import QueryWire.Text.Pieces
import QueryWire.Url.Percent

namespace QueryWire.Url

/-! ## Segments -/

/-- The segment with every `%2e` written as a dot. -/
def plainDots : List Char → List Char
  | '%' :: '2' :: 'e' :: rest => '.' :: plainDots rest
  | '%' :: '2' :: 'E' :: rest => '.' :: plainDots rest
  | c :: rest => c :: plainDots rest
  | [] => []

def isSingleDot (segment : List Char) : Bool :=
  plainDots segment == ['.']

def isDoubleDot (segment : List Char) : Bool :=
  plainDots segment == ['.', '.']

/-- A letter and a colon or a bar. -/
def isDriveLetter : List Char → Bool
  | [c, d] => c.isAlpha && (d == ':' || d == '|')
  | _ => false

/-- A letter and a colon. -/
def isNormalDriveLetter : List Char → Bool
  | [c, d] => c.isAlpha && d == ':'
  | _ => false

/-- Whether a double dot leaves the segment in its place: a drive letter, which a
    backslash may end. -/
def isKept : List Char → Bool
  | c :: d :: '\\' :: _ => isDriveLetter [c, d]
  | segment => isDriveLetter segment

/-! ## Pieces -/

/-- Tabs and line breaks do not count in a URL. -/
def isIgnored (c : Char) : Bool :=
  c == '\t' || c == '\n' || c == '\r'

/-- The characters that count. -/
def counted (cs : List Char) : List Char :=
  cs.filter (fun c => !isIgnored c)

/-- Whether an ignored character follows the first `n` characters that count. -/
def isBrokenAfter : Nat → List Char → Bool
  | _, [] => false
  | 0, c :: _ => isIgnored c
  | n + 1, c :: cs => if isIgnored c then isBrokenAfter (n + 1) cs else isBrokenAfter n cs

/-- What stands between two slashes of a path. -/
structure Piece where
  segment : List Char
  /-- Whether a tab or a line break follows the second character. -/
  isBroken : Bool

def Piece.ofChars (cs : List Char) : Piece :=
  ⟨percentEncode inPathSet (counted cs), isBrokenAfter 2 cs⟩

/-! ## Walking down a path -/

/-- A path as far as it is read. -/
structure Walk where
  /-- The segments, the last one first. -/
  above : List (List Char) := []
  /-- Whether a drive letter has taken the place of the host. -/
  drive : Bool := false

namespace Walk

/-- Goes up one directory. -/
def up (walk : Walk) : Walk :=
  match walk.above with
  | [] => walk
  | segment :: above => if isKept segment then walk else { walk with above }

/-- Adds a segment. -/
def push (segment : List Char) (walk : Walk) : Walk :=
  { walk with above := segment :: walk.above }

/-- Goes down into a piece.  At the beginning of a `file` path a drive letter gets
    a colon, and one with a colon is a segment of its own if a tab or a line break
    separates it from what follows. -/
def down (file : Bool) (piece : Piece) (walk : Walk) : Walk :=
  if file && walk.above.isEmpty then
    if isDriveLetter piece.segment then ⟨[piece.segment.take 1 ++ [':']], true⟩
    else if piece.isBroken && isNormalDriveLetter (piece.segment.take 2) then
      (walk.push (piece.segment.take 2)).push (piece.segment.drop 2)
    else walk.push piece.segment
  else walk.push piece.segment

/-- Follows the pieces.  A dot segment at the end leaves an empty segment. -/
def follow (file : Bool) (walk : Walk) : List Piece → Walk
  | [] => walk
  | [piece] =>
    if isDoubleDot piece.segment then walk.up.push []
    else if isSingleDot piece.segment then walk.push []
    else walk.down file piece
  | piece :: rest =>
    if isDoubleDot piece.segment then follow file walk.up rest
    else if isSingleDot piece.segment then follow file walk rest
    else follow file (walk.down file piece) rest

/-- Walks down the text of a path without its leading slash. -/
def ofPath (special file : Bool) (cs : List Char) : Walk :=
  follow file {} ((Text.pieces (fun c => c == '/' || (special && c == '\\')) cs).map Piece.ofChars)

def segments (walk : Walk) : List (List Char) :=
  walk.above.reverse

end Walk

/-- The segments of a path without its leading slash. -/
def segments (special : Bool) (cs : List Char) : List (List Char) :=
  (Walk.ofPath special false cs).segments

/-! ## Paths of files -/

/-- Drops empty segments in front, but never the last segment. -/
def dropEmpty : List (List Char) → List (List Char)
  | [] :: segment :: rest => dropEmpty (segment :: rest)
  | path => path

/-- Whether the first segment of a `file` path is a drive letter. -/
def hasDriveLetter (path : List (List Char)) : Bool :=
  match path with
  | first :: _ => isNormalDriveLetter first
  | [] => false

end QueryWire.Url

/-
  Domains.

  The characters of a domain are folded and composed, and each label is written
  in ASCII.  If a label is written from right to left, every label has to keep
  its direction next to the others.
-/
import QueryWire.Url.Label

namespace QueryWire.Url

/-- Whether a character cannot stand in a domain. -/
def isForbiddenInDomain (c : Char) : Bool :=
  decide (c.toNat ≤ 0x20) || c.toNat == 0x7F || "%#/:<>?@[\\]^|".toList.contains c

/-- The labels of a domain. -/
def labels? (text : List Char) : Option (List Label) := do
  let folded ← text.mapM fold?
  let cs := Text.normalized folded.flatten
  if cs.any isForbiddenInDomain then none
  else
    let labels ← (Text.pieces (· == '.') cs).mapM Label.ofChars?
    if labels.any Label.isRightToLeft && !labels.all Label.isDirected then none else some labels

/-- The domain of a text in UTF-8, as it is written. -/
def domain? (bytes : List UInt8) : Option (List Char) := do
  let text ← String.fromUTF8? ⟨bytes.toArray⟩
  let labels ← labels? text.toList
  return ['.'].intercalate (labels.map Label.chars)

end QueryWire.Url

import MediaNode.Url.Direction
import MediaNode.Url.Joiner
import MediaNode.Url.Label

/-!
# Domains

A domain is read in its plain form and cut into labels. A label in the encoding
for international names has to stand for a label in plain form that leaves ASCII.
No label starts with a mark, joiners stand only where they can be told, and the
directions of all labels fit. Labels that leave ASCII are then written in the
encoding. A domain in ASCII without encoded labels is only lower-cased.
-/
namespace MediaNode.Url.Domain

/-- Characters that no domain may hold. -/
def isForbidden (c : Char) : Bool :=
  c.toNat ≤ 0x20 || c.toNat = 0x7F || "#/:<>?@[\\]^|%".toList.contains c

/-- The most characters of a label beyond ASCII. -/
def maxLabel : Nat := 1000

/-- The most characters of an encoded label behind its mark. -/
def maxEncoded : Nat := 2000

/-- The label that a label stands for: an encoded one for what it encodes, any other
for itself. -/
def inner? (label : List Char) : Option (List Char) :=
  if encodedMark.isPrefixOf label then
    let text := label.drop encodedMark.length
    if maxEncoded < text.length then none
    else (decodedLabel? text).filter fun inner =>
      !isAscii inner && plainText inner = some inner && asciiLabel inner = label
  else some label

/-- Whether a label in plain form may stand in a domain. -/
def isLabel (label : List Char) : Bool :=
  !(label.head?.any Text.isMark) && joinersFit [] label &&
    (isAscii label || label.length ≤ maxLabel)

/-- The labels of a domain in ASCII; `none` if they may not stand in one. -/
def asciiLabels? (name : List Char) : Option (List (List Char)) := do
  let labels := Text.splitAll '.' (← plainText name)
  let inner ← labels.mapM inner?
  if inner.all isLabel && directionsFit inner then some (labels.map asciiLabel) else none

/-- Whether a domain is read without tables. -/
def isPlain (name : List Char) : Bool :=
  isAscii name && (Text.splitAll '.' name).all fun label => !encodedMark.isPrefixOf label

/-- A domain in ASCII and lower case; `none` if no domain may be written so. -/
def ascii? (name : List Char) : Option (List Char) :=
  let lower := name.map Char.toLower
  let domain :=
    if isPlain lower then some lower
    else (asciiLabels? name).map fun labels => (List.intersperse ['.'] labels).flatten
  domain.filter fun domain => !domain.any isForbidden

end MediaNode.Url.Domain

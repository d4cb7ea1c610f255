/-!
# Tags

A tag says of which kind a node is. It is kept as the octets that its text stands for, since the
escapes of a tag may spell octets that form no text. The octets count up to the first zero. A tag
in front of which an exclamation mark stands and whose other octets form a text is local.
-/

namespace Scorecard.Yaml

/-- The octets of a tag. -/
abbrev Tag := List UInt8

namespace Tag

/-- The octet of a character; tags are written in ASCII. -/
def octet (c : Char) : UInt8 := UInt8.ofNat c.toNat

/-- The octet of the exclamation mark. -/
def mark : UInt8 := octet '!'

/-- The octets of a text in ASCII. -/
def ofText (s : String) : Tag := s.toList.map octet

/-- The octets that count. -/
def beforeZero (t : Tag) : Tag := t.takeWhile (· ≠ 0)

/-- The octets form a text. -/
def isText (t : Tag) : Bool := (String.fromUTF8? ⟨t.toArray⟩).isSome

/-- An exclamation mark stands in front. -/
def isMarked (t : Tag) : Bool := t.head? == some mark

/-- A tag of one's own. -/
def isLocal (t : Tag) : Bool := t.isMarked && isText (t.drop 1)

/-- What the handle of two exclamation marks stands for. -/
def standardSchema : Tag := ofText "tag:yaml.org,2002:"

/-- A tag of the standard schema. -/
def standard (name : String) : Tag := standardSchema ++ ofText name

end Tag
end Scorecard.Yaml

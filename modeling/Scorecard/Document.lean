import Scorecard.Blank
import Scorecard.FourthCard
import Scorecard.ThirdCard

/-!
# Documents

A card together with the version that it was written in. The version is read from the field
`schemaVersion` of the tree; a tree whose version is absent or not supported is kept as it is.
Writing puts the version back, so that a written document reads back as itself.
-/

namespace Scorecard

/-- The two formats of document text. -/
inductive Format where
  | json
  | yaml
  deriving DecidableEq, Repr

def Format.name : Format → String
  | json => "json"
  | yaml => "yaml"

/-- Why a document could not be loaded. -/
inductive LoadError where
  | invalidVersion (text : String)
  | notAnObject
  | malformed (version : Version) (cause : Mismatch)
  | unreadable (format : Format)

/-- The wording of a load error. -/
def LoadError.message : LoadError → String
  | invalidVersion text => Version.invalidMessage text
  | notAnObject => "document is not a structured object"
  | malformed version cause => "malformed " ++ version.toText ++ " document: " ++ cause.message
  | unreadable format => format.name ++ " parse error"

/-- The version that a text denotes, or its refusal. -/
def Version.ofText (s : String) : Except LoadError Version :=
  match Version.parse? s with
  | some v => .ok v
  | none => .error (.invalidVersion s)

/-- A card with its version, or a tree of no supported version. -/
inductive Document where
  | v3_2 (card : Third.Card)
  | v3_3 (card : Third.Card)
  | v4_0 (card : Fourth.Card)
  | v4_1 (card : Fourth.Card)
  | v4_2 (card : Fourth.Card)
  | unknown (schemaVersion : Option String) (payload : Value)
  deriving BEq

namespace Document

/-- The field that holds the version. -/
def versionField : String := "schemaVersion"

def version? : Document → Option Version
  | v3_2 _ => some .v3_2
  | v3_3 _ => some .v3_3
  | v4_0 _ => some .v4_0
  | v4_1 _ => some .v4_1
  | v4_2 _ => some .v4_2
  | unknown _ _ => none

def family? (d : Document) : Option Family := d.version?.bind Version.family?

def isUnknown (d : Document) : Bool := d.version?.isNone

/-- The version as messages show it: of an unknown document the text it came with. -/
def label : Document → String
  | unknown schemaVersion _ => schemaVersion.getD "unknown"
  | d => (d.version?.map Version.toText).getD ""

def title? : Document → Option String
  | v3_2 c | v3_3 c => some c.title
  | v4_0 c | v4_1 c | v4_2 c => some c.title
  | unknown _ payload => (payload.get? "title").bind Value.asText?

def scenarioCount : Document → Nat
  | v3_2 c | v3_3 c => c.scenarios.length
  | v4_0 c | v4_1 c | v4_2 c => c.scenarios.length
  | unknown _ _ => 0

/-- The version of a tree as text: a text itself, a number as it is written. -/
def versionText? (v : Value) : Option String :=
  match v.get? versionField with
  | some (.text s) => some s
  | some (.number n) => some n.toText
  | _ => none

/-- The supported version that a text denotes, white space around it set aside. -/
def supportedVersion? (s : String) : Option Version :=
  (Version.parse? (trimmed s)).filter fun v => decide v.IsSupported

/-- A card of the third generation with its version. -/
def ofThird (version : Version) (card : Third.Card) : Document :=
  if version = .v3_2 then v3_2 card else v3_3 card

/-- A card of the fourth generation with its version. -/
def ofFourth (version : Version) (card : Fourth.Card) : Document :=
  if version = .v4_0 then v4_0 card else if version = .v4_1 then v4_1 card else v4_2 card

/-- The document of a supported version that a tree denotes. -/
def ofVersion (version : Version) (v : Value) : Except LoadError Document :=
  match version.family? with
  | some .third => ((Third.Card.reader v).mapError (.malformed version)).map (ofThird version)
  | some .fourth => ((Fourth.Card.reader v).mapError (.malformed version)).map (ofFourth version)
  | none => .error (.invalidVersion version.toText)

/-- The document that a tree denotes. -/
def ofValue (v : Value) : Except LoadError Document :=
  if v.isObject then
    match (versionText? v).bind supportedVersion? with
    | some version => ofVersion version v
    | none => .ok (unknown (versionText? v) v)
  else .error .notAnObject

/-- The tree of a card's entries together with its version. -/
def withVersion (version : Version) (entries : List (String × Value)) : Value :=
  (Value.object (entries ++ Value.entry versionField (.ofVersion version))).ordered

/-- The tree that a document is written as. Writing cannot fail, and a card always has room for its version: the
    keys of its entries are texts, and texts, lists and numbers have a tree whatever they are, a number that is not
    finite being written as null. So the body of a card is a tree, and it is an object. -/
def toValue : Document → Value
  | v3_2 c => withVersion .v3_2 c.entries
  | v3_3 c => withVersion .v3_3 c.entries
  | v4_0 c => withVersion .v4_0 c.entries
  | v4_1 c => withVersion .v4_1 c.entries
  | v4_2 c => withVersion .v4_2 c.entries
  | unknown _ payload => payload

end Document
end Scorecard

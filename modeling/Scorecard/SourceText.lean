import Scorecard.PathComparison
import Scorecard.Json.Reader
import Scorecard.Yaml.Reader

/-!
# Document text

A document arrives as JSON or YAML. Text of unknown format is tried as JSON first and as YAML if
that fails; if both fail the blame goes to the format that the text looks like.
-/

namespace Scorecard

/-- The format that a text looks like, by its first character that is no white space. -/
def Format.detect (text : String) : Format :=
  match trimFront text.toList with
  | '\x7b' :: _ => .json
  | '[' :: _ => .json
  | _ => .yaml

/-- The tree that a text of a format denotes. -/
def Format.read (format : Format) (text : String) : Except LoadError Value :=
  let tree := match format with
    | .json => Json.read? text
    | .yaml => Yaml.read? text
  match tree with
  | some v => .ok v
  | none => .error (.unreadable format)

/-- The tree that a text of unknown format denotes, and the format it was read in. -/
def readText (text : String) : Except LoadError (Format × Value) :=
  match Format.read .json text with
  | .ok v => .ok (.json, v)
  | .error jsonError =>
    match Format.read .yaml text with
    | .ok v => .ok (.yaml, v)
    | .error yamlError =>
      match Format.detect text with
      | .json => .error jsonError
      | .yaml => .error yamlError

namespace Document

/-- The document that a text of a format denotes. -/
def ofFormat (format : Format) (text : String) : Except LoadError Document := do
  ofValue (← format.read text)

/-- The document that a text of unknown format denotes. -/
def ofText (text : String) : Except LoadError Document := do
  ofValue (← readText text).2

end Document

namespace PathComparison

/-- The tree that one side of a comparison denotes. -/
def side (name text : String) : Except ComparisonError Value :=
  match readText text with
  | .ok (_, v) => .ok v
  | .error e => .error (.notComparable (name ++ ": " ++ e.message))

/-- Compares two texts of unknown format. -/
def ofTexts (base head : String) : Except ComparisonError PathComparison := do
  let base ← side "base" base
  let head ← side "head" head
  ofValues base head

end PathComparison
end Scorecard

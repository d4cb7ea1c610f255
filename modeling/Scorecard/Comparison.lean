import Scorecard.CardChanges
import Scorecard.Migration

/-!
# Comparing documents

The old document is migrated to the version of the updated one, never the other way round, and the
two cards are compared field by field. What the migration did is reported beside the changes.
-/

namespace Scorecard

/-- Why documents cannot be compared. -/
inductive ComparisonError where
  /-- one of the documents has no supported version -/
  | unsupported (updated old : String)
  /-- the old document cannot be brought to the version of the updated one -/
  | migration (refusal : Migration.Refusal)
  /-- one of the trees is no object, or its text could not be read -/
  | notComparable (reason : String)

/-- The wording of a comparison error. -/
def ComparisonError.message : ComparisonError → String
  | unsupported updated old =>
    "comparison not supported between " ++ updated ++ " and " ++ old ++ " documents"
  | migration refusal => "migration failed: " ++ refusal.message
  | notComparable reason => "documents are not comparable: " ++ reason

/-- The changes of a card of either generation. -/
inductive CardChanges where
  | third (change : Third.CardChanges)
  | fourth (change : Fourth.CardChanges)
  deriving BEq

namespace CardChanges

def toValue : CardChanges → Value
  | third change => change.toValue
  | fourth change => change.toValue

/-- How many scenarios have a marker with the one or the other property, by generation. -/
def countMarkers (third? : Marker Third.Scenario Third.ScenarioChanges → Bool)
    (fourth? : Marker Fourth.Scenario Fourth.ScenarioChanges → Bool) : CardChanges → Nat
  | third change => change.scenarios.countP third?
  | fourth change => change.scenarios.countP fourth?

def added (c : CardChanges) : Nat := c.countMarkers Marker.isAdded Marker.isAdded

def changed (c : CardChanges) : Nat :=
  c.countMarkers Marker.isContentChanged Marker.isContentChanged

def deleted (c : CardChanges) : Nat := c.countMarkers Marker.isDeleted Marker.isDeleted

end CardChanges

/-- The result of a comparison. -/
structure Comparison where
  version : Version
  change : CardChanges
  migration : Migration.Status
  deriving BEq

namespace Comparison

def toValue (c : Comparison) : Value :=
  .object (Value.entry "schemaVersion" (.ofVersion c.version) ++
    Value.entry "change" c.change.toValue ++
    Value.entry "migrationStatus" c.migration.toValue)

end Comparison

/-- The card of a document of the third generation. -/
def Document.thirdCard? : Document → Option Third.Card
  | .v3_2 c | .v3_3 c => some c
  | .v4_0 _ | .v4_1 _ | .v4_2 _ | .unknown _ _ => none

/-- The card of a document of the fourth generation. -/
def Document.fourthCard? : Document → Option Fourth.Card
  | .v4_0 c | .v4_1 c | .v4_2 c => some c
  | .v3_2 _ | .v3_3 _ | .unknown _ _ => none

/-- The changes from one document to another of the same generation. -/
def Document.changes? (updated old : Document) : Option CardChanges :=
  match updated with
  | .v3_2 c | .v3_3 c => old.thirdCard?.map fun o => .third (Third.Card.changes o c)
  | .v4_0 c | .v4_1 c | .v4_2 c => old.fourthCard?.map fun o => .fourth (Fourth.Card.changes o c)
  | .unknown _ _ => none

/-- Compares the updated document with the old one. -/
def compareDocuments (updated old : Document) (options : Migration.Options) :
    Except ComparisonError Comparison :=
  match updated.version?, old.version? with
  | some target, some _ =>
    match Migration.toVersion old target options with
    | .ok (migrated, status) =>
      match Document.changes? updated migrated with
      | some change => .ok ⟨target, change, status⟩
      | none => .error (.unsupported updated.label old.label)
    | .error refusal => .error (.migration refusal)
  | _, _ => .error (.unsupported updated.label old.label)

end Scorecard

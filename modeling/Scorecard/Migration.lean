import Scorecard.Document
import Scorecard.Generation
import Scorecard.Rescaling
import Scorecard.Stamping

/-!
# Migration

A document is migrated forward one step at a time until it reaches a supported target version.
Migrating to its own version leaves it alone, and there is no way back. The status of the run says
which steps were applied and what they did.
-/

namespace Scorecard.Migration

/-- What a migration has to know beyond the document. -/
structure Options where
  lastPublished : Option Timestamp
  deriving DecidableEq

namespace Options

/-- A card that was never published. -/
def none : Options := ⟨.none⟩

def parts : Part Options := Options.mk <$> .optional 0 "lastPublished" Reader.timestamp

def reader : Reader Options := Part.record "MigrationOptions" 1 parts

def toValue (o : Options) : Value :=
  .object (Value.entry "lastPublished" (Value.orNull .ofTimestamp o.lastPublished))

end Options

/-- Why a migration is refused. -/
inductive Refusal where
  /-- no way leads forward between the versions -/
  | unsupported (source target : Version)
  /-- the document has no supported version -/
  | unknownSource (found : String)
  /-- the target is no supported version -/
  | invalidTarget (target : String)
  deriving DecidableEq

/-- The wording of a refusal. -/
def Refusal.message : Refusal → String
  | unsupported source target =>
    "unsupported migration from " ++ source.toText ++ " to " ++ target.toText
  | unknownSource found =>
    "unsupported migration: source schema version " ++ quotation found ++ " is not supported"
  | invalidTarget target => "unsupported migration: invalid target version " ++ quotation target

/-- Every refusal says that the migration is unsupported. -/
def Refusal.isUnsupported : Refusal → Bool
  | unsupported _ _ => true
  | unknownSource _ => true
  | invalidTarget _ => true

/-- The step out of a document's version. No step leaves 4.2, and none starts at an unknown document;
    a refusal names the two ends of the run. -/
def nextStep (options : Options) (source target : Version) :
    Document → Except Refusal (Document × Report)
  | .v3_2 c => .ok (.v3_3 c, .unchanged)
  | .v3_3 c => .ok (.v4_0 (Generation.step c).1, (Generation.step c).2)
  | .v4_0 c => .ok (.v4_1 (Rescaling.step c).1, (Rescaling.step c).2)
  | .v4_1 c =>
    .ok (.v4_2 (Stamping.step options.lastPublished c).1, (Stamping.step options.lastPublished c).2)
  | .v4_2 _ => .error (.unsupported source target)
  | .unknown schemaVersion _ => .error (.unknownSource (schemaVersion.getD "unknown"))

/-- How many steps lead upward from a document. -/
def stepsLeft : Document → Nat
  | .v3_2 _ => 4
  | .v3_3 _ => 3
  | .v4_0 _ => 2
  | .v4_1 _ => 1
  | .v4_2 _ => 0
  | .unknown _ _ => 0

theorem stepsLeft_nextStep {options : Options} {source target : Version} {document reached : Document}
    {report : Report} (stepped : nextStep options source target document = .ok (reached, report)) :
    stepsLeft reached < stepsLeft document := by
  cases document with
  | v4_2 | unknown => cases stepped
  | v3_2 | v3_3 | v4_0 | v4_1 => cases stepped; exact Nat.lt_succ_self _

/-- Applies one step after the other while the document has a version other than the target. -/
def climb (options : Options) (source target : Version) (document : Document) (status : Status) :
    Except Refusal (Document × Status) :=
  match document.version? with
  | none => .ok (document, status)
  | some lower =>
    if lower = target then .ok (document, status)
    else
      match _stepped : nextStep options source target document with
      | .error refusal => .error refusal
      | .ok (reached, report) =>
        match reached.version? with
        | none => .error (.unsupported source target)
        | some upper => climb options source target reached (status.after ⟨lower, upper⟩ report)
termination_by stepsLeft document
decreasing_by exact stepsLeft_nextStep _stepped

/-- Migrates a document to a version. -/
def toVersion (document : Document) (target : Version) (options : Options) :
    Except Refusal (Document × Status) :=
  if target.IsSupported then
    match document.version? with
    | none => .error (.unknownSource document.label)
    | some source =>
      if source = target then .ok (document, .initial)
      else if target < source then .error (.unsupported source target)
      else
        (climb options source target document .initial).map fun r =>
          (r.1, { r.2 with span := some ⟨source, target⟩ })
  else .error (.invalidTarget target.toText)

/-- Migrates a document to the version that a text denotes. -/
def toNamedVersion (document : Document) (target : String) (options : Options) :
    Except Refusal (Document × Status) :=
  match (Version.parse? target).filter fun v => decide v.IsSupported with
  | some version => toVersion document version options
  | none => .error (.invalidTarget target)

end Scorecard.Migration

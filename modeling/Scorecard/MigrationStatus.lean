import Scorecard.Risk

/-!
# What a migration changed

Each step that alters a card leaves a log of the values it rewrote or dropped. A run folds the
reports of its steps into one status, which is stored beside the migrated card and read back.
-/

namespace Scorecard.Migration

/-- Two versions between which a step or a run leads. -/
structure Span where
  source : Version
  target : Version
  deriving DecidableEq

/-- A category of vulnerability that gave way to another. -/
structure Remap where
  oldValue : Third.Vulnerability
  newValue : Fourth.Vulnerability
  deriving DecidableEq

/-- An action that lost its owner or its deadline. -/
structure StrippedAction where
  id : String
  title : String
  removedOwner : Option String
  removedDeadline : Option String
  deriving DecidableEq

/-- What the change of generation did to one scenario. -/
structure ReshapedScenario where
  id : String
  title : String
  removedExistingActions : Option String
  changedVulnerabilities : List Remap
  changedActions : List StrippedAction
  deriving DecidableEq

/-- The log of the step from 3.3 to 4.0. -/
structure GenerationLog where
  scenarios : List ReshapedScenario
  deriving DecidableEq

/-- A number before and after a step. -/
structure Rescaled where
  oldValue : Binary64
  newValue : Binary64
  deriving BEq

/-- The numbers of one scenario that changed. -/
structure RescaledScenario where
  id : String
  title : String
  probability : Option Rescaled
  consequence : Option Rescaled
  remainingProbability : Option Rescaled
  remainingConsequence : Option Rescaled
  deriving BEq

/-- The log of the step from 4.0 to 4.1. -/
structure RescalingLog where
  scenarios : List RescaledScenario
  deriving BEq

/-- An action whose time of update was set. -/
structure StampedAction where
  id : String
  title : String
  lastUpdated : Option Timestamp
  deriving DecidableEq

/-- The actions of one scenario whose time of update was set. -/
structure StampedScenario where
  id : String
  title : String
  changedActions : List StampedAction
  deriving DecidableEq

/-- The log of the step from 4.1 to 4.2. -/
structure StampingLog where
  scenarios : List StampedScenario
  deriving DecidableEq

/-- Nothing of the scenario was rewritten or dropped. -/
def ReshapedScenario.isEmpty (s : ReshapedScenario) : Bool :=
  s.removedExistingActions.isNone && s.changedVulnerabilities.isEmpty && s.changedActions.isEmpty

/-- No number of the scenario changed. -/
def RescaledScenario.isEmpty (s : RescaledScenario) : Bool :=
  s.probability.isNone && s.consequence.isNone && s.remainingProbability.isNone &&
    s.remainingConsequence.isNone

/-- The log of one step. -/
inductive Log where
  | generation (log : GenerationLog)
  | rescaling (log : RescalingLog)
  | stamping (log : StampingLog)
  deriving BEq

/-- What a step reports. -/
structure Report where
  changes : Bool
  requiresNewApproval : Bool
  log : Option Log
  deriving BEq

/-- The report of a step that only raised the version. -/
def Report.unchanged : Report := ⟨false, false, none⟩

/-- What a run did. The span is absent if no step was applied. -/
structure Status where
  changes : Bool
  requiresNewApproval : Bool
  span : Option Span
  appliedSteps : List Span
  generation : Option GenerationLog
  rescaling : Option RescalingLog
  stamping : Option StampingLog
  deriving BEq

namespace Status

/-- The status of a run without steps. -/
def initial : Status := ⟨false, false, none, [], none, none, none⟩

/-- Nothing changed and nothing is logged. -/
def isEmpty (s : Status) : Bool :=
  !s.changes && !s.requiresNewApproval && s.generation.isNone && s.rescaling.isNone &&
    s.stamping.isNone

/-- Enters the log of a step under its kind. -/
def enter (s : Status) : Option Log → Status
  | some (.generation log) => { s with generation := some log }
  | some (.rescaling log) => { s with rescaling := some log }
  | some (.stamping log) => { s with stamping := some log }
  | none => s

/-- The status after one more step: a flag once set stays set. -/
def after (s : Status) (step : Span) (report : Report) : Status :=
  { s.enter report.log with
    changes := s.changes || report.changes
    requiresNewApproval := s.requiresNewApproval || report.requiresNewApproval
    appliedSteps := s.appliedSteps ++ [step] }

end Status

/-! ## Reading and writing -/

namespace Span

def parts : Part Span :=
  Span.mk <$> .required 0 "fromVersion" Reader.version
    <*> .required 1 "toVersion" Reader.version

def reader : Reader Span := Part.record "MigrationVersions" 2 parts

def toValue (s : Span) : Value :=
  .object (Value.entry "fromVersion" (.ofVersion s.source) ++
    Value.entry "toVersion" (.ofVersion s.target))

end Span

namespace Remap

def parts : Part Remap :=
  Remap.mk <$> .required 0 "oldValue" (Reader.member Third.Vulnerability)
    <*> .required 1 "newValue" (Reader.member Fourth.Vulnerability)

def reader : Reader Remap := Part.record "VulnerabilityRemap" 2 parts

def toValue (r : Remap) : Value :=
  .object (Value.entry "oldValue" (.ofMember r.oldValue) ++
    Value.entry "newValue" (.ofMember r.newValue))

end Remap

namespace StrippedAction

def parts : Part StrippedAction :=
  StrippedAction.mk <$> .required 0 "id" Reader.text
    <*> .required 1 "title" Reader.text
    <*> .optional 2 "removedOwner" Reader.text
    <*> .optional 3 "removedDeadline" Reader.text

def reader : Reader StrippedAction := Part.record "MigrationChange40Action" 4 parts

def toValue (a : StrippedAction) : Value :=
  .object (Value.entry "id" (.text a.id) ++
    Value.entry "title" (.text a.title) ++
    Value.entryIf "removedOwner" .text a.removedOwner ++
    Value.entryIf "removedDeadline" .text a.removedDeadline)

end StrippedAction

namespace ReshapedScenario

def parts : Part ReshapedScenario :=
  ReshapedScenario.mk <$> .required 0 "id" Reader.text
    <*> .required 1 "title" Reader.text
    <*> .optional 2 "removedExistingActions" Reader.text
    <*> .defaulted 3 "changedVulnerabilities" (Reader.list Remap.reader) []
    <*> .defaulted 4 "changedActions" (Reader.list StrippedAction.reader) []

def reader : Reader ReshapedScenario := Part.record "MigrationChange40Scenario" 5 parts

def toValue (s : ReshapedScenario) : Value :=
  .object (Value.entry "id" (.text s.id) ++
    Value.entry "title" (.text s.title) ++
    Value.entryIf "removedExistingActions" .text s.removedExistingActions ++
    Value.entryUnlessEmpty "changedVulnerabilities" (s.changedVulnerabilities.map Remap.toValue) ++
    Value.entryUnlessEmpty "changedActions" (s.changedActions.map StrippedAction.toValue))

end ReshapedScenario

namespace GenerationLog

def parts : Part GenerationLog :=
  GenerationLog.mk <$> .required 0 "scenarios" (Reader.list ReshapedScenario.reader)

def reader : Reader GenerationLog := Part.record "MigrationChange40" 1 parts

def toValue (l : GenerationLog) : Value :=
  .object (Value.entry "scenarios" (.list (l.scenarios.map ReshapedScenario.toValue)))

end GenerationLog

namespace Rescaled

def parts : Part Rescaled :=
  Rescaled.mk <$> .required 0 "oldValue" Reader.double
    <*> .required 1 "newValue" Reader.double

def reader : Reader Rescaled := Part.record "MigrationChangedValue" 2 parts

def toValue (r : Rescaled) : Value :=
  .object (Value.entry "oldValue" (.ofBinary64 r.oldValue) ++
    Value.entry "newValue" (.ofBinary64 r.newValue))

end Rescaled

namespace RescaledScenario

def parts : Part RescaledScenario :=
  RescaledScenario.mk <$> .required 0 "id" Reader.text
    <*> .required 1 "title" Reader.text
    <*> .optional 2 "changeProbability" Rescaled.reader
    <*> .optional 3 "changeConsequence" Rescaled.reader
    <*> .optional 4 "changeRemainingProbability" Rescaled.reader
    <*> .optional 5 "changeRemainingConsequence" Rescaled.reader

def reader : Reader RescaledScenario := Part.record "MigrationChange41Scenario" 6 parts

def toValue (s : RescaledScenario) : Value :=
  .object (Value.entry "id" (.text s.id) ++
    Value.entry "title" (.text s.title) ++
    Value.entryIf "changeProbability" Rescaled.toValue s.probability ++
    Value.entryIf "changeConsequence" Rescaled.toValue s.consequence ++
    Value.entryIf "changeRemainingProbability" Rescaled.toValue s.remainingProbability ++
    Value.entryIf "changeRemainingConsequence" Rescaled.toValue s.remainingConsequence)

end RescaledScenario

namespace RescalingLog

def parts : Part RescalingLog :=
  RescalingLog.mk <$> .required 0 "scenarios" (Reader.list RescaledScenario.reader)

def reader : Reader RescalingLog := Part.record "MigrationChange41" 1 parts

def toValue (l : RescalingLog) : Value :=
  .object (Value.entry "scenarios" (.list (l.scenarios.map RescaledScenario.toValue)))

end RescalingLog

namespace StampedAction

def parts : Part StampedAction :=
  StampedAction.mk <$> .required 0 "id" Reader.text
    <*> .required 1 "title" Reader.text
    <*> .optional 2 "lastUpdated" Reader.timestamp

def reader : Reader StampedAction := Part.record "MigrationChange42Action" 3 parts

def toValue (a : StampedAction) : Value :=
  .object (Value.entry "id" (.text a.id) ++
    Value.entry "title" (.text a.title) ++
    Value.entryIf "lastUpdated" .ofTimestamp a.lastUpdated)

end StampedAction

namespace StampedScenario

def parts : Part StampedScenario :=
  StampedScenario.mk <$> .required 0 "id" Reader.text
    <*> .required 1 "title" Reader.text
    <*> .required 2 "changedActions" (Reader.list StampedAction.reader)

def reader : Reader StampedScenario := Part.record "MigrationChange42Scenario" 3 parts

def toValue (s : StampedScenario) : Value :=
  .object (Value.entry "id" (.text s.id) ++
    Value.entry "title" (.text s.title) ++
    Value.entry "changedActions" (.list (s.changedActions.map StampedAction.toValue)))

end StampedScenario

namespace StampingLog

def parts : Part StampingLog :=
  StampingLog.mk <$> .required 0 "scenarios" (Reader.list StampedScenario.reader)

def reader : Reader StampingLog := Part.record "MigrationChange42" 1 parts

def toValue (l : StampingLog) : Value :=
  .object (Value.entry "scenarios" (.list (l.scenarios.map StampedScenario.toValue)))

end StampingLog

namespace Status

def parts : Part Status :=
  Status.mk <$> .required 0 "migrationChanges" Reader.boolean
    <*> .required 1 "migrationRequiresNewApproval" Reader.boolean
    <*> .optional 2 "migrationVersions" Span.reader
    <*> .defaulted 3 "appliedSteps" (Reader.list Span.reader) []
    <*> .optional 4 "migrationChange40" GenerationLog.reader
    <*> .optional 5 "migrationChange41" RescalingLog.reader
    <*> .optional 6 "migrationChange42" StampingLog.reader

def reader : Reader Status := Part.record "MigrationStatus" 7 parts

def toValue (s : Status) : Value :=
  .object (Value.entry "migrationChanges" (.bool s.changes) ++
    Value.entry "migrationRequiresNewApproval" (.bool s.requiresNewApproval) ++
    Value.entryIf "migrationVersions" Span.toValue s.span ++
    Value.entryUnlessEmpty "appliedSteps" (s.appliedSteps.map Span.toValue) ++
    Value.entryIf "migrationChange40" GenerationLog.toValue s.generation ++
    Value.entryIf "migrationChange41" RescalingLog.toValue s.rescaling ++
    Value.entryIf "migrationChange42" StampingLog.toValue s.stamping)

end Status

namespace Log

/-- The kind of step that keeps such a log. -/
def kind : Log → String
  | generation _ => "V40"
  | rescaling _ => "V41"
  | stamping _ => "V42"

def toValue : Log → Value
  | generation log => log.toValue
  | rescaling log => log.toValue
  | stamping log => log.toValue

end Log
end Scorecard.Migration

import Scorecard.Risk

/-!
# Cards of the third generation

The record of a scorecard in the versions 3.2 and 3.3.
-/

namespace Scorecard.Third

/-- A measure against a scenario. -/
structure Action where
  id : String
  title : String
  description : String
  url : Option String
  status : ActionStatus
  owner : Option String
  deadline : Option String
  deriving DecidableEq

/-- Something that might happen, and what is done about it. -/
structure Scenario where
  id : String
  title : String
  description : String
  url : Option String
  threatActors : List ThreatActor
  vulnerabilities : List Vulnerability
  risk : Risk
  remainingRisk : Risk
  existingActions : Option String
  actions : List Action
  deriving BEq

/-- A scorecard. -/
structure Card where
  title : String
  scope : String
  valuations : List Valuation
  scenarios : List Scenario
  deriving BEq

instance : HasId Action := ⟨Action.id⟩
instance : HasId Scenario := ⟨Scenario.id⟩

namespace Action

def parts : Part Action :=
  Action.mk <$> .required 0 "id" Reader.text
    <*> .required 1 "title" Reader.text
    <*> .defaulted 2 "description" Reader.text ""
    <*> .optional 3 "url" Reader.text
    <*> .required 4 "status" (Reader.member ActionStatus)
    <*> .optional 5 "owner" Reader.text
    <*> .optional 6 "deadline" Reader.text

def reader : Reader Action := Part.record "Action3X" 7 parts

def toValue (a : Action) : Value :=
  .object (Value.entry "id" (.text a.id) ++
    Value.entry "title" (.text a.title) ++
    Value.entry "description" (.text a.description) ++
    Value.entryIf "url" .text a.url ++
    Value.entry "status" (.ofMember a.status) ++
    Value.entryIf "owner" .text a.owner ++
    Value.entryIf "deadline" .text a.deadline)

end Action

namespace Scenario

def parts : Part Scenario :=
  Scenario.mk <$> .required 0 "id" Reader.text
    <*> .required 1 "title" Reader.text
    <*> .defaulted 2 "description" Reader.text ""
    <*> .optional 3 "url" Reader.text
    <*> .defaulted 4 "threatActors" (Reader.list (Reader.member ThreatActor)) []
    <*> .defaulted 5 "vulnerabilities" (Reader.list (Reader.member Vulnerability)) []
    <*> .required 6 "risk" Risk.reader
    <*> .required 7 "remainingRisk" Risk.reader
    <*> .optional 8 "existingActions" Reader.text
    <*> .defaulted 9 "actions" (Reader.list Action.reader) []

def reader : Reader Scenario := Part.record "Scenario3X" 10 parts

def toValue (s : Scenario) : Value :=
  .object (Value.entry "id" (.text s.id) ++
    Value.entry "title" (.text s.title) ++
    Value.entry "description" (.text s.description) ++
    Value.entryIf "url" .text s.url ++
    Value.entry "threatActors" (.list (s.threatActors.map .ofMember)) ++
    Value.entry "vulnerabilities" (.list (s.vulnerabilities.map .ofMember)) ++
    Value.entry "risk" s.risk.toValue ++
    Value.entry "remainingRisk" s.remainingRisk.toValue ++
    Value.entryIf "existingActions" .text s.existingActions ++
    Value.entry "actions" (.list (s.actions.map Action.toValue)))

end Scenario

namespace Card

def parts : Part Card :=
  Card.mk <$> .required 0 "title" Reader.text
    <*> .defaulted 1 "scope" Reader.text ""
    <*> .defaulted 2 "valuations" (Reader.list Valuation.reader) []
    <*> .defaulted 3 "scenarios" (Reader.list Scenario.reader) []

def reader : Reader Card := Part.record "Document3X" 4 parts

/-- The entries of the written record, in the order of its fields. -/
def entries (c : Card) : List (String × Value) :=
  Value.entry "title" (.text c.title) ++
    Value.entry "scope" (.text c.scope) ++
    Value.entry "valuations" (.list (c.valuations.map Valuation.toValue)) ++
    Value.entry "scenarios" (.list (c.scenarios.map Scenario.toValue))

end Card
end Scorecard.Third

import Scorecard.Risk

/-!
# Cards of the fourth generation

The record of a scorecard in the versions 4.0, 4.1 and 4.2.
-/

namespace Scorecard.Fourth

/-- A measure against a scenario. -/
structure Action where
  id : String
  title : String
  description : String
  url : Option String
  status : ActionStatus
  lastUpdated : Option Timestamp
  deriving DecidableEq

/-- Something that might happen, and what is done about it. -/
structure Scenario where
  id : String
  title : String
  description : String
  url : Option String
  threatActors : List ThreatActor
  vulnerabilities : List Vulnerability
  risk : Risk
  remainingRisk : Risk
  actions : List Action
  deriving BEq

/-- A scorecard. -/
structure Card where
  title : String
  scope : Option String
  valuations : List Valuation
  scenarios : List Scenario
  deriving BEq

instance : HasId Action := ⟨Action.id⟩
instance : HasId Scenario := ⟨Scenario.id⟩

namespace Action

def parts : Part Action :=
  Action.mk <$> .required 0 "id" Reader.text
    <*> .required 1 "title" Reader.text
    <*> .defaulted 2 "description" Reader.text ""
    <*> .optional 3 "url" Reader.text
    <*> .required 4 "status" (Reader.member ActionStatus)
    <*> .optional 5 "lastUpdated" Reader.timestamp

def reader : Reader Action := Part.record "Action4X" 6 parts

def toValue (a : Action) : Value :=
  .object (Value.entry "id" (.text a.id) ++
    Value.entry "title" (.text a.title) ++
    Value.entry "description" (.text a.description) ++
    Value.entryIf "url" .text a.url ++
    Value.entry "status" (.ofMember a.status) ++
    Value.entryIf "lastUpdated" .ofTimestamp a.lastUpdated)

end Action

namespace Scenario

def parts : Part Scenario :=
  Scenario.mk <$> .required 0 "id" Reader.text
    <*> .required 1 "title" Reader.text
    <*> .defaulted 2 "description" Reader.text ""
    <*> .optional 3 "url" Reader.text
    <*> .defaulted 4 "threatActors" (Reader.list (Reader.member ThreatActor)) []
    <*> .defaulted 5 "vulnerabilities" (Reader.list (Reader.member Vulnerability)) []
    <*> .required 6 "risk" Risk.reader
    <*> .required 7 "remainingRisk" Risk.reader
    <*> .defaulted 8 "actions" (Reader.list Action.reader) []

def reader : Reader Scenario := Part.record "Scenario4X" 9 parts

def toValue (s : Scenario) : Value :=
  .object (Value.entry "id" (.text s.id) ++
    Value.entry "title" (.text s.title) ++
    Value.entry "description" (.text s.description) ++
    Value.entryIf "url" .text s.url ++
    Value.entry "threatActors" (.list (s.threatActors.map .ofMember)) ++
    Value.entry "vulnerabilities" (.list (s.vulnerabilities.map .ofMember)) ++
    Value.entry "risk" s.risk.toValue ++
    Value.entry "remainingRisk" s.remainingRisk.toValue ++
    Value.entry "actions" (.list (s.actions.map Action.toValue)))

end Scenario

namespace Card

def parts : Part Card :=
  Card.mk <$> .required 0 "title" Reader.text
    <*> .optional 1 "scope" Reader.text
    <*> .defaulted 2 "valuations" (Reader.list Valuation.reader) []
    <*> .defaulted 3 "scenarios" (Reader.list Scenario.reader) []

def reader : Reader Card := Part.record "Document4X" 4 parts

/-- The entries of the written record, in the order of its fields. -/
def entries (c : Card) : List (String × Value) :=
  Value.entry "title" (.text c.title) ++
    Value.entryIf "scope" .text c.scope ++
    Value.entry "valuations" (.list (c.valuations.map Valuation.toValue)) ++
    Value.entry "scenarios" (.list (c.scenarios.map Scenario.toValue))

end Card
end Scorecard.Fourth

import Scorecard.FourthCard
import Scorecard.Marker
import Scorecard.ThirdCard

/-!
# Changes of cards

The field by field comparison of two cards of one generation. In the third generation every plain
field is reported, changed or not; in the fourth only those that changed.
-/

namespace Scorecard

/-- The written form of a list of markers of plain values. -/
def plainMarkersValue {α : Type} (write : α → Value) (ms : List (PlainMarker α)) : Value :=
  .list (ms.map (PlainMarker.toValue write))

/-- The written form of a list of markers of identified members. -/
def memberMarkersValue {α γ : Type} (write : α → Value) (writeNested : γ → Value)
    (ms : List (Marker α γ)) : Value :=
  .list (ms.map (Marker.toValue write writeNested))

/-- A timestamp or null. -/
def optionalTimestamp (t : Option Timestamp) : Value := Value.orNull .ofTimestamp t

namespace Third

/-- Plain fields are always reported. -/
def emission : Emission := .always

/-- The changes of an action. -/
structure ActionChanges where
  id : String
  title : Option (PlainMarker String)
  description : Option (PlainMarker String)
  url : Option (PlainMarker (Option String))
  status : Option (PlainMarker ActionStatus)
  owner : Option (PlainMarker (Option String))
  deadline : Option (PlainMarker (Option String))
  deriving BEq, ReflBEq, LawfulBEq

/-- The changes of a scenario. -/
structure ScenarioChanges where
  id : String
  title : Option (PlainMarker String)
  description : Option (PlainMarker String)
  url : Option (PlainMarker (Option String))
  threatActors : List (PlainMarker ThreatActor)
  vulnerabilities : List (PlainMarker Vulnerability)
  risk : Marker Risk RiskChanges
  remainingRisk : Marker Risk RiskChanges
  existingActions : Option (PlainMarker (Option String))
  actions : List (Marker Action ActionChanges)
  deriving BEq

/-- The changes of a card. -/
structure CardChanges where
  title : Option (PlainMarker String)
  scope : Option (PlainMarker String)
  valuations : List (PlainMarker Valuation)
  scenarios : List (Marker Scenario ScenarioChanges)
  deriving BEq

instance : HasId ActionChanges := ⟨ActionChanges.id⟩
instance : HasId ScenarioChanges := ⟨ScenarioChanges.id⟩

def Action.changes (old new : Action) : ActionChanges where
  id := new.id
  title := emission.marker? old.title new.title
  description := emission.marker? old.description new.description
  url := emission.marker? old.url new.url
  status := emission.marker? old.status new.status
  owner := emission.marker? old.owner new.owner
  deadline := emission.marker? old.deadline new.deadline

def Scenario.changes (old new : Scenario) : ScenarioChanges where
  id := new.id
  title := emission.marker? old.title new.title
  description := emission.marker? old.description new.description
  url := emission.marker? old.url new.url
  threatActors := valueMarkers old.threatActors new.threatActors
  vulnerabilities := valueMarkers old.vulnerabilities new.vulnerabilities
  risk := old.risk.marker new.risk
  remainingRisk := old.remainingRisk.marker new.remainingRisk
  existingActions := emission.marker? old.existingActions new.existingActions
  actions := memberMarkers old.actions new.actions Action.changes

def Card.changes (old new : Card) : CardChanges where
  title := emission.marker? old.title new.title
  scope := emission.marker? old.scope new.scope
  valuations := valueMarkers old.valuations new.valuations
  scenarios := memberMarkers old.scenarios new.scenarios Scenario.changes

/-- A field that stands even where it is left out, as null. -/
def entryOf {α : Type} (key : String) (write : α → Value) (m : Option (PlainMarker α)) :
    List (String × Value) :=
  Value.entry key (Value.orNull (PlainMarker.toValue write) m)

def ActionChanges.toValue (c : ActionChanges) : Value :=
  .object (Value.entry "id" (.text c.id) ++
    entryOf "title" .text c.title ++
    entryOf "description" .text c.description ++
    entryOf "url" optionalText c.url ++
    entryOf "status" .ofMember c.status ++
    entryOf "owner" optionalText c.owner ++
    entryOf "deadline" optionalText c.deadline)

def ScenarioChanges.toValue (c : ScenarioChanges) : Value :=
  .object (Value.entry "id" (.text c.id) ++
    entryOf "title" .text c.title ++
    entryOf "description" .text c.description ++
    entryOf "url" optionalText c.url ++
    Value.entry "threatActors" (plainMarkersValue .ofMember c.threatActors) ++
    Value.entry "vulnerabilities" (plainMarkersValue .ofMember c.vulnerabilities) ++
    Value.entry "risk" (riskMarkerValue c.risk) ++
    Value.entry "remainingRisk" (riskMarkerValue c.remainingRisk) ++
    entryOf "existingActions" optionalText c.existingActions ++
    Value.entry "actions" (memberMarkersValue Action.toValue ActionChanges.toValue c.actions))

def CardChanges.toValue (c : CardChanges) : Value :=
  .object (entryOf "title" .text c.title ++
    entryOf "scope" .text c.scope ++
    Value.entry "valuations" (plainMarkersValue Valuation.toValue c.valuations) ++
    Value.entry "scenarios"
      (memberMarkersValue Scenario.toValue ScenarioChanges.toValue c.scenarios))

end Third

namespace Fourth

/-- Unchanged plain fields are left out. -/
def emission : Emission := .omitUnchanged

/-- The changes of an action. -/
structure ActionChanges where
  id : String
  title : Option (PlainMarker String)
  description : Option (PlainMarker String)
  url : Option (PlainMarker (Option String))
  status : Option (PlainMarker ActionStatus)
  lastUpdated : Option (PlainMarker (Option Timestamp))
  deriving BEq, ReflBEq, LawfulBEq

/-- The changes of a scenario. -/
structure ScenarioChanges where
  id : String
  title : Option (PlainMarker String)
  description : Option (PlainMarker String)
  url : Option (PlainMarker (Option String))
  threatActors : List (PlainMarker ThreatActor)
  vulnerabilities : List (PlainMarker Vulnerability)
  risk : Marker Risk RiskChanges
  remainingRisk : Marker Risk RiskChanges
  actions : List (Marker Action ActionChanges)
  deriving BEq

/-- The changes of a card. -/
structure CardChanges where
  title : Option (PlainMarker String)
  scope : Option (PlainMarker (Option String))
  valuations : List (PlainMarker Valuation)
  scenarios : List (Marker Scenario ScenarioChanges)
  deriving BEq

instance : HasId ActionChanges := ⟨ActionChanges.id⟩
instance : HasId ScenarioChanges := ⟨ScenarioChanges.id⟩

def Action.changes (old new : Action) : ActionChanges where
  id := new.id
  title := emission.marker? old.title new.title
  description := emission.marker? old.description new.description
  url := emission.marker? old.url new.url
  status := emission.marker? old.status new.status
  lastUpdated := emission.marker? old.lastUpdated new.lastUpdated

def Scenario.changes (old new : Scenario) : ScenarioChanges where
  id := new.id
  title := emission.marker? old.title new.title
  description := emission.marker? old.description new.description
  url := emission.marker? old.url new.url
  threatActors := valueMarkers old.threatActors new.threatActors
  vulnerabilities := valueMarkers old.vulnerabilities new.vulnerabilities
  risk := old.risk.marker new.risk
  remainingRisk := old.remainingRisk.marker new.remainingRisk
  actions := memberMarkers old.actions new.actions Action.changes

def Card.changes (old new : Card) : CardChanges where
  title := emission.marker? old.title new.title
  scope := emission.marker? old.scope new.scope
  valuations := valueMarkers old.valuations new.valuations
  scenarios := memberMarkers old.scenarios new.scenarios Scenario.changes

/-- A field that is written only if it is reported. -/
def entryOf {α : Type} (key : String) (write : α → Value) (m : Option (PlainMarker α)) :
    List (String × Value) :=
  Value.entryIf key (PlainMarker.toValue write) m

def ActionChanges.toValue (c : ActionChanges) : Value :=
  .object (Value.entry "id" (.text c.id) ++
    entryOf "title" .text c.title ++
    entryOf "description" .text c.description ++
    entryOf "url" optionalText c.url ++
    entryOf "status" .ofMember c.status ++
    entryOf "lastUpdated" optionalTimestamp c.lastUpdated)

def ScenarioChanges.toValue (c : ScenarioChanges) : Value :=
  .object (Value.entry "id" (.text c.id) ++
    entryOf "title" .text c.title ++
    entryOf "description" .text c.description ++
    entryOf "url" optionalText c.url ++
    Value.entry "threatActors" (plainMarkersValue .ofMember c.threatActors) ++
    Value.entry "vulnerabilities" (plainMarkersValue .ofMember c.vulnerabilities) ++
    Value.entry "risk" (riskMarkerValue c.risk) ++
    Value.entry "remainingRisk" (riskMarkerValue c.remainingRisk) ++
    Value.entry "actions" (memberMarkersValue Action.toValue ActionChanges.toValue c.actions))

def CardChanges.toValue (c : CardChanges) : Value :=
  .object (entryOf "title" .text c.title ++
    entryOf "scope" optionalText c.scope ++
    Value.entry "valuations" (plainMarkersValue Valuation.toValue c.valuations) ++
    Value.entry "scenarios"
      (memberMarkersValue Scenario.toValue ScenarioChanges.toValue c.scenarios))

end Fourth
end Scorecard

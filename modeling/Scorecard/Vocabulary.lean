import Scorecard.Version

/-!
# Closed vocabularies

Threat actors and action states are shared by all versions; the categories of vulnerability were
redrawn in 4.0, so each family has its own. Every value is stored under its name, and the order of
declaration is the order of the vocabulary.
-/

namespace Scorecard

/-- A closed list of values, each with a name of its own. -/
class Vocabulary (α : Type) where
  members : List α
  name : α → String
  mem_members : ∀ a, a ∈ members
  name_injective : ∀ a b, name a = name b → a = b

namespace Vocabulary

variable {α : Type} [Vocabulary α]

/-- The value with a name. -/
def ofName? (s : String) : Option α := (members (α := α)).find? fun a => name a == s

theorem ofName?_name (a : α) : ofName? (name a) = some a := by
  unfold ofName?
  cases h : (members (α := α)).find? fun b => name b == name a with
  | none =>
    have := List.find?_eq_none.1 h a (mem_members a)
    simp at this
  | some b =>
    have := List.find?_some h
    simp only [beq_iff_eq] at this
    rw [name_injective b a this]

/-- The names in order. -/
def names (α : Type) [Vocabulary α] : List String := (members (α := α)).map name

end Vocabulary

instance : Vocabulary Family where
  members := Family.all
  name := Family.name
  mem_members a := by cases a <;> decide
  name_injective a b := by cases a <;> cases b <;> decide

/-- Who might bring a scenario about. -/
inductive ThreatActor where
  | scriptKiddie
  | hacktivist
  | recklessEmployee
  | insider
  | organisedCrime
  | terroristOrganisation
  | nationOrGovernment
  deriving DecidableEq, Repr

namespace ThreatActor

def all : List ThreatActor :=
  [scriptKiddie, hacktivist, recklessEmployee, insider, organisedCrime, terroristOrganisation,
    nationOrGovernment]

def name : ThreatActor → String
  | scriptKiddie => "SCRIPT_KIDDIE"
  | hacktivist => "HACKTIVIST"
  | recklessEmployee => "RECKLESS_EMPLOYEE"
  | insider => "INSIDER"
  | organisedCrime => "ORGANISED_CRIME"
  | terroristOrganisation => "TERRORIST_ORGANISATION"
  | nationOrGovernment => "NATION_OR_GOVERNMENT"

end ThreatActor

instance : Vocabulary ThreatActor where
  members := ThreatActor.all
  name := ThreatActor.name
  mem_members a := by cases a <;> decide
  name_injective a b := by cases a <;> cases b <;> decide

/-- How far an action has come. -/
inductive ActionStatus where
  | notStarted
  | inProgress
  | onHold
  | completed
  | aborted
  deriving DecidableEq, Repr

namespace ActionStatus

def all : List ActionStatus := [notStarted, inProgress, onHold, completed, aborted]

def name : ActionStatus → String
  | notStarted => "NOT_STARTED"
  | inProgress => "IN_PROGRESS"
  | onHold => "ON_HOLD"
  | completed => "COMPLETED"
  | aborted => "ABORTED"

end ActionStatus

instance : Vocabulary ActionStatus where
  members := ActionStatus.all
  name := ActionStatus.name
  mem_members a := by cases a <;> decide
  name_injective a b := by cases a <;> cases b <;> decide

namespace Third

/-- The categories of vulnerability up to 3.3. -/
inductive Vulnerability where
  | compromisedAdminUser
  | dependencyVulnerability
  | disclosedSecret
  | misconfiguration
  | inputTampering
  | userRepudiation
  | informationLeak
  | denialOfService
  | escalationOfRights
  deriving DecidableEq, Repr

namespace Vulnerability

def all : List Vulnerability :=
  [compromisedAdminUser, dependencyVulnerability, disclosedSecret, misconfiguration, inputTampering,
    userRepudiation, informationLeak, denialOfService, escalationOfRights]

def name : Vulnerability → String
  | compromisedAdminUser => "COMPROMISED_ADMIN_USER"
  | dependencyVulnerability => "DEPENDENCY_VULNERABILITY"
  | disclosedSecret => "DISCLOSED_SECRET"
  | misconfiguration => "MISCONFIGURATION"
  | inputTampering => "INPUT_TAMPERING"
  | userRepudiation => "USER_REPUDIATION"
  | informationLeak => "INFORMATION_LEAK"
  | denialOfService => "DENIAL_OF_SERVICE"
  | escalationOfRights => "ESCALATION_OF_RIGHTS"

end Vulnerability
end Third

instance : Vocabulary Third.Vulnerability where
  members := Third.Vulnerability.all
  name := Third.Vulnerability.name
  mem_members a := by cases a <;> decide
  name_injective a b := by cases a <;> cases b <;> decide

namespace Fourth

/-- The categories of vulnerability from 4.0 on. -/
inductive Vulnerability where
  | flawedDesign
  | misconfiguration
  | dependencyVulnerability
  | unauthorizedAccess
  | unmonitoredUse
  | inputTampering
  | informationLeak
  | excessiveUse
  deriving DecidableEq, Repr

namespace Vulnerability

def all : List Vulnerability :=
  [flawedDesign, misconfiguration, dependencyVulnerability, unauthorizedAccess, unmonitoredUse,
    inputTampering, informationLeak, excessiveUse]

def name : Vulnerability → String
  | flawedDesign => "FLAWED_DESIGN"
  | misconfiguration => "MISCONFIGURATION"
  | dependencyVulnerability => "DEPENDENCY_VULNERABILITY"
  | unauthorizedAccess => "UNAUTHORIZED_ACCESS"
  | unmonitoredUse => "UNMONITORED_USE"
  | inputTampering => "INPUT_TAMPERING"
  | informationLeak => "INFORMATION_LEAK"
  | excessiveUse => "EXCESSIVE_USE"

end Vulnerability
end Fourth

instance : Vocabulary Fourth.Vulnerability where
  members := Fourth.Vulnerability.all
  name := Fourth.Vulnerability.name
  mem_members a := by cases a <;> decide
  name_injective a b := by cases a <;> cases b <;> decide

namespace Vocabulary

/-- How far down the vocabulary a value stands. -/
def position {α : Type} [Vocabulary α] (a : α) : Nat :=
  (members (α := α)).findIdx fun b => name b == name a

end Vocabulary
end Scorecard

import Scorecard.FourthCard
import Scorecard.MigrationStatus
import Scorecard.ThirdCard

/-!
# From 3.3 to 4.0

The change of generation. Vulnerabilities move to the new categories, of equal ones the first
stays; the existing actions of a scenario and the owner and deadline of an action are dropped. What
was renamed, and every dropped text that was not empty, goes into the log. The step always asks
for a new approval.
-/

namespace Scorecard

/-- The new category of a vulnerability. -/
def Third.Vulnerability.remapped : Third.Vulnerability → Fourth.Vulnerability
  | .userRepudiation => .unmonitoredUse
  | .compromisedAdminUser => .unauthorizedAccess
  | .escalationOfRights => .unauthorizedAccess
  | .disclosedSecret => .informationLeak
  | .denialOfService => .excessiveUse
  | .dependencyVulnerability => .dependencyVulnerability
  | .misconfiguration => .misconfiguration
  | .inputTampering => .inputTampering
  | .informationLeak => .informationLeak

/-- The new category has another name. -/
def Third.Vulnerability.isRenamed : Third.Vulnerability → Bool
  | .userRepudiation | .compromisedAdminUser | .escalationOfRights | .disclosedSecret
  | .denialOfService => true
  | .dependencyVulnerability | .misconfiguration | .inputTampering | .informationLeak => false

/-- A text that is there and not empty. -/
def nonEmpty? (s : Option String) : Option String := s.filter fun t => decide (t ≠ "")

namespace Generation

open Migration

/-- The vulnerabilities of a scenario on their way to the new categories: the new list and the
    renamed values so far. -/
structure Remapping where
  vulnerabilities : List Fourth.Vulnerability
  renamed : List Remap

/-- Moves one more value. Every renamed occurrence is noted, but a category that is in the new list
    already is not entered again. -/
def Remapping.enter (r : Remapping) (v : Third.Vulnerability) : Remapping where
  vulnerabilities :=
    if r.vulnerabilities.contains v.remapped then r.vulnerabilities
    else r.vulnerabilities ++ [v.remapped]
  renamed := if v.isRenamed then r.renamed ++ [⟨v, v.remapped⟩] else r.renamed

/-- Moves all values in order. -/
def remapping (vulnerabilities : List Third.Vulnerability) : Remapping :=
  vulnerabilities.foldl Remapping.enter ⟨[], []⟩

/-- Entering one more category keeps the first occurrence of each. -/
theorem enter_vulnerabilities {r : Remapping} {seen : List Fourth.Vulnerability}
    (invariant : r.vulnerabilities = seen.eraseDups) (v : Third.Vulnerability) :
    (r.enter v).vulnerabilities = (seen ++ [v.remapped]).eraseDups := by
  rw [List.eraseDups_append, ← invariant]
  by_cases known : v.remapped ∈ seen
  · have listed : v.remapped ∈ r.vulnerabilities := by rw [invariant, List.mem_eraseDups]; exact known
    simp [Remapping.enter, List.removeAll, known, listed]
  · have fresh : v.remapped ∉ r.vulnerabilities := by rw [invariant, List.mem_eraseDups]; exact known
    simp [Remapping.enter, List.removeAll, known, fresh, List.eraseDups_cons]

/-- The new list has the categories of the old values, each where it occurs first. -/
theorem remapping_vulnerabilities (vulnerabilities : List Third.Vulnerability) :
    (remapping vulnerabilities).vulnerabilities =
      (vulnerabilities.map Third.Vulnerability.remapped).eraseDups := by
  have general : ∀ (rest : List Third.Vulnerability) (r : Remapping) (seen : List Fourth.Vulnerability),
      r.vulnerabilities = seen.eraseDups → (rest.foldl Remapping.enter r).vulnerabilities =
        (seen ++ rest.map Third.Vulnerability.remapped).eraseDups := by
    intro rest
    induction rest with
    | nil => intro r seen invariant; simpa using invariant
    | cons v rest ih =>
      intro r seen invariant
      have entered := ih (r.enter v) (seen ++ [v.remapped]) (enter_vulnerabilities invariant v)
      simpa using entered
  exact general vulnerabilities ⟨[], []⟩ [] rfl

/-- The action in the new shape. -/
def action (a : Third.Action) : Fourth.Action where
  id := a.id
  title := a.title
  description := a.description
  url := a.url
  status := a.status
  lastUpdated := none

/-- What the action lost, if it lost anything. -/
def stripped? (a : Third.Action) : Option StrippedAction :=
  let owner := nonEmpty? a.owner
  let deadline := nonEmpty? a.deadline
  if owner.isSome || deadline.isSome then some ⟨a.id, a.title, owner, deadline⟩ else none

/-- The scenario in the new shape. -/
def scenario (s : Third.Scenario) : Fourth.Scenario where
  id := s.id
  title := s.title
  description := s.description
  url := s.url
  threatActors := s.threatActors
  vulnerabilities := (remapping s.vulnerabilities).vulnerabilities
  risk := s.risk
  remainingRisk := s.remainingRisk
  actions := s.actions.map action

/-- What the scenario lost or had renamed. -/
def reshaped (s : Third.Scenario) : ReshapedScenario where
  id := s.id
  title := s.title
  removedExistingActions := nonEmpty? s.existingActions
  changedVulnerabilities := (remapping s.vulnerabilities).renamed
  changedActions := s.actions.filterMap stripped?

/-- The card in the new shape; an empty scope is left out. -/
def card (c : Third.Card) : Fourth.Card where
  title := c.title
  scope := nonEmpty? (some c.scope)
  valuations := c.valuations
  scenarios := c.scenarios.map scenario

/-- The scenarios that lost something or had something renamed. -/
def log (c : Third.Card) : List ReshapedScenario :=
  (c.scenarios.map reshaped).filter fun s => !s.isEmpty

def report (c : Third.Card) : Report where
  changes := true
  requiresNewApproval := true
  log := if (log c).isEmpty then none else some (.generation ⟨log c⟩)

/-- The step from 3.3 to 4.0. -/
def step (c : Third.Card) : Fourth.Card × Report := (card c, report c)

end Generation
end Scorecard

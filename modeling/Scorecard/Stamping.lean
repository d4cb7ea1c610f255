import Scorecard.FourthCard
import Scorecard.MigrationStatus

/-!
# From 4.1 to 4.2

Every action is stamped with the time at which the card was last published, or loses its stamp if
the card never was. The step logs the actions whose stamp differs from before; it never asks for a
new approval.
-/

namespace Scorecard.Stamping

open Migration

/-- The action's stamp changes. -/
def isStamped (published : Option Timestamp) (a : Fourth.Action) : Bool :=
  decide (a.lastUpdated ≠ published)

/-- The action with the stamp. -/
def action (published : Option Timestamp) (a : Fourth.Action) : Fourth.Action :=
  if isStamped published a then { a with lastUpdated := published } else a

/-- The scenario with its actions stamped. -/
def scenario (published : Option Timestamp) (s : Fourth.Scenario) : Fourth.Scenario :=
  { s with actions := s.actions.map (action published) }

/-- The actions of the scenario whose stamp changes. -/
def stampedActions (published : Option Timestamp) (s : Fourth.Scenario) : List StampedAction :=
  (s.actions.filter (isStamped published)).map fun a => ⟨a.id, a.title, published⟩

/-- The scenario's entry in the log, if a stamp changes. -/
def stamped? (published : Option Timestamp) (s : Fourth.Scenario) : Option StampedScenario :=
  match stampedActions published s with
  | [] => none
  | actions => some ⟨s.id, s.title, actions⟩

/-- The card with all actions stamped. -/
def card (published : Option Timestamp) (c : Fourth.Card) : Fourth.Card :=
  { c with scenarios := c.scenarios.map (scenario published) }

/-- The scenarios with an action whose stamp changes. -/
def log (published : Option Timestamp) (c : Fourth.Card) : List StampedScenario :=
  c.scenarios.filterMap (stamped? published)

def report (published : Option Timestamp) (c : Fourth.Card) : Report where
  changes := !(log published c).isEmpty
  requiresNewApproval := false
  log := if (log published c).isEmpty then none else some (.stamping ⟨log published c⟩)

/-- The step from 4.1 to 4.2. -/
def step (published : Option Timestamp) (c : Fourth.Card) : Fourth.Card × Report :=
  (card published c, report published c)

end Scorecard.Stamping

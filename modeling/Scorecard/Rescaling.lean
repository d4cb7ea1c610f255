import Scorecard.FourthCard
import Scorecard.MigrationStatus

/-!
# From 4.0 to 4.1

The scales of probability and consequence were redrawn. A number that is a preset of the old scale
becomes the preset of the new one, any other number stays. The step logs the numbers that changed
and asks for a new approval if there are any.
-/

namespace Scorecard.Rescaling

open Migration

/-- The double nearest to `digits · 10 ^ scale`. -/
def preset (digits : Nat) (scale : Int) : Binary64 := Binary64.nearest false digits scale

/-- The presets of the probability, occurrences a year, with their replacements. -/
def probabilityPresets : List (Binary64 × Binary64) :=
  [(preset 1 (-2), preset 25 (-4)),
    (preset 1 (-1), preset 5 (-2)),
    (preset 1 0, preset 1 0),
    (preset 50 0, preset 20 0),
    (preset 300 0, preset 400 0)]

/-- The presets of the consequence, an amount of money, with their replacements. -/
def consequencePresets : List (Binary64 × Binary64) :=
  [(preset 1000 0, preset 8000 0),
    (preset 30000 0, preset 160000 0),
    (preset 1000000 0, preset 3200000 0),
    (preset 30000000 0, preset 64000000 0),
    (preset 1000000000 0, preset 1280000000 0)]

/-- The replacement of a preset; any other number stays. -/
def replacement (presets : List (Binary64 × Binary64)) (x : Binary64) : Binary64 :=
  match presets.find? fun p => p.1 == x with
  | some p => p.2
  | none => x

def probability (x : Binary64) : Binary64 := replacement probabilityPresets x

def consequence (x : Binary64) : Binary64 := replacement consequencePresets x

/-- The estimate on the new scales. -/
def risk (r : Risk) : Risk where
  summary := r.summary
  probability := probability r.probability
  consequence := consequence r.consequence

/-- The two numbers, if they differ. -/
def changed? (old new : Binary64) : Option Rescaled :=
  if old == new then none else some ⟨old, new⟩

/-- The scenario on the new scales. -/
def scenario (s : Fourth.Scenario) : Fourth.Scenario :=
  { s with risk := risk s.risk, remainingRisk := risk s.remainingRisk }

/-- The numbers of the scenario that change. -/
def rescaled (s : Fourth.Scenario) : RescaledScenario where
  id := s.id
  title := s.title
  probability := changed? s.risk.probability (risk s.risk).probability
  consequence := changed? s.risk.consequence (risk s.risk).consequence
  remainingProbability := changed? s.remainingRisk.probability (risk s.remainingRisk).probability
  remainingConsequence := changed? s.remainingRisk.consequence (risk s.remainingRisk).consequence

/-- The card on the new scales. -/
def card (c : Fourth.Card) : Fourth.Card := { c with scenarios := c.scenarios.map scenario }

/-- The scenarios with a number that changes. -/
def log (c : Fourth.Card) : List RescaledScenario :=
  (c.scenarios.map rescaled).filter fun s => !s.isEmpty

def report (c : Fourth.Card) : Report where
  changes := !(log c).isEmpty
  requiresNewApproval := !(log c).isEmpty
  log := if (log c).isEmpty then none else some (.rescaling ⟨log c⟩)

/-- The step from 4.0 to 4.1. -/
def step (c : Fourth.Card) : Fourth.Card × Report := (card c, report c)

end Scorecard.Rescaling

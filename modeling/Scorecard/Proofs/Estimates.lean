import Scorecard.Proofs.MigrationRun
import Scorecard.Proofs.NumberEquality

/-!
# The estimates of a document

A document in which every estimate has two numbers stays one on the way up (`Run.isNumeric`), for no step
makes a not-a-number of a number. Only with such numbers is a scenario equal to itself.
-/

namespace Scorecard

/-- Neither number is a not-a-number. -/
def Risk.IsNumeric (r : Risk) : Prop := r.probability.isNaN = false ∧ r.consequence.isNaN = false

instance (r : Risk) : Decidable r.IsNumeric := inferInstanceAs (Decidable (_ ∧ _))

/-- The estimates of a document: of each scenario two. -/
def Document.risks : Document → List Risk
  | .v3_2 c | .v3_3 c => c.scenarios.flatMap fun s => [s.risk, s.remainingRisk]
  | .v4_0 c | .v4_1 c | .v4_2 c => c.scenarios.flatMap fun s => [s.risk, s.remainingRisk]
  | .unknown _ _ => []

/-- No number of a document is a not-a-number. -/
def Document.IsNumeric (d : Document) : Prop := ∀ r ∈ d.risks, r.IsNumeric

instance (d : Document) : Decidable d.IsNumeric := inferInstanceAs (Decidable (∀ r ∈ d.risks, r.IsNumeric))

section Scenarios

variable {holds : Risk → Prop}

/-- What holds of all estimates of a document holds of the two of each scenario. -/
theorem Third.of_risks {c : Third.Card} (all : ∀ r ∈ (Document.v3_3 c).risks, holds r) {s : Third.Scenario}
    (here : s ∈ c.scenarios) : holds s.risk ∧ holds s.remainingRisk :=
  ⟨all _ (List.mem_flatMap.mpr ⟨s, here, by simp⟩), all _ (List.mem_flatMap.mpr ⟨s, here, by simp⟩)⟩

theorem Fourth.of_risks {c : Fourth.Card} (all : ∀ r ∈ (Document.v4_0 c).risks, holds r) {s : Fourth.Scenario}
    (here : s ∈ c.scenarios) : holds s.risk ∧ holds s.remainingRisk :=
  ⟨all _ (List.mem_flatMap.mpr ⟨s, here, by simp⟩), all _ (List.mem_flatMap.mpr ⟨s, here, by simp⟩)⟩

end Scenarios

theorem Binary64.beq_self_iff (x : Binary64) : (x == x) = true ↔ x.isNaN = false := by
  rw [Binary64.beq_iff]
  exact ⟨And.left, fun number => ⟨number, number, .inr rfl⟩⟩

theorem Risk.beq_self_iff (r : Risk) : (r == r) = true ↔ r.IsNumeric := by
  rw [Risk.beq_iff, Binary64.beq_self_iff, Binary64.beq_self_iff]
  exact ⟨And.right, fun numeric => ⟨rfl, numeric⟩⟩

theorem Third.Scenario.beq_self {s : Third.Scenario} (numeric : s.risk.IsNumeric ∧ s.remainingRisk.IsNumeric) :
    (s == s) = true :=
  (Third.Scenario.beq_iff s s).mpr
    ⟨rfl, (Risk.beq_self_iff _).mpr numeric.1, (Risk.beq_self_iff _).mpr numeric.2⟩

theorem Fourth.Scenario.beq_self {s : Fourth.Scenario} (numeric : s.risk.IsNumeric ∧ s.remainingRisk.IsNumeric) :
    (s == s) = true :=
  (Fourth.Scenario.beq_iff s s).mpr
    ⟨rfl, (Risk.beq_self_iff _).mpr numeric.1, (Risk.beq_self_iff _).mpr numeric.2⟩

/-! ## On the way up -/

/-- A replacement of the tables is a number. -/
theorem Rescaling.isNaN_replacement {presets : List (Binary64 × Binary64)}
    (table : ∀ p ∈ presets, p.2.isNaN = false) {x : Binary64} (number : x.isNaN = false) :
    (replacement presets x).isNaN = false := by
  unfold replacement
  split
  · next p found => exact table p (List.mem_of_find?_eq_some found)
  · exact number

theorem Rescaling.isNumeric_risk {r : Risk} (numeric : r.IsNumeric) : (Rescaling.risk r).IsNumeric := by
  have probabilities : ∀ p ∈ probabilityPresets, p.2.isNaN = false := by decide +kernel
  have consequences : ∀ p ∈ consequencePresets, p.2.isNaN = false := by decide +kernel
  exact ⟨isNaN_replacement probabilities numeric.1, isNaN_replacement consequences numeric.2⟩

theorem Generation.risks_card (c : Third.Card) :
    (Document.v4_0 (Generation.card c)).risks = (Document.v3_3 c).risks := by
  show (c.scenarios.map Generation.scenario).flatMap _ = c.scenarios.flatMap _
  rw [List.flatMap_map]
  rfl

theorem Rescaling.risks_card (c : Fourth.Card) :
    (Document.v4_1 (Rescaling.card c)).risks = (Document.v4_0 c).risks.map Rescaling.risk := by
  show (c.scenarios.map Rescaling.scenario).flatMap _ = (c.scenarios.flatMap _).map _
  rw [List.flatMap_map, List.map_flatMap]
  rfl

theorem Rescaling.isNumeric_card {c : Fourth.Card} (numeric : (Document.v4_0 c).IsNumeric) :
    (Document.v4_1 (Rescaling.card c)).IsNumeric := by
  intro r here
  rw [risks_card] at here
  obtain ⟨old, there, rfl⟩ := List.mem_map.mp here
  exact isNumeric_risk (numeric old there)

theorem Stamping.risks_card (published : Option Timestamp) (c : Fourth.Card) :
    (Document.v4_2 (Stamping.card published c)).risks = (Document.v4_1 c).risks := by
  show (c.scenarios.map (Stamping.scenario published)).flatMap _ = c.scenarios.flatMap _
  rw [List.flatMap_map]
  rfl

namespace Migration

variable {options : Options} {document reached : Document}

theorem Raises.isNumeric {leg : Span} {report : Report} (raises : Raises options document leg report reached)
    (numeric : document.IsNumeric) : reached.IsNumeric := by
  cases raises with
  | version c => exact numeric
  | generation c => rwa [Document.IsNumeric, Generation.risks_card]
  | rescaling c => exact Rescaling.isNumeric_card numeric
  | stamping c => rwa [Document.IsNumeric, Stamping.risks_card]

theorem Run.isNumeric {trace : List (Span × Report)} (run : Run options document trace reached)
    (numeric : document.IsNumeric) : reached.IsNumeric := by
  induction run with
  | stay => exact numeric
  | step raises _ ih => exact ih (raises.isNumeric numeric)

end Migration
end Scorecard

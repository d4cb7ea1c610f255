import Scorecard.Proofs.CarriedData
import Scorecard.Proofs.Estimates
import Scorecard.Proofs.StagedMigration

/-!
# What the steps report

Each step that rewrites a card looks for one thing in the document it starts from: the change of generation for
what it drops or renames, the new scales for presets that move, the stamping for stamps other than its own
(`Document.IsAffected`). It keeps a log exactly if it finds some (`Raises.log_isSome_iff`), and its flags follow
from its place on the ladder and from the log (`Raises.changes_iff`, `Raises.approval_iff`). A step that reports no
change leaves the record as it is (`Raises.record_of_quiet`).
-/

namespace Scorecard

open Migration

theorem isSome_unless_nil {α β : Type} (xs : List α) (b : β) :
    (if xs.isEmpty then none else some b).isSome = true ↔ xs ≠ [] := by
  cases xs <;> simp

theorem eq_some_unless_nil {α β : Type} {xs : List α} {b c : β}
    (kept : (if xs.isEmpty then none else some b) = some c) : xs ≠ [] ∧ c = b := by
  cases xs with
  | nil => cases kept
  | cons => exact ⟨by simp, (Option.some.inj kept).symm⟩

theorem map_eq_self {α : Type} {f : α → α} {xs : List α} (fixed : ∀ x ∈ xs, f x = x) : xs.map f = xs :=
  (List.map_congr_left fixed).trans (List.map_id' xs)

/-! ## What the change of generation drops and renames -/

/-- The change of generation drops a text of the scenario or renames one of its vulnerabilities. -/
def Third.Scenario.IsReshaped (s : Third.Scenario) : Prop :=
  (∃ text, s.existingActions = some text ∧ text ≠ "") ∨
    (∃ a ∈ s.actions, ∃ text, (a.owner = some text ∨ a.deadline = some text) ∧ text ≠ "") ∨
    ∃ v ∈ s.vulnerabilities, Vocabulary.name v.remapped ≠ Vocabulary.name v

theorem isSome_nonEmpty? (s : Option String) : (nonEmpty? s).isSome = true ↔ ∃ text, s = some text ∧ text ≠ "" := by
  cases s with
  | none => simp [nonEmpty?]
  | some text => by_cases empty : text = "" <;> simp [nonEmpty?, Option.filter, empty]

theorem Third.Vulnerability.isRenamed_iff (v : Third.Vulnerability) :
    v.isRenamed = true ↔ Vocabulary.name v.remapped ≠ Vocabulary.name v := by
  cases v <;> decide

namespace Generation

/-- Every renamed value is noted, in order and as often as it occurs. -/
theorem remapping_renamed (vulnerabilities : List Third.Vulnerability) : (remapping vulnerabilities).renamed =
    (vulnerabilities.filter Third.Vulnerability.isRenamed).map fun v => ⟨v, v.remapped⟩ := by
  have general : ∀ (rest : List Third.Vulnerability) (r : Remapping), (rest.foldl Remapping.enter r).renamed =
      r.renamed ++ (rest.filter Third.Vulnerability.isRenamed).map fun v => ⟨v, v.remapped⟩ := by
    intro rest
    induction rest with
    | nil => intro r; simp
    | cons v rest ih =>
      intro r
      rw [List.foldl_cons, ih]
      by_cases renamed : v.isRenamed = true <;> simp [Remapping.enter, renamed]
  simpa [remapping] using general vulnerabilities ⟨[], []⟩

theorem isSome_stripped? (a : Third.Action) : (stripped? a).isSome = true ↔
    ∃ text, (a.owner = some text ∨ a.deadline = some text) ∧ text ≠ "" := by
  have either : (stripped? a).isSome = true ↔
      (nonEmpty? a.owner).isSome = true ∨ (nonEmpty? a.deadline).isSome = true := by
    rw [← Bool.or_eq_true]
    simp only [stripped?]
    split <;> simp_all
  rw [either, isSome_nonEmpty?, isSome_nonEmpty?, ← exists_or]
  simp only [or_and_right]

theorem reshaped_isEmpty (s : Third.Scenario) : (reshaped s).isEmpty = false ↔ s.IsReshaped := by
  have dropped := isSome_nonEmpty? s.existingActions
  have renamed : (remapping s.vulnerabilities).renamed.isEmpty = false ↔
      ∃ v ∈ s.vulnerabilities, Vocabulary.name v.remapped ≠ Vocabulary.name v := by
    rw [remapping_renamed, List.isEmpty_eq_false_iff]
    simp [Third.Vulnerability.isRenamed_iff]
  have stripped : (s.actions.filterMap stripped?).isEmpty = false ↔
      ∃ a ∈ s.actions, ∃ text, (a.owner = some text ∨ a.deadline = some text) ∧ text ≠ "" := by
    rw [List.isEmpty_eq_false_iff]
    simp only [ne_eq, List.filterMap_eq_nil_iff, ← isSome_stripped?, Option.isSome_iff_ne_none]
    simp
  unfold Third.Scenario.IsReshaped
  rw [← dropped, ← renamed, ← stripped]
  simp only [ReshapedScenario.isEmpty, reshaped, Bool.and_eq_false_iff, Option.isNone_eq_false_iff]
  rw [or_assoc, or_comm (a := (remapping s.vulnerabilities).renamed.isEmpty = false)]

theorem log_ne_nil (c : Third.Card) : log c ≠ [] ↔ ∃ s ∈ c.scenarios, s.IsReshaped := by
  simp [log, reshaped_isEmpty]

end Generation

/-! ## What the new scales move -/

theorem Fourth.mem_risks {c : Fourth.Card} {r : Risk} :
    r ∈ (Document.v4_0 c).risks ↔ ∃ s ∈ c.scenarios, r = s.risk ∨ r = s.remainingRisk := by
  simp [Document.risks]

/-- The number is a preset that gives way to another one. -/
def Rescaling.IsMoved (presets : List (Binary64 × Binary64)) (x : Binary64) : Prop :=
  ∃ p ∈ presets, (p.1 == x) = true ∧ (p.1 == p.2) = false

instance (presets : List (Binary64 × Binary64)) (x : Binary64) : Decidable (Rescaling.IsMoved presets x) :=
  inferInstanceAs (Decidable (∃ p ∈ presets, _))

/-- One of the two numbers is a preset of its scale that moves. -/
def Risk.HasMovedPreset (r : Risk) : Prop :=
  Rescaling.IsMoved Rescaling.probabilityPresets r.probability ∨
    Rescaling.IsMoved Rescaling.consequencePresets r.consequence

instance (r : Risk) : Decidable r.HasMovedPreset := inferInstanceAs (Decidable (_ ∨ _))

/-- One of the two numbers has another value. -/
def Risk.NumbersDiffer (old new : Risk) : Prop :=
  (old.probability == new.probability) = false ∨ (old.consequence == new.consequence) = false

instance (old new : Risk) : Decidable (old.NumbersDiffer new) := inferInstanceAs (Decidable (_ ∨ _))

/-- One of the four numbers has another value. -/
def Fourth.Scenario.NumbersDiffer (old new : Fourth.Scenario) : Prop :=
  old.risk.NumbersDiffer new.risk ∨ old.remainingRisk.NumbersDiffer new.remainingRisk

instance (old new : Fourth.Scenario) : Decidable (old.NumbersDiffer new) := inferInstanceAs (Decidable (_ ∨ _))

namespace Rescaling

/-- No preset is a zero, and equal presets have equal replacements. -/
structure IsScale (presets : List (Binary64 × Binary64)) : Prop where
  nonzero : ∀ p ∈ presets, p.1.isZero = false
  unambiguous : ∀ p ∈ presets, ∀ q ∈ presets, (p.1 == q.1) = true → (p.2 == q.2) = true

theorem isScale_probabilityPresets : IsScale probabilityPresets := ⟨by decide +kernel, by decide +kernel⟩

theorem isScale_consequencePresets : IsScale consequencePresets := ⟨by decide +kernel, by decide +kernel⟩

variable {presets : List (Binary64 × Binary64)} {x : Binary64}

theorem eq_of_preset_beq (scale : IsScale presets) {p : Binary64 × Binary64} (listed : p ∈ presets) {y : Binary64}
    (same : (p.1 == y) = true) : p.1 = y := by
  obtain ⟨-, -, zeros | equal⟩ := (Binary64.beq_iff _ _).mp same
  · cases (scale.nonzero p listed).symm.trans zeros.1
  · exact equal

/-- The replacement has another value exactly if the number is a preset that moves. -/
theorem isMoved_iff (scale : IsScale presets) (number : x.isNaN = false) :
    IsMoved presets x ↔ (x == replacement presets x) = false := by
  have itself := (Binary64.beq_self_iff x).mpr number
  unfold replacement
  cases found : presets.find? fun p => p.1 == x with
  | none =>
    simp only [itself, Bool.true_eq_false, iff_false]
    rintro ⟨p, listed, same, -⟩
    exact absurd same (List.find?_eq_none.mp found p listed)
  | some p =>
    have listed := List.mem_of_find?_eq_some found
    have same := List.find?_some found
    simp only [IsMoved, Bool.eq_false_iff]
    constructor
    · rintro ⟨q, there, equal, moves⟩ stays
      have alike := scale.unambiguous p listed q there (BEq.trans same (BEq.symm equal))
      exact moves (BEq.trans equal (BEq.trans stays alike))
    · intro moves
      exact ⟨p, listed, same, fun stays => moves (BEq.trans (BEq.symm same) stays)⟩

/-- A number that is no such preset stays as it is. -/
theorem replacement_eq_self (scale : IsScale presets) (number : x.isNaN = false) (rests : ¬ IsMoved presets x) :
    replacement presets x = x := by
  rw [isMoved_iff scale number, Bool.not_eq_false] at rests
  unfold replacement at *
  cases found : presets.find? fun p => p.1 == x with
  | none => rfl
  | some p =>
    have listed := List.mem_of_find?_eq_some found
    have same := List.find?_some found
    obtain rfl := eq_of_preset_beq scale listed same
    rw [found] at rests
    exact (eq_of_preset_beq scale listed rests).symm

theorem differ_risk_iff {r : Risk} (numeric : r.IsNumeric) : r.NumbersDiffer (risk r) ↔ r.HasMovedPreset :=
  or_congr (isMoved_iff isScale_probabilityPresets numeric.1).symm
    (isMoved_iff isScale_consequencePresets numeric.2).symm

theorem risk_eq_self {r : Risk} (numeric : r.IsNumeric) (rests : ¬ r.HasMovedPreset) : risk r = r := by
  obtain ⟨likely, costly⟩ := not_or.mp rests
  have probability := replacement_eq_self isScale_probabilityPresets numeric.1 likely
  have consequence := replacement_eq_self isScale_consequencePresets numeric.2 costly
  cases r
  simp_all [risk, Rescaling.probability, Rescaling.consequence]

theorem isNone_changed? (old new : Binary64) : (changed? old new).isNone = false ↔ (old == new) = false := by
  cases same : old == new <;> simp [changed?, same]

theorem rescaled_isEmpty_iff (s : Fourth.Scenario) : (rescaled s).isEmpty = false ↔ s.NumbersDiffer (scenario s) := by
  simp only [RescaledScenario.isEmpty, rescaled, Bool.and_eq_false_iff, isNone_changed?, or_assoc]
  simp only [Fourth.Scenario.NumbersDiffer, Risk.NumbersDiffer, scenario, or_assoc]

theorem rescaled_isEmpty {s : Fourth.Scenario} (numeric : s.risk.IsNumeric ∧ s.remainingRisk.IsNumeric) :
    (rescaled s).isEmpty = false ↔ s.risk.HasMovedPreset ∨ s.remainingRisk.HasMovedPreset :=
  (rescaled_isEmpty_iff s).trans (or_congr (differ_risk_iff numeric.1) (differ_risk_iff numeric.2))

theorem log_ne_nil {c : Fourth.Card} (numeric : (Document.v4_0 c).IsNumeric) :
    log c ≠ [] ↔ ∃ r ∈ (Document.v4_0 c).risks, r.HasMovedPreset := by
  have entries : log c ≠ [] ↔ ∃ s ∈ c.scenarios, (rescaled s).isEmpty = false := by simp [log]
  have moved : (∃ r ∈ (Document.v4_0 c).risks, r.HasMovedPreset) ↔
      ∃ s ∈ c.scenarios, s.risk.HasMovedPreset ∨ s.remainingRisk.HasMovedPreset := by
    simp only [Fourth.mem_risks]
    grind
  rw [entries, moved]
  exact exists_congr fun s => and_congr_right fun here => rescaled_isEmpty (Fourth.of_risks numeric here)

theorem card_eq_self {c : Fourth.Card} (numeric : (Document.v4_0 c).IsNumeric)
    (rests : ∀ r ∈ (Document.v4_0 c).risks, ¬ r.HasMovedPreset) : card c = c := by
  have same : ∀ s ∈ c.scenarios, scenario s = s := by
    intro s here
    have left := risk_eq_self (Fourth.of_risks numeric here).1 (Fourth.of_risks rests here).1
    have right := risk_eq_self (Fourth.of_risks numeric here).2 (Fourth.of_risks rests here).2
    simp [scenario, left, right]
  simp [card, map_eq_self same]

end Rescaling

/-! ## What the stamping sets -/

/-- The stamps of the actions, of which those of the third generation have none. -/
def Document.stamps : Document → List (Option Timestamp)
  | .v3_2 c | .v3_3 c => c.scenarios.flatMap fun s => s.actions.map fun _ => none
  | .v4_0 c | .v4_1 c | .v4_2 c => c.scenarios.flatMap fun s => s.actions.map Fourth.Action.lastUpdated
  | .unknown _ _ => []

theorem Fourth.mem_stamps {c : Fourth.Card} {stamp : Option Timestamp} :
    stamp ∈ (Document.v4_1 c).stamps ↔ ∃ s ∈ c.scenarios, ∃ a ∈ s.actions, a.lastUpdated = stamp := by
  simp [Document.stamps]

namespace Stamping

variable {published : Option Timestamp}

theorem stamped?_eq_none_iff (published : Option Timestamp) (s : Fourth.Scenario) :
    stamped? published s = none ↔ ∀ a ∈ s.actions, a.lastUpdated = published := by
  have actions : stampedActions published s = [] ↔ ∀ a ∈ s.actions, a.lastUpdated = published := by
    simp [stampedActions, isStamped]
  rw [← actions]
  unfold stamped?
  split <;> simp_all

theorem changedActions_ne_nil {s : Fourth.Scenario} {entry : StampedScenario}
    (stamped : stamped? published s = some entry) : entry.changedActions ≠ [] := by
  unfold stamped? at stamped
  split at stamped
  · cases stamped
  · next actions filled =>
    cases stamped
    exact filled

theorem log_ne_nil (published : Option Timestamp) (c : Fourth.Card) :
    log published c ≠ [] ↔ ∃ stamp ∈ (Document.v4_1 c).stamps, stamp ≠ published := by
  have kept : log published c = [] ↔ ∀ s ∈ c.scenarios, ∀ a ∈ s.actions, a.lastUpdated = published := by
    simp [log, stamped?_eq_none_iff]
  rw [ne_eq, kept]
  simp only [Fourth.mem_stamps, not_forall]
  grind

theorem card_eq_self {c : Fourth.Card} (stamped : ∀ stamp ∈ (Document.v4_1 c).stamps, stamp = published) :
    card published c = c := by
  have same : ∀ s ∈ c.scenarios, scenario published s = s := by
    intro s here
    have actions : ∀ a ∈ s.actions, action published a = a := by
      intro a there
      have stamp := stamped a.lastUpdated (Fourth.mem_stamps.mpr ⟨s, here, a, there, rfl⟩)
      simp [action, isStamped, stamp]
    simp [scenario, map_eq_self actions]
  simp [card, map_eq_self same]

/-- Behind the step every action has the stamp. -/
theorem stamps_card (published : Option Timestamp) (c : Fourth.Card) :
    ∀ stamp ∈ (Document.v4_2 (card published c)).stamps, stamp = published := by
  intro stamp here
  obtain ⟨s, listed, a, there, rfl⟩ := Fourth.mem_stamps.mp here
  obtain ⟨s, -, rfl⟩ := List.mem_map.mp listed
  obtain ⟨a, -, rfl⟩ := List.mem_map.mp there
  rw [action_eq]

end Stamping

/-! ## The reports -/

/-- The step out of a document's version has something to log. -/
def Document.IsAffected (published : Option Timestamp) : Document → Prop
  | .v3_3 c => ∃ s ∈ c.scenarios, s.IsReshaped
  | .v4_0 c => ∃ r ∈ (Document.v4_0 c).risks, r.HasMovedPreset
  | .v4_1 c => ∃ stamp ∈ (Document.v4_1 c).stamps, stamp ≠ published
  | _ => False

namespace Migration

/-- The log has entries, and each of them says something. -/
def Log.IsFilled : Log → Prop
  | .generation log => log.scenarios ≠ [] ∧ ∀ s ∈ log.scenarios, s.isEmpty = false
  | .rescaling log => log.scenarios ≠ [] ∧ ∀ s ∈ log.scenarios, s.isEmpty = false
  | .stamping log => log.scenarios ≠ [] ∧ ∀ s ∈ log.scenarios, s.changedActions ≠ []

variable {options : Options} {document reached : Document} {leg : Span} {report : Report}

theorem Raises.log_isSome_iff (raises : Raises options document leg report reached) (numeric : document.IsNumeric) :
    report.log.isSome = true ↔ document.IsAffected options.lastPublished := by
  cases raises with
  | version c => simp [Report.unchanged, Document.IsAffected]
  | generation c => exact (isSome_unless_nil _ _).trans (Generation.log_ne_nil c)
  | rescaling c => exact (isSome_unless_nil _ _).trans (Rescaling.log_ne_nil numeric)
  | stamping c => exact (isSome_unless_nil _ _).trans (Stamping.log_ne_nil _ c)

theorem Raises.changes_iff (raises : Raises options document leg report reached) :
    report.changes = true ↔ leg = ⟨.v3_3, .v4_0⟩ ∨ report.log.isSome = true := by
  cases raises with
  | version c => decide
  | generation c => simp [Generation.report]
  | rescaling c => simp [Rescaling.report, Version.v3_3, Version.v4_0]
  | stamping c => simp [Stamping.report, Version.v3_3, Version.v4_1]

/-- Stamps do not need a new approval. -/
theorem Raises.approval_iff (raises : Raises options document leg report reached) :
    report.requiresNewApproval = true ↔
      leg = ⟨.v3_3, .v4_0⟩ ∨ (leg = ⟨.v4_0, .v4_1⟩ ∧ report.log.isSome = true) := by
  cases raises with
  | version c => decide
  | generation c => simp [Generation.report]
  | rescaling c => simp [Rescaling.report, Version.v3_3, Version.v4_0]
  | stamping c => simp [Stamping.report, Version.v3_3, Version.v4_0, Version.v4_1]

theorem Raises.log_filled {log : Log} (raises : Raises options document leg report reached)
    (reported : report.log = some log) : log.IsFilled := by
  cases raises with
  | version c => cases reported
  | generation c =>
    obtain ⟨entries, rfl⟩ := eq_some_unless_nil reported
    refine ⟨entries, fun s listed => ?_⟩
    simpa using (List.mem_filter.mp listed).2
  | rescaling c =>
    obtain ⟨entries, rfl⟩ := eq_some_unless_nil reported
    refine ⟨entries, fun s listed => ?_⟩
    simpa using (List.mem_filter.mp listed).2
  | stamping c =>
    obtain ⟨entries, rfl⟩ := eq_some_unless_nil reported
    refine ⟨entries, fun s listed => ?_⟩
    obtain ⟨scenario, -, stamped⟩ := List.mem_filterMap.mp listed
    exact Stamping.changedActions_ne_nil stamped

theorem Raises.record_of_quiet (raises : Raises options document leg report reached) (numeric : document.IsNumeric)
    (quiet : report.changes = false) : reached.record? = document.record? := by
  have unlogged : ¬ document.IsAffected options.lastPublished := by
    rw [← raises.log_isSome_iff numeric]
    intro logged
    cases quiet.symm.trans (raises.changes_iff.mpr (.inr logged))
  cases raises with
  | version c => rfl
  | generation c => cases quiet
  | rescaling c =>
    have rests : ∀ r ∈ (Document.v4_0 c).risks, ¬ r.HasMovedPreset := fun r here moved => unlogged ⟨r, here, moved⟩
    simp [Document.record?, Rescaling.card_eq_self numeric rests]
  | stamping c =>
    have stamped : ∀ stamp ∈ (Document.v4_1 c).stamps, stamp = options.lastPublished := by
      intro stamp here
      by_cases same : stamp = options.lastPublished
      · exact same
      · exact absurd ⟨stamp, here, same⟩ unlogged
    simp [Document.record?, Stamping.card_eq_self stamped]

/-! ## What the steps leave alone -/

/-- Only the new scales touch the estimates. -/
theorem Raises.keeps_risks (raises : Raises options document leg report reached) (other : leg ≠ ⟨.v4_0, .v4_1⟩) :
    reached.risks = document.risks := by
  cases raises with
  | version c => rfl
  | generation c => exact Generation.risks_card c
  | rescaling c => exact absurd rfl other
  | stamping c => exact Stamping.risks_card options.lastPublished c

/-- Only the stamping touches the stamps. -/
theorem Raises.keeps_stamps (raises : Raises options document leg report reached) (other : leg ≠ ⟨.v4_1, .v4_2⟩) :
    reached.stamps = document.stamps := by
  cases raises with
  | version c => rfl
  | generation c =>
    simp only [Document.stamps, Generation.card, List.flatMap_map, Generation.scenario, List.map_map]
    rfl
  | rescaling c =>
    simp only [Document.stamps, Rescaling.card, List.flatMap_map]
    rfl
  | stamping c => exact absurd rfl other

end Migration
end Scorecard

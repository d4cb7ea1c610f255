import Scorecard.Proofs.CarriedData

/-!
# The steps that a run crosses

The steps of a run are those between its two versions (`Run.crosses_iff`), and at each of them the run falls into
what leads to the step, the step itself and what follows (`Run.split`). What only one step touches, a run
that does not cross the step leaves alone (`Run.keeps`).
-/

namespace Scorecard.Migration

variable {options : Options} {document reached : Document} {source target : Version}

theorem mem_legs_iff {leg : Span} (listed : leg ∈ ladder) (lower : source.IsSupported) (upper : target.IsSupported) :
    leg ∈ legs source target ↔ Span.Crosses ⟨source, target⟩ leg := by
  have table : ∀ leg ∈ ladder, ∀ source ∈ Version.supported, ∀ target ∈ Version.supported,
      (leg ∈ legs source target ↔ Span.Crosses ⟨source, target⟩ leg) := by
    decide
  exact table leg listed source lower target upper

/-- A run crosses a step exactly if the step is one of its steps. -/
theorem Run.crosses_iff {trace : List (Span × Report)} (run : Run options document trace reached)
    (start : document.version? = some source) (finish : reached.version? = some target) {leg : Span}
    (listed : leg ∈ ladder) : Span.Crosses ⟨source, target⟩ leg ↔ ∃ report, (leg, report) ∈ trace := by
  rw [← mem_legs_iff listed (version_supported start) (version_supported finish), ← run.legs start finish]
  simp

/-- A run falls into the part in front of a step, the step, and the part behind it. -/
theorem Run.split {trace : List (Span × Report)} (run : Run options document trace reached) {leg : Span}
    {report : Report} (listed : (leg, report) ∈ trace) :
    ∃ early before after late, Run options document early before ∧ Raises options before leg report after ∧
      Run options after late reached := by
  induction run with
  | stay => cases listed
  | @step document middle reached first head rest raises later ih =>
    rcases List.mem_cons.mp listed with here | there
    · cases here
      exact ⟨[], document, middle, rest, .stay document, raises, later⟩
    · obtain ⟨early, before, after, late, lower, found, upper⟩ := ih there
      exact ⟨(first, head) :: early, before, after, late, .step raises lower, found, upper⟩

theorem Run.raises {trace : List (Span × Report)} (run : Run options document trace reached) {leg : Span}
    {report : Report} (listed : (leg, report) ∈ trace) :
    ∃ before after, Raises options before leg report after := by
  obtain ⟨-, before, after, -, -, raises, -⟩ := run.split listed
  exact ⟨before, after, raises⟩

/-- Runs from one document to one version end with the same document, since a migration has one outcome. -/
theorem Run.unique {first second : Document} {one two : List (Span × Report)} (run : Run options document one first)
    (other : Run options document two second) (start : document.version? = some source)
    (finish : first.version? = some target) (finish' : second.version? = some target) : first = second := by
  have outcome := (toVersion_run run start finish).symm.trans (toVersion_run other start finish')
  exact congrArg Prod.fst (Except.ok.inj outcome)

section Untouched

variable {β : Type} {part : Document → β} {leg : Span}
  (others : ∀ {before after other report}, Raises options before other report after → other ≠ leg →
    part after = part before)
  {trace : List (Span × Report)} (run : Run options document trace reached)

include others run

/-- Step by step a run keeps what only a step touches that it does not cross. -/
theorem Run.keeps (start : document.version? = some source) (finish : reached.version? = some target)
    (avoids : ¬ Span.Crosses ⟨source, target⟩ leg) : part reached = part document := by
  induction run generalizing source with
  | stay => rfl
  | @step document middle reached first report rest raises later ih =>
    cases raises.source.symm.trans start
    have onward := later.le raises.target finish
    have climbs : first.source ≤ first.target := Version.le_of_lt (source_lt_target raises.listed)
    have other : first ≠ leg := by
      rintro rfl
      exact avoids ⟨Version.le_refl _, onward⟩
    have beyond : ¬ Span.Crosses ⟨first.target, target⟩ leg := by
      rintro ⟨above, below⟩
      exact avoids ⟨Version.le_trans climbs above, below⟩
    exact (ih raises.target finish beyond).trans (others raises other)

/-- What only one step touches is still there in front of it. -/
theorem Run.keeps_below (listed : leg ∈ ladder) (start : document.version? = some source)
    (finish : reached.version? = some leg.source) : part reached = part document :=
  run.keeps others start finish fun crosses => absurd (source_lt_target listed) crosses.2

/-- What only one step touches stays as the step leaves it. -/
theorem Run.keeps_above (listed : leg ∈ ladder) (start : document.version? = some leg.target)
    (finish : reached.version? = some target) : part reached = part document :=
  run.keeps others start finish fun crosses => absurd (source_lt_target listed) crosses.1

end Untouched

end Scorecard.Migration

import Scorecard.Proofs.CrossedSteps
import Scorecard.Proofs.StepReports

/-!
# The flags and logs of a run

What a run's status says is found again in the steps of the run: a flag is set if some step sets it
(`absorbed_iff`), and a log is kept if the step that keeps such logs reported one (`Run.logged_iff`). A run that
crosses a step falls into three parts there (`Run.crossing`), so that each log is tied to the document that the run
starts from: nothing in front of the step touches what the step looks for.
-/

namespace Scorecard.Migration

/-! ## Flags and logs come from the steps -/

/-- What a report sets and no report resets is set if it was before or if some step of the trace sets it. -/
theorem absorbed_iff (holds : Status → Prop) (sets : Report → Prop)
    (one : ∀ status leg report, holds (status.after leg report) ↔ holds status ∨ sets report)
    (trace : List (Span × Report)) (status : Status) :
    holds (status.absorbed trace) ↔ holds status ∨ ∃ step ∈ trace, sets step.2 := by
  induction trace generalizing status with
  | nil => simp [Status.absorbed]
  | cons step rest ih =>
    rw [absorbed_cons, ih, one]
    simp [or_assoc]

/-- The steps whose logs a status keeps. -/
def Status.logged (status : Status) : List Span := status.logs.map Log.leg

theorem mem_logged (status : Status) (leg : Span) : leg ∈ status.logged ↔
    (status.generation.isSome = true ∧ leg = ⟨.v3_3, .v4_0⟩) ∨ (status.rescaling.isSome = true ∧ leg = ⟨.v4_0, .v4_1⟩) ∨
      (status.stamping.isSome = true ∧ leg = ⟨.v4_1, .v4_2⟩) := by
  obtain ⟨changes, approval, span, applied, generation, rescaling, stamping⟩ := status
  cases generation <;> cases rescaling <;> cases stamping <;> simp [Status.logged, Status.logs, Log.leg]

theorem isSome_generation (status : Status) : status.generation.isSome = true ↔ ⟨.v3_3, .v4_0⟩ ∈ status.logged := by
  simp [mem_logged, Version.v3_3, Version.v4_0, Version.v4_1]

theorem isSome_rescaling (status : Status) : status.rescaling.isSome = true ↔ ⟨.v4_0, .v4_1⟩ ∈ status.logged := by
  simp [mem_logged, Version.v3_3, Version.v4_0, Version.v4_1]

theorem isSome_stamping (status : Status) : status.stamping.isSome = true ↔ ⟨.v4_1, .v4_2⟩ ∈ status.logged := by
  simp [mem_logged, Version.v3_3, Version.v4_0, Version.v4_1]

theorem logged_after (status : Status) (leg step : Span) (report : Report) : leg ∈ (status.after step report).logged ↔
    leg ∈ status.logged ∨ ∃ log, report.log = some log ∧ log.leg = leg := by
  obtain ⟨changes, approval, entered⟩ := report
  rcases entered with - | (log | log | log) <;> simp [mem_logged, Status.after, Status.enter, Log.leg] <;> grind

variable {options : Options} {document reached : Document} {source target : Version} {trace : List (Span × Report)}

theorem changes_iff_step :
    (Status.ofRun source target trace).changes = true ↔ ∃ step ∈ trace, step.2.changes = true := by
  have fold := absorbed_iff (fun status => status.changes = true) (fun report => report.changes = true)
    (by simp [Status.after]) trace .initial
  exact fold.trans (or_iff_right (by simp [Status.initial]))

theorem approval_iff_step : (Status.ofRun source target trace).requiresNewApproval = true ↔
    ∃ step ∈ trace, step.2.requiresNewApproval = true := by
  have fold := absorbed_iff (fun status => status.requiresNewApproval = true)
    (fun report => report.requiresNewApproval = true) (by simp [Status.after]) trace .initial
  exact fold.trans (or_iff_right (by simp [Status.initial]))

theorem Run.logged_iff (run : Run options document trace reached) (leg : Span) :
    leg ∈ (Status.ofRun source target trace).logged ↔ ∃ report, (leg, report) ∈ trace ∧ report.log.isSome = true := by
  have fold := absorbed_iff (fun status => leg ∈ status.logged)
    (fun report => ∃ log, report.log = some log ∧ log.leg = leg)
    (fun status step report => logged_after status leg step report) trace .initial
  have fresh : leg ∉ Status.initial.logged := by simp [Status.logged, Status.logs, Status.initial]
  refine fold.trans ((or_iff_right fresh).trans ⟨?_, ?_⟩)
  · rintro ⟨⟨step, report⟩, listed, log, reported, rfl⟩
    obtain ⟨before, after, raises⟩ := run.raises listed
    rw [raises.log_leg reported]
    exact ⟨report, listed, Option.isSome_iff_exists.mpr ⟨log, reported⟩⟩
  · rintro ⟨report, listed, logged⟩
    obtain ⟨before, after, raises⟩ := run.raises listed
    obtain ⟨log, reported⟩ := Option.isSome_iff_exists.mp logged
    exact ⟨(leg, report), listed, log, reported, raises.log_leg reported⟩

/-- No log of a run is empty. -/
theorem Run.logs_filled (run : Run options document trace reached) {log : Log}
    (kept : log ∈ (Status.ofRun source target trace).logs) : log.IsFilled := by
  have origin : log ∈ Status.initial.logs ∨ ∃ step ∈ trace, step.2.log = some log := mem_logs_absorbed kept
  rcases origin with before | ⟨⟨leg, report⟩, listed, reported⟩
  · cases before
  · obtain ⟨before, after, raises⟩ := run.raises listed
    exact raises.log_filled reported

/-- A run that crosses a step falls into the part in front of it, the step and the part behind it, and keeps a log
    of the step exactly if the document in front of it is affected. -/
theorem Run.crossing (run : Run options document trace reached) (numeric : document.IsNumeric)
    (start : document.version? = some source) (finish : reached.version? = some target) {leg : Span}
    (listed : leg ∈ ladder) (crosses : Span.Crosses ⟨source, target⟩ leg) :
    ∃ early before report after late, Run options document early before ∧ Raises options before leg report after ∧
      Run options after late reached ∧
      (leg ∈ (Status.ofRun source target trace).logged ↔ before.IsAffected options.lastPublished) := by
  obtain ⟨report, step⟩ := (run.crosses_iff start finish listed).mp crosses
  obtain ⟨early, before, after, late, lower, raises, upper⟩ := run.split step
  refine ⟨early, before, report, after, late, lower, raises, upper, (run.logged_iff leg).trans ⟨?_, ?_⟩⟩
  · rintro ⟨other, found, logged⟩
    obtain ⟨early', before', after', late', lower', raises', -⟩ := run.split found
    -- The reported step may be listed elsewhere in the trace, but it starts from the same document.
    obtain rfl := lower.unique lower' start raises.source raises'.source
    exact (raises'.log_isSome_iff (lower'.isNumeric numeric)).mp logged
  · intro affected
    exact ⟨report, step, (raises.log_isSome_iff (lower.isNumeric numeric)).mpr affected⟩

theorem Run.crosses_of_logged (run : Run options document trace reached) (start : document.version? = some source)
    (finish : reached.version? = some target) {leg : Span} (logged : leg ∈ (Status.ofRun source target trace).logged) :
    Span.Crosses ⟨source, target⟩ leg := by
  obtain ⟨report, step, -⟩ := (run.logged_iff leg).mp logged
  obtain ⟨before, after, raises⟩ := run.raises step
  exact (run.crosses_iff start finish raises.listed).mpr ⟨report, step⟩

/-! ## The three logs -/

section Logs

variable (run : Run options document trace reached) (start : document.version? = some source)
  (finish : reached.version? = some target)

include run start finish

theorem Run.logged_iff_and {leg : Span} {found : Prop}
    (placed : Span.Crosses ⟨source, target⟩ leg → (leg ∈ (Status.ofRun source target trace).logged ↔ found)) :
    leg ∈ (Status.ofRun source target trace).logged ↔ Span.Crosses ⟨source, target⟩ leg ∧ found := by
  constructor
  · intro logged
    have crosses := run.crosses_of_logged start finish logged
    exact ⟨crosses, (placed crosses).mp logged⟩
  · rintro ⟨crosses, holds⟩
    exact (placed crosses).mpr holds

theorem Run.generation_logged_iff (numeric : document.IsNumeric) :
    ⟨.v3_3, .v4_0⟩ ∈ (Status.ofRun source target trace).logged ↔ Span.Crosses ⟨source, target⟩ ⟨.v3_3, .v4_0⟩ ∧
      ∃ card, document.record? = some (.third card) ∧ ∃ s ∈ card.scenarios, s.IsReshaped := by
  refine run.logged_iff_and start finish fun crosses => ?_
  obtain ⟨early, before, report, after, late, lower, raises, -, logged⟩ :=
    run.crossing numeric start finish (by decide) crosses
  rw [logged]
  cases raises with
  | generation c =>
    -- Up to 3.3 the card is carried over as it is, so the affected one is the document's own.
    obtain ⟨old, new, departed, passed, carried⟩ := lower.carries start rfl
    cases passed
    cases old with
    | third card =>
      obtain rfl := carried.2
      simp [departed, Document.IsAffected]
    | fourth card => exact carried.elim

/-- A run that crosses the new scales has all estimates on them. -/
theorem Run.risks_rescaled (numeric : document.IsNumeric) (crosses : Span.Crosses ⟨source, target⟩ ⟨.v4_0, .v4_1⟩) :
    reached.risks = document.risks.map Rescaling.risk := by
  obtain ⟨early, before, report, after, late, lower, raises, upper, -⟩ :=
    run.crossing numeric start finish (by decide) crosses
  have below : before.risks = document.risks :=
    lower.keeps_below Raises.keeps_risks raises.listed start raises.source
  have above : reached.risks = after.risks :=
    upper.keeps_above Raises.keeps_risks raises.listed raises.target finish
  cases raises with
  | rescaling c => rw [above, Rescaling.risks_card, below]

theorem Run.rescaling_logged_iff (numeric : document.IsNumeric) :
    ⟨.v4_0, .v4_1⟩ ∈ (Status.ofRun source target trace).logged ↔ Span.Crosses ⟨source, target⟩ ⟨.v4_0, .v4_1⟩ ∧
      ∃ r ∈ document.risks, r.HasMovedPreset := by
  refine run.logged_iff_and start finish fun crosses => ?_
  obtain ⟨early, before, report, after, late, lower, raises, -, logged⟩ :=
    run.crossing numeric start finish (by decide) crosses
  have below : before.risks = document.risks :=
    lower.keeps_below Raises.keeps_risks raises.listed start raises.source
  rw [logged, ← below]
  cases raises with
  | rescaling c => exact Iff.rfl

/-- A run that crosses the stamping has all actions stamped. -/
theorem Run.stamps_set (numeric : document.IsNumeric) (crosses : Span.Crosses ⟨source, target⟩ ⟨.v4_1, .v4_2⟩) :
    ∀ stamp ∈ reached.stamps, stamp = options.lastPublished := by
  obtain ⟨early, before, report, after, late, lower, raises, upper, -⟩ :=
    run.crossing numeric start finish (by decide) crosses
  have above : reached.stamps = after.stamps :=
    upper.keeps_above Raises.keeps_stamps raises.listed raises.target finish
  rw [above]
  cases raises with
  | stamping c => exact Stamping.stamps_card options.lastPublished c

theorem Run.stamping_logged_iff (numeric : document.IsNumeric) :
    ⟨.v4_1, .v4_2⟩ ∈ (Status.ofRun source target trace).logged ↔ Span.Crosses ⟨source, target⟩ ⟨.v4_1, .v4_2⟩ ∧
      ∃ stamp ∈ document.stamps, stamp ≠ options.lastPublished := by
  refine run.logged_iff_and start finish fun crosses => ?_
  obtain ⟨early, before, report, after, late, lower, raises, -, logged⟩ :=
    run.crossing numeric start finish (by decide) crosses
  have below : before.stamps = document.stamps :=
    lower.keeps_below Raises.keeps_stamps raises.listed start raises.source
  rw [logged, ← below]
  cases raises with
  | stamping c => exact Iff.rfl

/-! ## The two flags -/

theorem Run.changes_iff : (Status.ofRun source target trace).changes = true ↔
    Span.Crosses ⟨source, target⟩ ⟨.v3_3, .v4_0⟩ ∨ ∃ leg, leg ∈ (Status.ofRun source target trace).logged := by
  rw [changes_iff_step]
  constructor
  · rintro ⟨⟨leg, report⟩, listed, changes⟩
    obtain ⟨before, after, raises⟩ := run.raises listed
    rcases raises.changes_iff.mp changes with rfl | logged
    · exact .inl ((run.crosses_iff start finish raises.listed).mpr ⟨report, listed⟩)
    · exact .inr ⟨leg, (run.logged_iff leg).mpr ⟨report, listed, logged⟩⟩
  · rintro (crosses | ⟨leg, logged⟩)
    · obtain ⟨report, listed⟩ := (run.crosses_iff start finish (by decide)).mp crosses
      obtain ⟨before, after, raises⟩ := run.raises listed
      exact ⟨_, listed, raises.changes_iff.mpr (.inl rfl)⟩
    · obtain ⟨report, listed, logged⟩ := (run.logged_iff leg).mp logged
      obtain ⟨before, after, raises⟩ := run.raises listed
      exact ⟨_, listed, raises.changes_iff.mpr (.inr logged)⟩

theorem Run.approval_iff : (Status.ofRun source target trace).requiresNewApproval = true ↔
    Span.Crosses ⟨source, target⟩ ⟨.v3_3, .v4_0⟩ ∨ ⟨.v4_0, .v4_1⟩ ∈ (Status.ofRun source target trace).logged := by
  rw [approval_iff_step, run.logged_iff, run.crosses_iff start finish (by decide)]
  constructor
  · rintro ⟨⟨leg, report⟩, listed, approval⟩
    obtain ⟨before, after, raises⟩ := run.raises listed
    rcases raises.approval_iff.mp approval with rfl | ⟨rfl, logged⟩
    · exact .inl ⟨report, listed⟩
    · exact .inr ⟨report, listed, logged⟩
  · rintro (⟨report, listed⟩ | ⟨report, listed, logged⟩) <;>
      obtain ⟨before, after, raises⟩ := run.raises listed
    · exact ⟨_, listed, raises.approval_iff.mpr (.inl rfl)⟩
    · exact ⟨_, listed, raises.approval_iff.mpr (.inr ⟨rfl, logged⟩)⟩

end Logs

end Scorecard.Migration

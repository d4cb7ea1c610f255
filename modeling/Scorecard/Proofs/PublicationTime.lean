import Scorecard.Proofs.ComparisonOutcome
import Scorecard.Proofs.ExactStatus

/-!
# How far the time of publication reaches

A migration is given the time of publication, and only the stamping makes use of it. So if the stamps are taken out
of a run, what is left is the run of the unstamped document that was never published (`Run.unstamped`), whatever the
time was. Migrations under two times of publication agree but for the stamps and what is noted about them, and are
the same where no stamp is set, and with them the comparisons (`publication_reaches_stamps_only`).
-/

namespace Scorecard

/-! ## Without stamps -/

def Fourth.Action.unstamped (a : Fourth.Action) : Fourth.Action := { a with lastUpdated := none }

def Fourth.Scenario.unstamped (s : Fourth.Scenario) : Fourth.Scenario :=
  { s with actions := s.actions.map Action.unstamped }

def Fourth.Card.unstamped (c : Fourth.Card) : Fourth.Card :=
  { c with scenarios := c.scenarios.map Scenario.unstamped }

/-- The document with the stamp of every action taken out. -/
def Document.unstamped : Document → Document
  | .v4_0 c => .v4_0 c.unstamped
  | .v4_1 c => .v4_1 c.unstamped
  | .v4_2 c => .v4_2 c.unstamped
  | .v3_2 c => .v3_2 c
  | .v3_3 c => .v3_3 c
  | .unknown schemaVersion payload => .unknown schemaVersion payload

@[simp] theorem Fourth.Card.unstamped_unstamped (c : Fourth.Card) : c.unstamped.unstamped = c.unstamped := by
  simp [Fourth.Card.unstamped, Fourth.Scenario.unstamped, Fourth.Action.unstamped]

@[simp] theorem Document.unstamped_unstamped (document : Document) :
    document.unstamped.unstamped = document.unstamped := by
  cases document <;> simp [Document.unstamped]

@[simp] theorem Document.version?_unstamped (document : Document) :
    document.unstamped.version? = document.version? := by
  cases document <;> rfl

@[simp] theorem Document.label_unstamped (document : Document) : document.unstamped.label = document.label := by
  cases document <;> rfl

namespace Migration

/-- The report of a step; one that logs stamps is left with nothing to report. -/
def Report.unstamped (report : Report) : Report :=
  match report.log with
  | some (.stamping _) => { report with changes := false, log := none }
  | _ => report

/-- The status but for the log of the stamping and for the flag that such a log sets. -/
def Status.unstamped (status : Status) : Status := { status with changes := false, stamping := none }

/-- What a migration leads to, but for the stamps. -/
def withoutStamps (outcome : Document × Status) : Document × Status := (outcome.1.unstamped, outcome.2.unstamped)

/-- A trace whose steps report no stamps. -/
def unstampedTrace (trace : List (Span × Report)) : List (Span × Report) :=
  trace.map fun step => (step.1, step.2.unstamped)

variable {options other : Options} {document reached : Document} {source target : Version} {leg : Span}
  {report : Report} {trace : List (Span × Report)}

/-! ## Runs without stamps -/

/-- The steps in front of the stamping report no stamps. -/
theorem Raises.report_unstamped (raises : Raises options document leg report reached) (before : leg ≠ ⟨.v4_1, .v4_2⟩) :
    report.unstamped = report := by
  unfold Report.unstamped
  split
  · next log reported => exact absurd (raises.log_leg reported).symm before
  · rfl

theorem Generation.card_unstamped (c : Third.Card) : (Generation.card c).unstamped = Generation.card c := by
  simp [Generation.card, Fourth.Card.unstamped, Fourth.Scenario.unstamped, Generation.scenario,
    Fourth.Action.unstamped, Generation.action]

theorem Rescaling.card_unstamped (c : Fourth.Card) : Rescaling.card c.unstamped = (Rescaling.card c).unstamped := by
  simp [Rescaling.card, Fourth.Card.unstamped, Fourth.Scenario.unstamped, Rescaling.scenario]

theorem Rescaling.report_of_unstamped (c : Fourth.Card) : Rescaling.report c.unstamped = Rescaling.report c := by
  have entries : Rescaling.log c.unstamped = Rescaling.log c := by
    simp only [Rescaling.log, Fourth.Card.unstamped, List.map_map]
    rfl
  simp [Rescaling.report, entries]

/-- Whatever the stamp is, nothing of it is left. -/
theorem Stamping.card_unstamped (published : Option Timestamp) (c : Fourth.Card) :
    Stamping.card none c.unstamped = (Stamping.card published c).unstamped := by
  simp [Stamping.card, Fourth.Card.unstamped, Fourth.Scenario.unstamped, Stamping.scenario, Stamping.action_eq,
    Fourth.Action.unstamped]

/-- A card without stamps has none to lose, and a report without stamps says nothing. -/
theorem Stamping.report_unstamped (published : Option Timestamp) (c : Fourth.Card) :
    Stamping.report none c.unstamped = (Stamping.report published c).unstamped := by
  have bare : Stamping.log none c.unstamped = [] := by
    simp [Stamping.log, Stamping.stamped?_eq_none_iff, Fourth.Card.unstamped, Fourth.Scenario.unstamped,
      Fourth.Action.unstamped]
  cases entries : Stamping.log published c <;> simp [Stamping.report, Report.unstamped, bare, entries]

/-- Step lemma. A step without stamps is the step of a card that was never published. -/
theorem Raises.unstamped (raises : Raises options document leg report reached) :
    Raises .none document.unstamped leg report.unstamped reached.unstamped := by
  cases raises with
  | version c => exact .version c
  | generation c =>
    -- The new shape has no stamps yet, so nothing is taken out of it.
    have step : Raises .none (.v3_3 c) _ _ _ := .generation c
    simpa only [Document.unstamped, Generation.card_unstamped, step.report_unstamped (by decide)] using step
  | rescaling c =>
    have step : Raises .none (.v4_0 c.unstamped) _ _ _ := .rescaling c.unstamped
    rw [Rescaling.card_unstamped, Rescaling.report_of_unstamped] at step
    simpa only [Document.unstamped, step.report_unstamped (by decide)] using step
  | stamping c =>
    have step : Raises .none (.v4_1 c.unstamped) _ _ _ := .stamping c.unstamped
    rwa [Options.none, Stamping.card_unstamped options.lastPublished,
      Stamping.report_unstamped options.lastPublished] at step

/-- Run lemma. -/
theorem Run.unstamped (run : Run options document trace reached) :
    Run .none document.unstamped (unstampedTrace trace) reached.unstamped := by
  induction run with
  | stay document => exact .stay document.unstamped
  | step raises _ ih => exact .step raises.unstamped ih

theorem unstamped_after {one two : Status} (same : one.unstamped = two.unstamped) (leg : Span) (report : Report) :
    (one.after leg report).unstamped = (two.after leg report.unstamped).unstamped := by
  obtain ⟨changes, approval, log⟩ := report
  cases one; cases two
  simp only [Status.unstamped, Status.mk.injEq] at same
  rcases log with - | (log | log | log) <;>
    simp [Status.unstamped, Status.after, Status.enter, Report.unstamped, same]

theorem unstamped_absorbed (trace : List (Span × Report)) {one two : Status} (same : one.unstamped = two.unstamped) :
    (one.absorbed trace).unstamped = (two.absorbed (unstampedTrace trace)).unstamped := by
  induction trace generalizing one two with
  | nil => exact same
  | cons step rest ih => exact ih (unstamped_after same step.1 step.2)

theorem unstamped_ofRun (source target : Version) (trace : List (Span × Report)) :
    (Status.ofRun source target trace).unstamped = (Status.ofRun source target (unstampedTrace trace)).unstamped := by
  have folded := unstamped_absorbed trace (rfl : Status.initial.unstamped = Status.initial.unstamped)
  simp only [Status.unstamped, Status.mk.injEq] at folded
  simp [Status.unstamped, Status.ofRun, folded]

/-- Without stamps every migration is that of the unstamped document that was never published. A refusal does not
    depend on the stamps either. -/
theorem toVersion_withoutStamps (document : Document) (target : Version) (options : Options) :
    (toVersion document target options).map withoutStamps =
      (toVersion document.unstamped target .none).map withoutStamps := by
  by_cases supported : target.IsSupported
  · cases start : document.version? with
    | none =>
      have start' : document.unstamped.version? = none := by simpa using start
      rw [toVersion_unknown supported start, toVersion_unknown supported start', Document.label_unstamped]
    | some source =>
      have start' : document.unstamped.version? = some source := by simpa using start
      by_cases below : target < source
      · rw [toVersion_below supported start below, toVersion_below supported start' below]
      · obtain ⟨trace, reached, run, finish⟩ := run_exists options document start supported below
        have finish' : reached.unstamped.version? = some target := by simpa using finish
        rw [toVersion_run run start finish, toVersion_run run.unstamped start' finish']
        simp [Except.map, withoutStamps, unstamped_ofRun source target trace]
  · rw [toVersion_invalid supported, toVersion_invalid supported]

/-! ## Runs that set no stamp -/

theorem Raises.under (raises : Raises options document leg report reached) (before : leg ≠ ⟨.v4_1, .v4_2⟩) :
    Raises other document leg report reached := by
  cases raises with
  | version c => exact .version c
  | generation c => exact .generation c
  | rescaling c => exact .rescaling c
  | stamping c => exact absurd rfl before

/-- A run that does not cross the stamping is a run under any time of publication. -/
theorem Run.under (run : Run options document trace reached) (before : ∀ step ∈ trace, step.1 ≠ ⟨.v4_1, .v4_2⟩) :
    Run other document trace reached := by
  induction run with
  | stay document => exact .stay document
  | step raises _ ih =>
    have first := before _ List.mem_cons_self
    exact .step (raises.under first) (ih fun step here => before step (List.mem_cons_of_mem _ here))

/-- A migration that does not raise the document to 4.2 does not depend on the time of publication. -/
theorem toVersion_under (first second : Options)
    (short : ¬ ((∃ source, document.version? = some source ∧ source < .v4_2) ∧ target = .v4_2)) :
    toVersion document target first = toVersion document target second := by
  by_cases supported : target.IsSupported
  · cases start : document.version? with
    | none => rw [toVersion_unknown supported start, toVersion_unknown supported start]
    | some source =>
      by_cases below : target < source
      · rw [toVersion_below supported start below, toVersion_below supported start below]
      · obtain ⟨trace, reached, run, finish⟩ := run_exists first document start supported below
        -- A run that has the stamping among its steps starts below 4.2 and ends there.
        have before : ∀ step ∈ trace, step.1 ≠ ⟨.v4_1, .v4_2⟩ := by
          rintro ⟨leg, report⟩ listed rfl
          obtain ⟨lower, upper⟩ := (run.crosses_iff start finish (by decide)).mpr ⟨report, listed⟩
          have top : ∀ target ∈ Version.supported, Version.v4_2 ≤ target → target = .v4_2 := by decide
          have lowest : ∀ source ∈ Version.supported, source ≤ Version.v4_1 → source < .v4_2 := by decide
          exact short ⟨⟨source, start, lowest source (version_supported start) lower⟩, top target supported upper⟩
        rw [toVersion_run run start finish, toVersion_run (run.under before) start finish]
  · rw [toVersion_invalid supported, toVersion_invalid supported]

end Migration

open Migration

/-- Of the options a comparison sees what the migration to the version of the updated document makes of them. -/
theorem compareDocuments_congr {updated old : Document} {first second : Options}
    (same : ∀ target, updated.version? = some target →
      toVersion old target first = toVersion old target second) :
    compareDocuments updated old first = compareDocuments updated old second := by
  cases known : updated.version? with
  | none => simp [compareDocuments, known]
  | some target => cases start : old.version? <;> simp [compareDocuments, known, start, same target known]

/-- Two migrations of one document that know different times of publication are both refused, for the same reason,
    or lead to documents that differ in the stamps alone, with statuses that differ in the log of the stamping and the
    flag for changes alone. They are the same unless they raise the document to 4.2, and so are comparisons with the
    document that do not. -/
theorem publication_reaches_stamps_only (document : Document) (target : Version) (first second : Options) :
    (toVersion document target first).map withoutStamps = (toVersion document target second).map withoutStamps ∧
    (¬ ((∃ source, document.version? = some source ∧ source < .v4_2) ∧ target = .v4_2) →
      toVersion document target first = toVersion document target second) ∧
    ∀ updated : Document, updated.version? ≠ some .v4_2 ∨ document.version? = some .v4_2 →
      compareDocuments updated document first = compareDocuments updated document second := by
  refine ⟨?_, toVersion_under first second, ?_⟩
  · rw [toVersion_withoutStamps document target first, toVersion_withoutStamps document target second]
  · -- The comparison migrates to the version of the updated document, so that version takes the place of the target.
    intro updated apart
    refine compareDocuments_congr fun version known => toVersion_under first second ?_
    rintro ⟨⟨source, start, below⟩, rfl⟩
    rcases apart with other | stamped
    · exact other known
    · cases start.symm.trans stamped
      exact Version.lt_irrefl _ below

/-- The stamp is all that a migration to 4.2 takes from the opening; a migration to 4.1 and a comparison there take
    nothing. -/
theorem publication_reaches_stamps_only_warehouse :
    toVersion (.v4_0 warehouse) .v4_2 opening ≠ toVersion (.v4_0 warehouse) .v4_2 .none ∧
    (toVersion (.v4_0 warehouse) .v4_2 opening).map withoutStamps =
      (toVersion (.v4_0 warehouse) .v4_2 .none).map withoutStamps ∧
    toVersion (.v4_0 warehouse) .v4_1 opening = toVersion (.v4_0 warehouse) .v4_1 .none ∧
    compareDocuments (.v4_1 warehouse) (.v4_0 warehouse) opening =
      compareDocuments (.v4_1 warehouse) (.v4_0 warehouse) .none := by
  have stamped : toVersion (.v4_0 warehouse) .v4_2 opening = _ :=
    toVersion_run (.step (.rescaling warehouse) (.step (.stamping _) (.stay _))) rfl rfl
  have unstamped : toVersion (.v4_0 warehouse) .v4_2 .none = _ :=
    toVersion_run (.step (.rescaling warehouse) (.step (.stamping _) (.stay _))) rfl rfl
  have short : ¬ ((∃ source, (Document.v4_0 warehouse).version? = some source ∧ source < .v4_2) ∧
      Version.v4_1 = .v4_2) := fun raised => absurd raised.2 (by decide)
  have here := publication_reaches_stamps_only (.v4_0 warehouse) .v4_1 opening .none
  refine ⟨?_, (publication_reaches_stamps_only (.v4_0 warehouse) .v4_2 opening .none).1, here.2.1 short,
    here.2.2 (.v4_1 warehouse) (.inl (by decide))⟩
  rw [stamped, unstamped]
  intro same
  have documents := congrArg (fun outcome : Document × Status => outcome.1.stamps) (Except.ok.inj same)
  exact absurd documents (by decide +kernel)

end Scorecard

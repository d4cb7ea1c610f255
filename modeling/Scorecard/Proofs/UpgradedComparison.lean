import Scorecard.Proofs.SilentChanges
import Scorecard.Proofs.StagedMigration

/-!
# Comparing with a document that was upgraded before

An old document may be brought part of the way to the version of the updated one before the two are compared. The
changes stay the same, and the statuses of the upgrade and of the comparison add up to the status of comparing
with the document as it was (`compareDocuments_upgraded`).
-/

namespace Scorecard

/-- Documents of one version have changes. -/
theorem Document.exists_changes {updated old : Document} {version : Version} (known : updated.version? = some version)
    (known' : old.version? = some version) : ∃ change, updated.changes? old = some change := by
  cases updated <;> cases known <;> cases old <;> cases known' <;> exact ⟨_, rfl⟩

namespace Migration

/-- What two statuses add up to: the steps of the one and then of the other, every flag that either sets, and
    each log from the one that has it, which is never both. -/
structure Status.AddsUp (early late whole : Status) : Prop where
  appliedSteps : whole.appliedSteps = early.appliedSteps ++ late.appliedSteps
  changes : whole.changes = (early.changes || late.changes)
  requiresNewApproval : whole.requiresNewApproval = (early.requiresNewApproval || late.requiresNewApproval)
  generation : (early.generation = none ∨ late.generation = none) ∧
    whole.generation = early.generation.or late.generation
  rescaling : (early.rescaling = none ∨ late.rescaling = none) ∧ whole.rescaling = early.rescaling.or late.rescaling
  stamping : (early.stamping = none ∨ late.stamping = none) ∧ whole.stamping = early.stamping.or late.stamping

/-- Two runs that follow each other add up. -/
theorem Run.addsUp {options : Options} {document first second : Document} {source middle target : Version}
    {early late : List (Span × Report)} (lower : Run options document early first)
    (upper : Run options first late second) (start : document.version? = some source)
    (between : first.version? = some middle) (finish : second.version? = some target) :
    (Status.ofRun source middle early).AddsUp (Status.ofRun middle target late)
      (Status.ofRun source target (early ++ late)) := by
  have folded : Status.initial.absorbed (early ++ late) =
      (Status.initial.absorbed early).joined (Status.initial.absorbed late) := by
    rw [absorbed_append, absorbed_eq_joined late]
  have kept {α : Type} {kind : α → Log} {log : Option α} {logs : List Log} {a : α}
      (listed : ∀ l ∈ (log.map kind).toList, l ∈ logs) (known : log = some a) : kind a ∈ logs := by
    subst known
    exact listed _ (by simp)
  refine ⟨?_, ?_, ?_, ?_, ?_, ?_⟩
  · simp [Status.ofRun, folded, Status.joined]
  · simp [Status.ofRun, folded, Status.joined]
  · simp [Status.ofRun, folded, Status.joined]
  · exact slot_of_stages Status.generation .generation (fun _ _ known => kept (by simp [Status.logs]) known)
      (fun _ _ => rfl) (fun _ _ _ => rfl) (fun _ _ => rfl) lower upper start between finish
  · exact slot_of_stages Status.rescaling .rescaling (fun _ _ known => kept (by simp [Status.logs]) known)
      (fun _ _ => rfl) (fun _ _ _ => rfl) (fun _ _ => rfl) lower upper start between finish
  · exact slot_of_stages Status.stamping .stamping (fun _ _ known => kept (by simp [Status.logs]) known)
      (fun _ _ => rfl) (fun _ _ _ => rfl) (fun _ _ => rfl) lower upper start between finish

end Migration

open Migration

/-- How far the old document was upgraded before does not matter for the changes, and what the upgrade did adds
    up with what the comparison still has to do. -/
theorem compareDocuments_upgraded {updated old upgraded : Document} {options : Options}
    {source middle target : Version} {early : Status} (known : updated.version? = some target)
    (start : old.version? = some source) (upgrade : toVersion old middle options = .ok (upgraded, early))
    (upward : middle ≤ target) :
    ∃ change late whole, compareDocuments updated old options = .ok ⟨target, change, whole⟩ ∧
      compareDocuments updated upgraded options = .ok ⟨target, change, late⟩ ∧ early.AddsUp late whole := by
  obtain ⟨source', trace, start', between, lower, rfl⟩ := (toVersion_ok_iff ..).mp upgrade
  cases start.symm.trans start'
  obtain ⟨rest, migrated, upper, finish⟩ := run_exists options upgraded between (version_supported known) upward
  obtain ⟨change, changes⟩ := Document.exists_changes known finish
  refine ⟨change, _, _, ?_, ?_, lower.addsUp upper start between finish⟩
  · exact compareDocuments_ok known start (toVersion_run (lower.append upper) start finish) changes
  · exact compareDocuments_ok known between (toVersion_run upper between finish) changes

/-- The outage once it is over, as a card of 4.2. -/
def repaired : Fourth.Card :=
  { Stamping.card none (Rescaling.card (Generation.card outage)) with title := "Payments, repaired" }

/-- The old card is brought from 3.2 to 4.0 before. The log of the change of generation comes from there, that of the
    new scales from the comparison, and the new title is a change either way. -/
theorem compareDocuments_upgraded_repaired :
    ∃ upgraded early change late whole, toVersion (.v3_2 outage) .v4_0 .none = .ok (upgraded, early) ∧
      compareDocuments (.v4_2 repaired) (.v3_2 outage) .none = .ok ⟨.v4_2, .fourth change, whole⟩ ∧
      compareDocuments (.v4_2 repaired) upgraded .none = .ok ⟨.v4_2, .fourth change, late⟩ ∧
      change.title = some (.changed "Payments" "Payments, repaired") ∧
      early.generation.isSome ∧ late.rescaling.isSome ∧ whole.generation = early.generation ∧
      whole.rescaling = late.rescaling := by
  have upgrade : toVersion (.v3_2 outage) .v4_0 .none = _ :=
    toVersion_run (.step (.version outage) (.step (.generation outage) (.stay _))) rfl rfl
  have rest : toVersion (.v4_0 (Generation.card outage)) .v4_2 .none = _ :=
    toVersion_run (.step (.rescaling _) (.step (.stamping _) (.stay _))) rfl rfl
  have compared : compareDocuments (.v4_2 repaired) (.v4_0 (Generation.card outage)) .none = _ :=
    compareDocuments_ok rfl rfl rest rfl
  obtain ⟨change, late, whole, before, after, sum⟩ :=
    compareDocuments_upgraded (rfl : (Document.v4_2 repaired).version? = _) rfl upgrade (by decide)
  cases compared.symm.trans after
  exact ⟨_, _, _, _, whole, upgrade, before, after, rfl, by decide +kernel, by decide +kernel,
    sum.generation.2, sum.rescaling.2⟩

end Scorecard

import Scorecard.Migration
import Scorecard.Proofs.StatusFold
import Scorecard.Proofs.VersionOrder

/-!
# Runs of a migration

A step raises a document by one version (`Raises`), and a run is a chain of steps (`Run`). From every
document of a supported version a run leads to every supported version that is not lower
(`run_exists`), and the loop of the driver follows it to its end (`climb_run`). So a migration
succeeds exactly where there is a run, with the status that the reports of the run add up to
(`toVersion_ok_iff`).
-/

namespace Scorecard.Migration

variable {options : Options} {document middle reached : Document}

/-! ## Steps -/

/-- The four steps: what becomes of a document, between which versions, with which report. -/
inductive Raises (options : Options) : Document → Span → Report → Document → Prop where
  | version (c : Third.Card) : Raises options (.v3_2 c) ⟨.v3_2, .v3_3⟩ .unchanged (.v3_3 c)
  | generation (c : Third.Card) :
    Raises options (.v3_3 c) ⟨.v3_3, .v4_0⟩ (Generation.report c) (.v4_0 (Generation.card c))
  | rescaling (c : Fourth.Card) :
    Raises options (.v4_0 c) ⟨.v4_0, .v4_1⟩ (Rescaling.report c) (.v4_1 (Rescaling.card c))
  | stamping (c : Fourth.Card) :
    Raises options (.v4_1 c) ⟨.v4_1, .v4_2⟩ (Stamping.report options.lastPublished c)
      (.v4_2 (Stamping.card options.lastPublished c))

theorem Raises.source {leg : Span} {report : Report} (raises : Raises options document leg report reached) :
    document.version? = some leg.source := by
  cases raises <;> rfl

theorem Raises.target {leg : Span} {report : Report} (raises : Raises options document leg report reached) :
    reached.version? = some leg.target := by
  cases raises <;> rfl

theorem Raises.listed {leg : Span} {report : Report} (raises : Raises options document leg report reached) :
    leg ∈ ladder := by
  cases raises <;> decide

/-- The driver's step is this relation, and refuses where no step leads upward. -/
theorem nextStep_eq_ok_iff (source target : Version) (report : Report) :
    nextStep options source target document = .ok (reached, report) ↔
      ∃ leg, Raises options document leg report reached := by
  constructor
  · intro stepped
    cases document with
    | v3_2 c => cases stepped; exact ⟨_, .version c⟩
    | v3_3 c => cases stepped; exact ⟨_, .generation c⟩
    | v4_0 c => cases stepped; exact ⟨_, .rescaling c⟩
    | v4_1 c => cases stepped; exact ⟨_, .stamping c⟩
    | v4_2 | unknown => cases stepped
  · rintro ⟨leg, raises⟩
    cases raises <;> rfl

theorem version_supported {version : Version} (known : document.version? = some version) :
    version.IsSupported := by
  cases document with
  | unknown => cases known
  | v3_2 | v3_3 | v4_0 | v4_1 | v4_2 => cases known; decide

/-- Only 4.2 has no step upward. -/
theorem raises_of_lt (options : Options) {version target : Version} (known : document.version? = some version)
    (supported : target.IsSupported) (above : version < target) :
    ∃ leg report reached, Raises options document leg report reached := by
  cases document with
  | v3_2 c => exact ⟨_, _, _, .version c⟩
  | v3_3 c => exact ⟨_, _, _, .generation c⟩
  | v4_0 c => exact ⟨_, _, _, .rescaling c⟩
  | v4_1 c => exact ⟨_, _, _, .stamping c⟩
  | v4_2 c =>
    cases known
    have last : ∀ target ∈ Version.supported, ¬ Version.v4_2 < target := by decide
    exact absurd above (last target supported)
  | unknown => cases known

/-! ## Chains of steps -/

/-- A chain of steps with the report of each, the first in front. -/
inductive Run (options : Options) : Document → List (Span × Report) → Document → Prop where
  | stay (document : Document) : Run options document [] document
  | step {document middle reached : Document} {leg : Span} {report : Report} {rest : List (Span × Report)} :
    Raises options document leg report middle → Run options middle rest reached →
    Run options document ((leg, report) :: rest) reached

theorem Run.append {first second : List (Span × Report)} (lower : Run options document first middle)
    (upper : Run options middle second reached) : Run options document (first ++ second) reached := by
  induction lower with
  | stay => exact upper
  | step raises _ ih => exact .step raises (ih upper)

/-- A run never leads down. -/
theorem Run.le {trace : List (Span × Report)} (run : Run options document trace reached)
    {source target : Version} (start : document.version? = some source)
    (finish : reached.version? = some target) : source ≤ target := by
  induction run generalizing source with
  | stay =>
    have same : source = target := Option.some.inj (start.symm.trans finish)
    rw [same]
    exact Version.le_refl target
  | step raises _ ih =>
    cases raises.source.symm.trans start
    exact Version.le_trans (Version.le_of_lt (source_lt_target raises.listed)) (ih raises.target finish)

/-- A run that comes back to its version has no steps. -/
theorem Run.eq_of_version_eq {trace : List (Span × Report)} (run : Run options document trace reached)
    (same : reached.version? = document.version?) : trace = [] ∧ reached = document := by
  cases run with
  | stay => exact ⟨rfl, rfl⟩
  | @step _ middle _ leg report rest raises rest =>
    have back : leg.target ≤ leg.source := rest.le raises.target (same.trans raises.source)
    exact absurd (source_lt_target raises.listed) back

/-- The steps of a run are the legs of the way between its two versions. -/
theorem Run.legs {trace : List (Span × Report)} (run : Run options document trace reached)
    {source target : Version} (start : document.version? = some source)
    (finish : reached.version? = some target) : trace.map Prod.fst = legs source target := by
  have supported := version_supported finish
  induction run generalizing source with
  | stay =>
    have same : source = target := Option.some.inj (start.symm.trans finish)
    rw [same, legs_self supported]
    rfl
  | @step _ middle _ leg report rest raises later ih =>
    cases raises.source.symm.trans start
    have climbed := Version.lt_of_lt_of_le (source_lt_target raises.listed) (later.le raises.target finish)
    rw [legs_cons raises.listed supported climbed, List.map_cons, ih raises.target finish]

/-- From every supported version a run leads to every supported version that is not lower. -/
theorem run_exists (options : Options) (document : Document) {source target : Version}
    (start : document.version? = some source) (supported : target.IsSupported) (upward : source ≤ target) :
    ∃ trace reached, Run options document trace reached ∧ reached.version? = some target := by
  rcases (Version.le_iff_lt_or_eq source target).mp upward with below | rfl
  · obtain ⟨leg, report, middle, raises⟩ := raises_of_lt options start supported below
    have descends := stepsLeft_nextStep ((nextStep_eq_ok_iff source target report).mpr ⟨leg, raises⟩)
    cases raises.source.symm.trans start
    obtain ⟨trace, reached, run, finish⟩ := run_exists options middle raises.target supported
      (target_le_of_lt raises.listed supported below)
    exact ⟨_, reached, .step raises run, finish⟩
  · exact ⟨[], document, .stay document, start⟩
termination_by stepsLeft document

/-! ## The driver follows the run -/

/-- The status that a migration from one version to another ends with. -/
def Status.ofRun (source target : Version) (trace : List (Span × Report)) : Status :=
  { Status.initial.absorbed trace with span := if source = target then none else some ⟨source, target⟩ }

/-- The loop goes through the run and stops at its end. The induction is on the run; no document before
    the end has the target version, since versions only rise. -/
theorem climb_run {trace : List (Span × Report)} (run : Run options document trace reached)
    {source target : Version} (finish : reached.version? = some target) (status : Status) :
    climb options source target document status = .ok (reached, status.absorbed trace) := by
  induction run generalizing status with
  | stay document =>
    rw [climb]
    simp [finish, Status.absorbed]
  | @step document middle reached leg report rest raises later ih =>
    have stepped := (nextStep_eq_ok_iff source target report).mpr ⟨leg, raises⟩
    have below := Version.lt_of_lt_of_le (source_lt_target raises.listed) (later.le raises.target finish)
    rw [climb]
    simp only [raises.source, if_neg (Version.ne_of_lt below)]
    split
    · next refusal refused => cases stepped.symm.trans refused
    · next next report' found =>
      cases stepped.symm.trans found
      simp only [raises.target]
      exact ih finish _

theorem toVersion_run {trace : List (Span × Report)} (run : Run options document trace reached)
    {source target : Version} (start : document.version? = some source)
    (finish : reached.version? = some target) :
    toVersion document target options = .ok (reached, Status.ofRun source target trace) := by
  have upward := run.le start finish
  have loop : climb options source target document .initial = _ := climb_run run finish .initial
  by_cases same : source = target
  · subst same
    obtain ⟨rfl, rfl⟩ := run.eq_of_version_eq (finish.trans start.symm)
    simp [toVersion, version_supported finish, start, Status.ofRun, Status.absorbed, Status.initial]
  · have forward : ¬ target < source := upward
    simp [toVersion, version_supported finish, start, same, forward, loop, Except.map, Status.ofRun]

theorem toVersion_invalid {target : Version} (unsupported : ¬ target.IsSupported) :
    toVersion document target options = .error (.invalidTarget target.toText) := by
  simp [toVersion, unsupported]

theorem toVersion_unknown {target : Version} (supported : target.IsSupported)
    (unknown : document.version? = none) :
    toVersion document target options = .error (.unknownSource document.label) := by
  simp [toVersion, supported, unknown]

theorem toVersion_below {source target : Version} (supported : target.IsSupported)
    (start : document.version? = some source) (below : target < source) :
    toVersion document target options = .error (.unsupported source target) := by
  simp [toVersion, supported, start, (Version.ne_of_lt below).symm, below]

/-- A migration succeeds exactly where a run leads from the document to the target version. -/
theorem toVersion_ok_iff (document reached : Document) (target : Version) (options : Options) (status : Status) :
    toVersion document target options = .ok (reached, status) ↔
      ∃ source trace, document.version? = some source ∧ reached.version? = some target ∧
        Run options document trace reached ∧ status = Status.ofRun source target trace := by
  constructor
  · intro migrated
    by_cases supported : target.IsSupported
    · cases start : document.version? with
      | none => cases (toVersion_unknown supported start).symm.trans migrated
      | some source =>
        by_cases below : target < source
        · cases (toVersion_below supported start below).symm.trans migrated
        · obtain ⟨trace, final, run, finish⟩ := run_exists options document start supported below
          cases (toVersion_run run start finish).symm.trans migrated
          exact ⟨source, trace, rfl, finish, run, rfl⟩
    · cases (toVersion_invalid supported).symm.trans migrated
  · rintro ⟨source, trace, start, finish, run, rfl⟩
    exact toVersion_run run start finish

end Scorecard.Migration

import Scorecard.Proofs.MigrationRun

/-!
# The outcome of a migration

Which of its answers a migration gives is decided by the target, the version of the document and
their order alone (`migration_outcome`). The refusals inside the loop and inside its step are there
for documents that the loop never holds: every document it holds has a supported version up to the
target, and below the target the step goes through (`held_version`, `held_step`).
-/

namespace Scorecard.Migration

variable {options : Options} {document held : Document} {source target : Version}

/-- The documents that the loop holds, one after the other, while it has not reached the target. -/
inductive Held (options : Options) (source target : Version) (document : Document) : Document → Prop where
  | start : Held options source target document document
  | next {held raised : Document} {lower : Version} {report : Report} :
    Held options source target document held → held.version? = some lower → lower ≠ target →
    nextStep options source target held = .ok (raised, report) →
    Held options source target document raised

/-- Invariant of the loop: the version never passes the target. -/
theorem held_version (start : document.version? = some source) (supported : target.IsSupported)
    (upward : source ≤ target) (holds : Held options source target document held) :
    ∃ version, held.version? = some version ∧ version ≤ target := by
  induction holds with
  | start => exact ⟨source, start, upward⟩
  | next _ known other stepped ih =>
    obtain ⟨version, reached, below⟩ := ih
    obtain ⟨leg, raises⟩ := (nextStep_eq_ok_iff ..).mp stepped
    cases raises.source.symm.trans known
    cases raises.source.symm.trans reached
    have strict : leg.source < target := by
      rcases (Version.le_iff_lt_or_eq leg.source target).mp below with less | same
      · exact less
      · exact absurd same other
    exact ⟨leg.target, raises.target, target_le_of_lt raises.listed supported strict⟩

/-- Wherever the loop goes on, the step succeeds and leads to a document with a version. -/
theorem held_step (start : document.version? = some source) (supported : target.IsSupported)
    (upward : source ≤ target) (holds : Held options source target document held)
    (short : held.version? ≠ some target) :
    ∃ raised report upper, nextStep options source target held = .ok (raised, report) ∧
      raised.version? = some upper := by
  obtain ⟨version, known, below⟩ := held_version start supported upward holds
  rcases (Version.le_iff_lt_or_eq version target).mp below with less | rfl
  · obtain ⟨leg, report, raised, raises⟩ := raises_of_lt options known supported less
    exact ⟨raised, report, leg.target, (nextStep_eq_ok_iff ..).mpr ⟨leg, raises⟩, raises.target⟩
  · exact absurd known short

theorem toVersion_self (supported : target.IsSupported) (start : document.version? = some target) :
    toVersion document target options = .ok (document, .initial) := by
  simp [toVersion, supported, start]

/-- Upward the migration arrives, with every leg of the way applied once and in order. -/
theorem toVersion_above (supported : target.IsSupported) (start : document.version? = some source)
    (above : source < target) :
    ∃ reached status, toVersion document target options = .ok (reached, status) ∧
      reached.version? = some target ∧ status.span = some ⟨source, target⟩ ∧
      status.appliedSteps = legs source target := by
  obtain ⟨trace, reached, run, finish⟩ := run_exists options document start supported (Version.le_of_lt above)
  refine ⟨reached, _, toVersion_run run start finish, finish, ?_, ?_⟩
  · simp [Status.ofRun, Version.ne_of_lt above]
  · simp [Status.ofRun, absorbed_appliedSteps, run.legs start finish, Status.initial]

theorem toNamedVersion_supported {text : String} (parsed : Version.parse? text = some target)
    (supported : target.IsSupported) :
    toNamedVersion document text options = toVersion document target options := by
  simp [toNamedVersion, parsed, Option.filter, supported]

theorem toNamedVersion_invalid {text : String}
    (unsupported : ∀ version, Version.parse? text = some version → ¬ version.IsSupported) :
    toNamedVersion document text options = .error (.invalidTarget text) := by
  cases parsed : Version.parse? text with
  | none => simp [toNamedVersion, parsed]
  | some version => simp [toNamedVersion, parsed, Option.filter, unsupported version parsed]

/-- The complete table of outcomes. A target without a record shape is refused first, then a document
    without a version, then a way down; everything else succeeds. A target given as a text is
    refused with the text as it stands. -/
theorem migration_outcome (document : Document) (options : Options) :
    (∀ target : Version, ¬ target.IsSupported →
      toVersion document target options = .error (.invalidTarget target.toText)) ∧
    (∀ target : Version, target.IsSupported → document.version? = none →
      toVersion document target options = .error (.unknownSource document.label)) ∧
    (∀ source target : Version, target.IsSupported → document.version? = some source →
      (toVersion document target options = .error (.unsupported source target) ↔ target < source) ∧
      (target = source → toVersion document target options = .ok (document, .initial)) ∧
      (source < target →
        (∃ reached status, toVersion document target options = .ok (reached, status) ∧
          reached.version? = some target ∧ status.span = some ⟨source, target⟩ ∧
          status.appliedSteps = legs source target) ∧
        ∀ held, Held options source target document held → held.version? ≠ some target →
          ∃ raised report upper, nextStep options source target held = .ok (raised, report) ∧
            raised.version? = some upper)) ∧
    (∀ text version, Version.parse? text = some version → version.IsSupported →
      toNamedVersion document text options = toVersion document version options) ∧
    (∀ text, (∀ version, Version.parse? text = some version → ¬ version.IsSupported) →
      toNamedVersion document text options = .error (.invalidTarget text)) := by
  refine ⟨fun target => toVersion_invalid, fun target => toVersion_unknown, ?_,
    fun text version => toNamedVersion_supported, fun text => toNamedVersion_invalid⟩
  intro source target supported start
  refine ⟨⟨?_, toVersion_below supported start⟩, ?_, ?_⟩
  · intro refused
    by_cases below : target < source
    · exact below
    · obtain ⟨trace, reached, run, finish⟩ := run_exists options document start supported below
      cases (toVersion_run run start finish).symm.trans refused
  · rintro rfl
    exact toVersion_self supported start
  · intro above
    exact ⟨toVersion_above supported start above,
      fun held holds short => held_step start supported (Version.le_of_lt above) holds short⟩

/-- Every case of the table: no such target, an unknown document, down, nowhere, three steps up, the same
    target as a text, and a text that is no version. -/
theorem migration_outcome_each_case :
    toVersion (.v3_3 ⟨"Payments", "", [], []⟩) ⟨9, 9⟩ .none = .error (.invalidTarget "9.9") ∧
      toVersion (.unknown (some "9.9") .null) .v4_2 .none = .error (.unknownSource "9.9") ∧
      toVersion (.v3_3 ⟨"Payments", "", [], []⟩) .v3_2 .none = .error (.unsupported .v3_3 .v3_2) ∧
      toVersion (.v3_3 ⟨"Payments", "", [], []⟩) .v3_3 .none =
        .ok (.v3_3 ⟨"Payments", "", [], []⟩, .initial) ∧
      (∃ reached status,
        toVersion (.v3_3 ⟨"Payments", "", [], []⟩) .v4_2 .none = .ok (reached, status) ∧
        reached.version? = some .v4_2 ∧ status.span = some ⟨.v3_3, .v4_2⟩ ∧
        status.appliedSteps = [⟨.v3_3, .v4_0⟩, ⟨.v4_0, .v4_1⟩, ⟨.v4_1, .v4_2⟩]) ∧
      toNamedVersion (.v3_3 ⟨"Payments", "", [], []⟩) "4.2" .none =
        toVersion (.v3_3 ⟨"Payments", "", [], []⟩) .v4_2 .none ∧
      toNamedVersion (.v3_3 ⟨"Payments", "", [], []⟩) "latest" .none = .error (.invalidTarget "latest") := by
  obtain ⟨invalid, -, known, named, unnamed⟩ := migration_outcome (.v3_3 ⟨"Payments", "", [], []⟩) .none
  have unknown := (migration_outcome (.unknown (some "9.9") .null) .none).2.1 .v4_2 (by decide) rfl
  have down := (known .v3_3 .v3_2 (by decide) rfl).1.mpr (by decide)
  have self := (known .v3_3 .v3_3 (by decide) rfl).2.1 rfl
  obtain ⟨reached, status, migrated, finish, span, steps⟩ := ((known .v3_3 .v4_2 (by decide) rfl).2.2 (by decide)).1
  have way : legs .v3_3 .v4_2 = [⟨.v3_3, .v4_0⟩, ⟨.v4_0, .v4_1⟩, ⟨.v4_1, .v4_2⟩] := by decide
  refine ⟨invalid ⟨9, 9⟩ (by decide), unknown, down, self, ?_, ?_, ?_⟩
  · exact ⟨reached, status, migrated, finish, span, steps.trans way⟩
  · exact named "4.2" .v4_2 (by decide +kernel) (by decide)
  · exact unnamed "latest" (by decide +kernel)

end Scorecard.Migration

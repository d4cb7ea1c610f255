import Scorecard.Proofs.UpgradedComparison

/-!
# The outcome of a comparison

Whether two documents are compared is decided by their versions alone (`comparison_outcome`). A comparison takes the
card of the migrated document in the generation of the updated one and has an answer ready for where it is not
there. It always is: a migration that succeeds ends at the version of the updated document, and documents of one
version have one generation (`changesIn_version`).
-/

namespace Scorecard

open Migration

variable {updated old : Document} {options : Options} {source target : Version}

/-- The changes from one document to another under a version: those between their cards, by the comparison of the
    version's generation. -/
inductive ChangesIn (updated old : Document) : Version → CardChanges → Prop where
  | third {version : Version} {before after : Third.Card} : version = .v3_2 ∨ version = .v3_3 →
    old.record? = some (.third before) → updated.record? = some (.third after) →
    ChangesIn updated old version (.third (before.changes after))
  | fourth {version : Version} {before after : Fourth.Card} : version = .v4_0 ∨ version = .v4_1 ∨ version = .v4_2 →
    old.record? = some (.fourth before) → updated.record? = some (.fourth after) →
    ChangesIn updated old version (.fourth (before.changes after))

/-- Documents of one version have changes under that version. -/
theorem changesIn_version {version : Version} (known : updated.version? = some version)
    (known' : old.version? = some version) :
    ∃ change, updated.changes? old = some change ∧ ChangesIn updated old version change := by
  cases updated with
  | v3_2 after | v3_3 after =>
    cases known
    cases old <;> cases known'
    exact ⟨_, rfl, .third (by decide) rfl rfl⟩
  | v4_0 after | v4_1 after | v4_2 after =>
    cases known
    cases old <;> cases known'
    exact ⟨_, rfl, .fourth (by decide) rfl rfl⟩
  | unknown => cases known

theorem compareDocuments_unknown (unknown : updated.isUnknown = true ∨ old.isUnknown = true) :
    compareDocuments updated old options = .error (.unsupported updated.label old.label) := by
  simp only [Document.isUnknown, Option.isNone_iff_eq_none] at unknown
  unfold compareDocuments
  split
  · next target source known known' =>
    rcases unknown with none | none
    · cases none.symm.trans known
    · cases none.symm.trans known'
  · rfl

theorem compareDocuments_below (known : updated.version? = some target) (known' : old.version? = some source)
    (below : target < source) :
    compareDocuments updated old options = .error (.migration (.unsupported source target)) := by
  have refused : toVersion old target options = .error (.unsupported source target) :=
    toVersion_below (version_supported known) known' below
  simp [compareDocuments, known, known', refused]

theorem compareDocuments_above (known : updated.version? = some target) (known' : old.version? = some source)
    (upward : source ≤ target) :
    ∃ migrated status change, toVersion old target options = .ok (migrated, status) ∧
      ChangesIn updated migrated target change ∧
      compareDocuments updated old options = .ok ⟨target, change, status⟩ := by
  obtain ⟨trace, migrated, run, finish⟩ := run_exists options old known' (version_supported known) upward
  obtain ⟨change, changes, inVersion⟩ := changesIn_version known finish
  have migration := toVersion_run run known' finish
  exact ⟨migrated, _, change, migration, inVersion, compareDocuments_ok known known' migration changes⟩

/-- The complete table of outcomes. A document without a version is refused first, then a way down; everything else
    is compared, with the status of the migration and the changes of the generation. A migration never ends where
    there are no changes. -/
theorem comparison_outcome (updated old : Document) (options : Options) :
    (compareDocuments updated old options = .error (.unsupported updated.label old.label) ↔
      updated.isUnknown = true ∨ old.isUnknown = true) ∧
    ∀ source target, old.version? = some source → updated.version? = some target →
      (compareDocuments updated old options = .error (.migration (.unsupported source target)) ↔ target < source) ∧
      (¬ target < source → ∃ migrated status change, toVersion old target options = .ok (migrated, status) ∧
        ChangesIn updated migrated target change ∧
        compareDocuments updated old options = .ok ⟨target, change, status⟩) ∧
      ∀ migrated status, toVersion old target options = .ok (migrated, status) → updated.changes? migrated ≠ none := by
  refine ⟨⟨?_, compareDocuments_unknown⟩, ?_⟩
  · intro refused
    simp only [Document.isUnknown, Option.isNone_iff_eq_none]
    cases known : updated.version? with
    | none => exact .inl rfl
    | some target =>
      cases known' : old.version? with
      | none => exact .inr rfl
      | some source =>
        by_cases below : target < source
        · cases (compareDocuments_below known known' below).symm.trans refused
        · obtain ⟨migrated, status, change, -, -, compared⟩ := compareDocuments_above known known' below
          cases compared.symm.trans refused
  · intro source target known' known
    refine ⟨⟨?_, compareDocuments_below known known'⟩, compareDocuments_above known known', ?_⟩
    · intro refused
      by_cases below : target < source
      · exact below
      · obtain ⟨migrated, status, change, -, -, compared⟩ := compareDocuments_above known known' below
        cases compared.symm.trans refused
    · intro migrated status migration
      obtain ⟨-, -, -, finish, -⟩ := (toVersion_ok_iff ..).mp migration
      obtain ⟨change, changes, -⟩ := changesIn_version known finish
      rw [changes]
      nofun

/-- There is no comparison with a document of a version to come and none with one of a higher version; the outage is
    first brought up by two steps. -/
theorem comparison_outcome_repaired :
    compareDocuments (.v4_2 repaired) (.unknown (some "5.0") .null) .none = .error (.unsupported "4.2" "5.0") ∧
      compareDocuments (.v4_1 repaired) (.v4_2 repaired) .none = .error (.migration (.unsupported .v4_2 .v4_1)) ∧
      ∃ migrated status change, toVersion (.v3_3 outage) .v4_1 .none = .ok (.v4_1 migrated, status) ∧
        compareDocuments (.v4_1 repaired) (.v3_3 outage) .none = .ok ⟨.v4_1, .fourth change, status⟩ ∧
        change = migrated.changes repaired ∧ change.title = some (.changed "Payments" "Payments, repaired") := by
  refine ⟨(comparison_outcome (.v4_2 repaired) (.unknown (some "5.0") .null) .none).1.mpr (.inr rfl), ?_, ?_⟩
  · exact ((comparison_outcome (.v4_1 repaired) (.v4_2 repaired) .none).2 .v4_2 .v4_1 rfl rfl).1.mpr (by decide)
  · have arrives : toVersion (.v3_3 outage) .v4_1 .none = _ :=
      toVersion_run (.step (.generation _) (.step (.rescaling _) (.stay _))) rfl rfl
    obtain ⟨migrated, status, change, migration, inVersion, compared⟩ :=
      ((comparison_outcome (.v4_1 repaired) (.v3_3 outage) .none).2 .v3_3 .v4_1 rfl rfl).2.1 (by decide)
    cases arrives.symm.trans migration
    cases inVersion with
    | third generation => exact absurd generation (by decide)
    | fourth _ before after =>
      cases before
      cases after
      exact ⟨_, _, _, arrives, compared, rfl, rfl⟩

end Scorecard

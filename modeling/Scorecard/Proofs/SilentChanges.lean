import Scorecard.Comparison
import Scorecard.Proofs.CarriedData
import Scorecard.Proofs.Estimates
import Scorecard.Proofs.MarkedLists

/-!
# Changes of nothing

A record compared with itself is silent: no field is marked as changed, and no member of a list is
reported, however often its id or value occurs (`changes_self`). What a migration rewrites is in both
sides of a comparison, so comparing a migrated document with the one that it came from is silent too
(`compareDocuments_migrated`).
-/

namespace Scorecard

/-! ## Fields and lists -/

/-- The marker of a field that did not change, where such markers are reported. -/
def Emission.silence {α : Type} (emission : Emission) (value : α) : Option (PlainMarker α) :=
  match emission with
  | .always => some (.unchanged value)
  | .omitUnchanged => none

theorem Emission.marker_self {α : Type} [BEq α] [ReflBEq α] (emission : Emission) (value : α) :
    emission.marker? value value = emission.silence value := by
  cases emission <;> simp [Emission.marker?, Emission.silence, PlainMarker.between]

theorem valueMarkers_self {α : Type} [BEq α] [LawfulBEq α] (xs : List α) : valueMarkers xs xs = [] :=
  (valueMarkers_eq_nil_iff xs xs).mpr fun _ => Iff.rfl

theorem memberMarkers_self {α γ : Type} [HasId α] [BEq α] {xs : List α} {content : α → α → γ}
    (reflexive : ∀ x ∈ xs, (x == x) = true) : memberMarkers xs xs content = [] := by
  have nowhere : deletions xs xs = [] := by
    rw [List.eq_nil_iff_forall_not_mem]
    intro x lost
    obtain ⟨here, missing⟩ := (mem_deletions xs xs x).mp lost
    cases here.symm.trans missing
  have unaltered : alterations xs xs = [] := by
    rw [List.eq_nil_iff_forall_not_mem]
    rintro ⟨o, x⟩ altered
    obtain ⟨here, there, differs⟩ := (mem_alterations xs xs o x).mp altered
    cases here.symm.trans there
    have same := reflexive o (List.mem_of_find?_eq_some here)
    cases same.symm.trans differs
  simp [memberMarkers_groups, nowhere, unaltered, additions]

/-! ## Records -/

/-- The changes of a card against itself: in the third generation title and scope are reported as
    unchanged, in the fourth not at all. -/
def Record.silence : Record → CardChanges
  | .third c => .third ⟨some (.unchanged c.title), some (.unchanged c.scope), [], []⟩
  | .fourth _ => .fourth ⟨none, none, [], []⟩

theorem Third.changes_self {c : Third.Card} (numeric : (Document.v3_3 c).IsNumeric) :
    .third (c.changes c) = (Record.third c).silence := by
  have scenarios : memberMarkers c.scenarios c.scenarios Third.Scenario.changes = [] :=
    memberMarkers_self fun s here => Third.Scenario.beq_self (Third.of_risks numeric here)
  rw [Third.Card.changes, Emission.marker_self, Emission.marker_self, valueMarkers_self, scenarios]
  rfl

theorem Fourth.changes_self {c : Fourth.Card} (numeric : (Document.v4_0 c).IsNumeric) :
    .fourth (c.changes c) = (Record.fourth c).silence := by
  have scenarios : memberMarkers c.scenarios c.scenarios Fourth.Scenario.changes = [] :=
    memberMarkers_self fun s here => Fourth.Scenario.beq_self (Fourth.of_risks numeric here)
  rw [Fourth.Card.changes, Emission.marker_self, Emission.marker_self, valueMarkers_self, scenarios]
  rfl

/-- A document with a version compared with itself is silent. -/
theorem Document.changes_self {d : Document} {record : Record} (known : d.record? = some record)
    (numeric : d.IsNumeric) : d.changes? d = some record.silence := by
  cases d with
  | v3_2 c | v3_3 c =>
    cases known
    exact congrArg some (Third.changes_self numeric)
  | v4_0 c | v4_1 c | v4_2 c =>
    cases known
    exact congrArg some (Fourth.changes_self numeric)
  | unknown => cases known

/-! ## Comparisons -/

/-- Two documents with versions, the old one not the higher, are compared by migrating the old one. -/
theorem compareDocuments_ok {updated old migrated : Document} {options : Migration.Options} {source target : Version}
    {status : Migration.Status} {change : CardChanges} (known : updated.version? = some target)
    (known' : old.version? = some source)
    (migration : Migration.toVersion old target options = .ok (migrated, status))
    (changes : updated.changes? migrated = some change) :
    compareDocuments updated old options = .ok ⟨target, change, status⟩ := by
  simp [compareDocuments, known, known', migration, changes]

open Migration in
/-- What a migration did is no change. The migrated document and the one that it came from compare as equal,
    and the status of the comparison is that of the migration; at the document's own version the
    document is compared with itself and the status says nothing. -/
theorem compareDocuments_migrated {document : Document} (options : Options) {source target : Version}
    (start : document.version? = some source) (supported : target.IsSupported) (upward : source ≤ target)
    (numeric : document.IsNumeric) :
    ∃ reached status record, toVersion document target options = .ok (reached, status) ∧
      reached.record? = some record ∧
      compareDocuments reached document options = .ok ⟨target, record.silence, status⟩ ∧
      record.silence.added = 0 ∧ record.silence.changed = 0 ∧ record.silence.deleted = 0 ∧
      (target = source → reached = document ∧ status = .initial) := by
  obtain ⟨trace, reached, run, finish⟩ := run_exists options document start supported upward
  obtain ⟨old, record, -, arrived, -⟩ := run.carries start finish
  have migrated := toVersion_run run start finish
  have silent := Document.changes_self arrived (run.isNumeric numeric)
  refine ⟨reached, _, record, migrated, arrived, compareDocuments_ok finish start migrated silent, ?_⟩
  refine ⟨by cases record <;> rfl, by cases record <;> rfl, by cases record <;> rfl, ?_⟩
  rintro rfl
  obtain ⟨rfl, rfl⟩ := run.eq_of_version_eq (finish.trans start.symm)
  exact ⟨rfl, by simp [Status.ofRun, Status.absorbed, Status.initial]⟩

/-- A card in which an asset, a scenario and so its id stand twice. -/
def doubled : Third.Card :=
  { Migration.breach with
    valuations := Migration.breach.valuations ++ Migration.breach.valuations
    scenarios := Migration.breach.scenarios ++ Migration.breach.scenarios }

/-- Three steps rewrite the scope, the vulnerabilities, the numbers and the stamps of the card, and none of
    it is a change. -/
theorem compareDocuments_migrated_doubled :
    ∃ reached status, Migration.toVersion (.v3_3 doubled) .v4_2 .none = .ok (reached, status) ∧
      compareDocuments reached (.v3_3 doubled) .none = .ok ⟨.v4_2, .fourth ⟨none, none, [], []⟩, status⟩ := by
  have numeric : (Document.v3_3 doubled).IsNumeric := by decide +kernel
  have arrives : Migration.toVersion (.v3_3 doubled) .v4_2 .none = _ :=
    Migration.toVersion_run (.step (.generation _) (.step (.rescaling _) (.step (.stamping _) (.stay _)))) rfl rfl
  obtain ⟨reached, status, record, migrated, known, compared, -⟩ :=
    compareDocuments_migrated .none (rfl : (Document.v3_3 doubled).version? = _) (by decide : Version.v4_2.IsSupported)
      (by decide) numeric
  cases arrives.symm.trans migrated
  cases known
  exact ⟨_, _, arrives, compared⟩

end Scorecard

import Scorecard.Proofs.ComparisonOutcome
import Scorecard.Proofs.LosslessChanges
import Scorecard.Proofs.MirroredChanges

/-!
# What a tree of changes shows

Every marker of a comparison is tied to the two records that it compares: a changed field shows two different values,
the one of the old member and the one of the new member with its id, and an unchanged one stands for equal values.
The third generation shows every plain field, the fourth only those that changed, and either shows both numbers of
every risk. `Card.shows` says so for cards of a generation, down to the fields of actions, and `compareDocuments_shows`
for every comparison that succeeds.
-/

namespace Scorecard

variable {α γ : Type}

/-! ## Fields -/

section Fields

variable [BEq α]

/-- A marker stands for two values: unchanged if they are equal, changed from the one to the other if not. -/
inductive PlainMarker.StandsFor (old new : α) : PlainMarker α → Prop where
  | unchanged : (old == new) = true → StandsFor old new (.unchanged new)
  | changed : (old == new) = false → StandsFor old new (.changed old new)

/-- A field that is there whether it changed or not. -/
def Shown (old new : α) (field : Option (PlainMarker α)) : Prop :=
  ∃ m, field = some m ∧ PlainMarker.StandsFor old new m

/-- A field that is there only if it changed, and so never as unchanged. -/
def ShownIfChanged (old new : α) (field : Option (PlainMarker α)) : Prop :=
  ((old == new) = true ∧ field = none) ∨ ((old == new) = false ∧ field = some (.changed old new))

theorem between_standsFor (old new : α) : PlainMarker.StandsFor old new (.between old new) := by
  unfold PlainMarker.between
  split
  · next same => exact .unchanged same
  · next differs => exact .changed (by simpa using differs)

theorem always_shown (old new : α) : Shown old new (Emission.always.marker? old new) :=
  ⟨_, rfl, between_standsFor old new⟩

theorem omitUnchanged_shown (old new : α) : ShownIfChanged old new (Emission.omitUnchanged.marker? old new) := by
  cases same : old == new with
  | true => exact .inl ⟨same, by simp [Emission.marker?, same]⟩
  | false => exact .inr ⟨same, by simp [Emission.marker?, PlainMarker.between, same]⟩

end Fields

/-! ## Lists -/

/-- Markers of plain values: each is deleted from the old list or added by the new one. -/
def ShownValues (old new : List α) (ms : List (PlainMarker α)) : Prop :=
  ∀ m ∈ ms, (∃ v ∈ old, v ∉ new ∧ m = .deleted v) ∨ ∃ v ∈ new, v ∉ old ∧ m = .added v

/-- Markers of identified members: deletions from the old list, then changes, then additions by the new one. The
    changes with an id are those between the first members with it, which differ. -/
def ShownMembers [BEq α] [HasId α] [HasId γ] (nested : α → α → γ → Prop) (old new : List α)
    (ms : List (Marker α γ)) : Prop :=
  Grouped old new (fun changed => ∀ c ∈ changed, ∃ o x, firstWithId (HasId.id c) old = some o ∧
    firstWithId (HasId.id c) new = some x ∧ (o == x) = false ∧ nested o x c) ms

theorem valueMarkers_shown [BEq α] [LawfulBEq α] (old new : List α) : ShownValues old new (valueMarkers old new) :=
  fun m marked => (mem_valueMarkers old new m).mp marked

theorem memberMarkers_shown [BEq α] [HasId α] [HasId γ] {nested : α → α → γ → Prop} (content : α → α → γ)
    (ids : ∀ o x, HasId.id (content o x) = HasId.id x) (each : ∀ o x, nested o x (content o x)) (old new : List α) :
    ShownMembers nested old new (memberMarkers old new content) := by
  refine ⟨deletions old new, nestedChanges content old new, deletions new old, memberMarkers_eq content old new,
    deletions_sublist old new, ?_, deletions_sublist new old⟩
  intro c changed
  obtain ⟨⟨o, x⟩, altered, rfl⟩ := List.mem_map.mp changed
  obtain ⟨first, found, differs⟩ := (mem_alterations old new o x).mp altered
  rw [ids]
  exact ⟨o, x, found, first, differs, each o x⟩

/-! ## Risks -/

/-- The summary is there only if it changed, the two numbers in any case. -/
structure RiskChanges.Shows (old new : Risk) (c : RiskChanges) : Prop where
  summary : ShownIfChanged old.summary new.summary c.summary
  probability : PlainMarker.StandsFor old.probability new.probability c.probability
  consequence : PlainMarker.StandsFor old.consequence new.consequence c.consequence

/-- A risk is always marked by its nested changes. -/
def ShownRisk (old new : Risk) (m : Marker Risk RiskChanges) : Prop := ∃ c, m = .contentChanged c ∧ c.Shows old new

theorem Risk.marker_shown (old new : Risk) : ShownRisk old new (old.marker new) :=
  ⟨_, rfl, omitUnchanged_shown _ _, between_standsFor _ _, between_standsFor _ _⟩

/-! ## The third generation -/

namespace Third

structure ActionChanges.Shows (old new : Action) (c : ActionChanges) : Prop where
  id : c.id = new.id
  title : Shown old.title new.title c.title
  description : Shown old.description new.description c.description
  url : Shown old.url new.url c.url
  status : Shown old.status new.status c.status
  owner : Shown old.owner new.owner c.owner
  deadline : Shown old.deadline new.deadline c.deadline

structure ScenarioChanges.Shows (old new : Scenario) (c : ScenarioChanges) : Prop where
  id : c.id = new.id
  title : Shown old.title new.title c.title
  description : Shown old.description new.description c.description
  url : Shown old.url new.url c.url
  threatActors : ShownValues old.threatActors new.threatActors c.threatActors
  vulnerabilities : ShownValues old.vulnerabilities new.vulnerabilities c.vulnerabilities
  risk : ShownRisk old.risk new.risk c.risk
  remainingRisk : ShownRisk old.remainingRisk new.remainingRisk c.remainingRisk
  existingActions : Shown old.existingActions new.existingActions c.existingActions
  actions : ShownMembers (fun o x => ActionChanges.Shows o x) old.actions new.actions c.actions

structure CardChanges.Shows (old new : Card) (c : CardChanges) : Prop where
  title : Shown old.title new.title c.title
  scope : Shown old.scope new.scope c.scope
  valuations : ShownValues old.valuations new.valuations c.valuations
  scenarios : ShownMembers (fun o x => ScenarioChanges.Shows o x) old.scenarios new.scenarios c.scenarios

theorem Action.shows (old new : Action) : (old.changes new).Shows old new where
  id := rfl
  title := always_shown _ _
  description := always_shown _ _
  url := always_shown _ _
  status := always_shown _ _
  owner := always_shown _ _
  deadline := always_shown _ _

theorem Scenario.shows (old new : Scenario) : (old.changes new).Shows old new where
  id := rfl
  title := always_shown _ _
  description := always_shown _ _
  url := always_shown _ _
  threatActors := valueMarkers_shown _ _
  vulnerabilities := valueMarkers_shown _ _
  risk := Risk.marker_shown _ _
  remainingRisk := Risk.marker_shown _ _
  existingActions := always_shown _ _
  actions := memberMarkers_shown Action.changes (fun _ _ => rfl) Action.shows _ _

theorem Card.shows (old new : Card) : (old.changes new).Shows old new where
  title := always_shown _ _
  scope := always_shown _ _
  valuations := valueMarkers_shown _ _
  scenarios := memberMarkers_shown Scenario.changes (fun _ _ => rfl) Scenario.shows _ _

end Third

/-! ## The fourth generation -/

namespace Fourth

structure ActionChanges.Shows (old new : Action) (c : ActionChanges) : Prop where
  id : c.id = new.id
  title : ShownIfChanged old.title new.title c.title
  description : ShownIfChanged old.description new.description c.description
  url : ShownIfChanged old.url new.url c.url
  status : ShownIfChanged old.status new.status c.status
  lastUpdated : ShownIfChanged old.lastUpdated new.lastUpdated c.lastUpdated

structure ScenarioChanges.Shows (old new : Scenario) (c : ScenarioChanges) : Prop where
  id : c.id = new.id
  title : ShownIfChanged old.title new.title c.title
  description : ShownIfChanged old.description new.description c.description
  url : ShownIfChanged old.url new.url c.url
  threatActors : ShownValues old.threatActors new.threatActors c.threatActors
  vulnerabilities : ShownValues old.vulnerabilities new.vulnerabilities c.vulnerabilities
  risk : ShownRisk old.risk new.risk c.risk
  remainingRisk : ShownRisk old.remainingRisk new.remainingRisk c.remainingRisk
  actions : ShownMembers (fun o x => ActionChanges.Shows o x) old.actions new.actions c.actions

structure CardChanges.Shows (old new : Card) (c : CardChanges) : Prop where
  title : ShownIfChanged old.title new.title c.title
  scope : ShownIfChanged old.scope new.scope c.scope
  valuations : ShownValues old.valuations new.valuations c.valuations
  scenarios : ShownMembers (fun o x => ScenarioChanges.Shows o x) old.scenarios new.scenarios c.scenarios

theorem Action.shows (old new : Action) : (old.changes new).Shows old new where
  id := rfl
  title := omitUnchanged_shown _ _
  description := omitUnchanged_shown _ _
  url := omitUnchanged_shown _ _
  status := omitUnchanged_shown _ _
  lastUpdated := omitUnchanged_shown _ _

theorem Scenario.shows (old new : Scenario) : (old.changes new).Shows old new where
  id := rfl
  title := omitUnchanged_shown _ _
  description := omitUnchanged_shown _ _
  url := omitUnchanged_shown _ _
  threatActors := valueMarkers_shown _ _
  vulnerabilities := valueMarkers_shown _ _
  risk := Risk.marker_shown _ _
  remainingRisk := Risk.marker_shown _ _
  actions := memberMarkers_shown Action.changes (fun _ _ => rfl) Action.shows _ _

theorem Card.shows (old new : Card) : (old.changes new).Shows old new where
  title := omitUnchanged_shown _ _
  scope := omitUnchanged_shown _ _
  valuations := valueMarkers_shown _ _
  scenarios := memberMarkers_shown Scenario.changes (fun _ _ => rfl) Scenario.shows _ _

end Fourth

/-! ## Comparisons -/

open Migration

/-- The changes are those between the cards of two documents, under the rules of their generation. -/
inductive CardChanges.Shows (old new : Document) : CardChanges → Prop where
  | third {before after : Third.Card} {change : Third.CardChanges} : old.record? = some (.third before) →
    new.record? = some (.third after) → change.Shows before after → Shows old new (.third change)
  | fourth {before after : Fourth.Card} {change : Fourth.CardChanges} : old.record? = some (.fourth before) →
    new.record? = some (.fourth after) → change.Shows before after → Shows old new (.fourth change)

theorem ChangesIn.shows {updated old : Document} {version : Version} {change : CardChanges}
    (changes : ChangesIn updated old version change) : change.Shows old updated := by
  cases changes with
  | third _ before after => exact .third before after (Third.Card.shows _ _)
  | fourth _ before after => exact .fourth before after (Fourth.Card.shows _ _)

/-- Every comparison that succeeds shows the migrated old document and the updated one, at every depth and under the
    rules of the generation of the updated one. -/
theorem compareDocuments_shows {updated old : Document} {options : Options} {result : Comparison}
    (compared : compareDocuments updated old options = .ok result) :
    ∃ migrated, toVersion old result.version options = .ok (migrated, result.migration) ∧
      updated.version? = some result.version ∧ result.change.Shows migrated updated := by
  -- Both refusals are ruled out: the versions are known, and the old one is not above the other.
  have known : ¬ (updated.isUnknown = true ∨ old.isUnknown = true) := by
    intro unknown
    cases (compareDocuments_unknown unknown).symm.trans compared
  simp only [Document.isUnknown, Option.isNone_iff_eq_none, not_or, Option.ne_none_iff_exists', ← ne_eq] at known
  obtain ⟨⟨target, known⟩, source, known'⟩ := known
  by_cases below : target < source
  · cases (compareDocuments_below known known' below).symm.trans compared
  · obtain ⟨migrated, status, change, migration, changes, succeeded⟩ := compareDocuments_above known known' below
    cases succeeded.symm.trans compared
    exact ⟨migrated, migration, known, changes.shows⟩

/-- The depot is brought up by one step and shows its title though that is the same; the outage is brought up by three
    and shows its new title but no scope. -/
theorem compareDocuments_shows_depot :
    (∃ change status, compareDocuments (.v3_3 reviewedDepot) (.v3_2 oldDepot) .none =
        .ok ⟨.v3_3, .third change, status⟩ ∧ change.title = some (.unchanged "Depot")) ∧
      ∃ change status, compareDocuments (.v4_2 repaired) (.v3_3 outage) .none = .ok ⟨.v4_2, .fourth change, status⟩ ∧
        change.title = some (.changed "Payments" "Payments, repaired") ∧ change.scope = none := by
  constructor
  · have upgrade : toVersion (.v3_2 oldDepot) .v3_3 .none = _ :=
      toVersion_run (.step (.version oldDepot) (.stay _)) rfl rfl
    have compared : compareDocuments (.v3_3 reviewedDepot) (.v3_2 oldDepot) .none = _ :=
      compareDocuments_ok rfl rfl upgrade rfl
    obtain ⟨migrated, migration, -, shows⟩ := compareDocuments_shows compared
    cases upgrade.symm.trans migration
    refine ⟨_, _, compared, ?_⟩
    cases shows with
    | third before after shown =>
      obtain rfl := Record.third.inj (Option.some.inj before)
      obtain rfl := Record.third.inj (Option.some.inj after)
      obtain ⟨m, there, stands⟩ := shown.title
      cases stands with
      | unchanged => exact there
      | changed differs => exact absurd differs (by decide +kernel)
  · have upgrade : toVersion (.v3_3 outage) .v4_2 .none = _ :=
      toVersion_run (.step (.generation outage) (.step (.rescaling _) (.step (.stamping _) (.stay _)))) rfl rfl
    have compared : compareDocuments (.v4_2 repaired) (.v3_3 outage) .none = _ :=
      compareDocuments_ok rfl rfl upgrade rfl
    obtain ⟨migrated, migration, -, shows⟩ := compareDocuments_shows compared
    cases upgrade.symm.trans migration
    refine ⟨_, _, compared, ?_⟩
    cases shows with
    | fourth before after shown =>
      obtain rfl := Record.fourth.inj (Option.some.inj before)
      obtain rfl := Record.fourth.inj (Option.some.inj after)
      refine ⟨?_, ?_⟩
      · obtain ⟨same, -⟩ | ⟨-, there⟩ := shown.title
        · exact absurd same (by decide +kernel)
        · exact there
      · obtain ⟨-, omitted⟩ | ⟨differs, -⟩ := shown.scope
        · exact omitted
        · exact absurd differs (by decide +kernel)

end Scorecard

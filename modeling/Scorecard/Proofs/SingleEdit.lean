import Scorecard.Proofs.Edits
import Scorecard.Proofs.SilentChanges

/-!
# A single edit

An author changes one scalar of a document, and the document may migrate upward before it is compared with
the one from before. The comparison reports one scenario, and in it, or in its one reported action, the
one scalar (`compareDocuments_edited`).
-/

namespace Scorecard

/-! ## Fields and lists -/

theorem Emission.marker_changed {α : Type} [BEq α] [LawfulBEq α] (emission : Emission) {old new : α}
    (different : new ≠ old) : emission.marker? old new = some (.changed old new) := by
  have differs : ¬ (old == new) = true := fun same => different (eq_of_beq same).symm
  cases emission <;> simp only [Emission.marker?, PlainMarker.between, if_neg differs]

section Lists

variable {α γ : Type} [HasId α]

variable [BEq α]

section Rewriting

variable {xs : List α} {f : α → α} {content : α → α → γ} {id : String} {x : α}

/-- Of the members with the id the first one is altered, and no other member is. -/
theorem mem_alterations_rewriteById (reflexive : ∀ x ∈ xs, (x == x) = true)
    (keeps : ∀ x, HasId.id (f x) = HasId.id x) (found : firstWithId id xs = some x)
    (differs : (x == f x) = false) (pair : α × α) :
    pair ∈ alterations xs (rewriteById id f xs) ↔ pair = (x, f x) := by
  have known := id_of_firstWithId found
  obtain ⟨o, y⟩ := pair
  rw [mem_alterations, firstWithId_rewriteById keeps, Prod.mk.injEq]
  constructor
  · rintro ⟨first, before, unequal⟩
    -- Members with another id stay and equal themselves; of those with the id the first one is found.
    rw [before, Option.map_some, Option.some.injEq] at first
    subst first
    split at unequal
    · next same =>
      rw [if_pos same, keeps, same, found] at before
      cases before
      exact ⟨rfl, if_pos same⟩
    · rw [reflexive o (List.mem_of_find?_eq_some before)] at unequal
      cases unequal
  · rintro ⟨rfl, rfl⟩
    rw [keeps, known, found]
    exact ⟨by simp [known], rfl, differs⟩

/-- Of a list in which the members with one id were rewritten, no id comes or goes, and the first of these
    members is the only one that is reported. -/
theorem memberMarkers_rewriteById (reflexive : ∀ x ∈ xs, (x == x) = true)
    (keeps : ∀ x, HasId.id (f x) = HasId.id x) (found : firstWithId id xs = some x)
    (differs : (x == f x) = false) :
    memberMarkers xs (rewriteById id f xs) content = [.contentChanged (content x (f x))] := by
  have lost : deletions xs (rewriteById id f xs) = [] := by
    rw [List.eq_nil_iff_forall_not_mem]
    intro y gone
    rw [mem_deletions, firstWithId_rewriteById keeps] at gone
    simp [gone.1] at gone
  have gained : additions xs (rewriteById id f xs) = [] := by
    rw [additions, List.eq_nil_iff_forall_not_mem]
    intro y come
    rw [mem_deletions, firstWithId_rewriteById keeps] at come
    simp [come.2] at come
  have altered : (alterations xs (rewriteById id f xs)).Perm [(x, f x)] := by
    rw [List.perm_ext_iff_of_nodup (nodup_alterations _ _) (List.nodup_singleton _)]
    intro pair
    rw [mem_alterations_rewriteById reflexive keeps found differs, List.mem_singleton]
  simp [memberMarkers_groups, lost, gained, List.perm_singleton.mp altered]

end Rewriting

end Lists

/-! ## Records -/

/-- What is reported of an estimate in which nothing changed. -/
def Risk.silence (r : Risk) : Marker Risk RiskChanges :=
  .contentChanged ⟨none, .unchanged r.probability, .unchanged r.consequence⟩

theorem Risk.marker_self {r : Risk} (numeric : r.IsNumeric) : r.marker r = r.silence := by
  have probability := (Binary64.beq_self_iff _).mpr numeric.1
  have consequence := (Binary64.beq_self_iff _).mpr numeric.2
  simp [Risk.marker, Risk.silence, Emission.marker?, PlainMarker.between, probability, consequence]

namespace Third

/-- What is reported of an action in which nothing changed. -/
def Action.silence (a : Action) : ActionChanges where
  id := a.id
  title := some (.unchanged a.title)
  description := some (.unchanged a.description)
  url := some (.unchanged a.url)
  status := some (.unchanged a.status)
  owner := some (.unchanged a.owner)
  deadline := some (.unchanged a.deadline)

/-- What is reported of a scenario in which nothing changed. -/
def Scenario.silence (s : Scenario) : ScenarioChanges where
  id := s.id
  title := some (.unchanged s.title)
  description := some (.unchanged s.description)
  url := some (.unchanged s.url)
  threatActors := []
  vulnerabilities := []
  risk := s.risk.silence
  remainingRisk := s.remainingRisk.silence
  existingActions := some (.unchanged s.existingActions)
  actions := []

/-- The changes of an action with one scalar marked as changed. -/
def ActionChanges.mark (c : ActionChanges) : (f : ActionField) → f.Scalar → f.Scalar → ActionChanges
  | .title, old, new => { c with title := some (.changed old new) }
  | .description, old, new => { c with description := some (.changed old new) }
  | .url, old, new => { c with url := some (.changed old new) }
  | .status, old, new => { c with status := some (.changed old new) }

/-- The changes of a scenario with one scalar marked as changed. -/
def ScenarioChanges.mark (c : ScenarioChanges) : (f : ScenarioField) → f.Scalar → f.Scalar → ScenarioChanges
  | .title, old, new => { c with title := some (.changed old new) }
  | .description, old, new => { c with description := some (.changed old new) }
  | .url, old, new => { c with url := some (.changed old new) }

/-- One scalar of a scenario is marked as changed and nothing else: a scalar of its own, or within the
    changes of one action. -/
def Scenario.MarksOnly (s : Scenario) (c : ScenarioChanges) : (p : Place) → p.Scalar → p.Scalar → Prop
  | .field f, old, new => c = s.silence.mark f old new
  | .action id f, old, new => ∃ a ∈ s.actions, a.id = id ∧
    c = { s.silence with actions := [.contentChanged (a.silence.mark f old new)] }

theorem Action.changes_withScalar (a : Action) (f : ActionField) {new : f.Scalar} (different : new ≠ a.scalar f) :
    a.changes (a.withScalar f new) = a.silence.mark f (a.scalar f) new := by
  cases f <;> dsimp only [ActionField.Scalar, Action.scalar] at new different <;>
    simp only [Action.changes, Action.withScalar, Emission.marker_self, Emission.marker_changed _ different] <;> rfl

theorem Action.beq_withScalar (a : Action) (f : ActionField) {new : f.Scalar} (different : new ≠ a.scalar f) :
    (a == a.withScalar f new) = false := by
  rw [beq_eq_false_iff_ne]
  intro same
  exact different ((a.scalar_withScalar f new).symm.trans (congrArg (fun b => b.scalar f) same.symm))

/-- Equal scenarios have the same scalars. -/
theorem Scenario.scalar_of_beq {s t : Scenario} (same : (s == t) = true) (p : Place) : s.scalar? p = t.scalar? p := by
  have blind : ∀ u : Scenario, u.withoutRisks.scalar? p = u.scalar? p := by
    intro u
    cases p with
    | field f => cases f <;> rfl
    | action => rfl
  rw [← blind s, ← blind t, ((Scenario.beq_iff s t).mp same).1]

theorem Scenario.beq_withScalar {s : Scenario} {p : Place} {old new : p.Scalar} (there : s.scalar? p = some old)
    (different : new ≠ old) : (s == s.withScalar p new) = false := by
  rw [Bool.eq_false_iff]
  intro same
  have kept := Scenario.scalar_of_beq same p
  rw [s.scalar_withScalar p new, there] at kept
  exact different (Option.some.inj kept).symm

theorem Scenario.changes_withScalar {s : Scenario} {p : Place} {old new : p.Scalar}
    (numeric : s.risk.IsNumeric ∧ s.remainingRisk.IsNumeric) (there : s.scalar? p = some old)
    (different : new ≠ old) :
    s.MarksOnly (s.changes (s.withScalar p new)) p old new := by
  cases p with
  | field f =>
    have actions : memberMarkers s.actions s.actions Action.changes = [] :=
      memberMarkers_self fun a _ => beq_self_eq_true a
    show s.changes (s.withScalar (.field f) new) = s.silence.mark f old new
    cases f <;> cases there <;> dsimp only [Place.Scalar, ScenarioField.Scalar] at new different <;>
      simp only [Scenario.changes, Scenario.withScalar, Emission.marker_self, Emission.marker_changed _ different,
        valueMarkers_self, Risk.marker_self numeric.1, Risk.marker_self numeric.2, actions] <;> rfl
  | action id f =>
    obtain ⟨a, found, rfl⟩ := Option.map_eq_some_iff.mp there
    refine ⟨a, List.mem_of_find?_eq_some found, id_of_firstWithId found, ?_⟩
    have actions : memberMarkers s.actions (rewriteById id (fun a => a.withScalar f new) s.actions) Action.changes =
        [.contentChanged (a.silence.mark f (a.scalar f) new)] := by
      rw [memberMarkers_rewriteById (fun a _ => beq_self_eq_true a) (fun a => a.id_withScalar f new) found
        (a.beq_withScalar f different), a.changes_withScalar f different]
    simp only [Scenario.changes, Scenario.withScalar, Emission.marker_self, valueMarkers_self,
      Risk.marker_self numeric.1, Risk.marker_self numeric.2, actions]
    rfl

end Third

namespace Fourth

/-- What is reported of an action in which nothing changed. -/
def Action.silence (a : Action) : ActionChanges where
  id := a.id
  title := none
  description := none
  url := none
  status := none
  lastUpdated := none

/-- What is reported of a scenario in which nothing changed. -/
def Scenario.silence (s : Scenario) : ScenarioChanges where
  id := s.id
  title := none
  description := none
  url := none
  threatActors := []
  vulnerabilities := []
  risk := s.risk.silence
  remainingRisk := s.remainingRisk.silence
  actions := []

/-- The changes of an action with one scalar marked as changed. -/
def ActionChanges.mark (c : ActionChanges) : (f : ActionField) → f.Scalar → f.Scalar → ActionChanges
  | .title, old, new => { c with title := some (.changed old new) }
  | .description, old, new => { c with description := some (.changed old new) }
  | .url, old, new => { c with url := some (.changed old new) }
  | .status, old, new => { c with status := some (.changed old new) }

/-- The changes of a scenario with one scalar marked as changed. -/
def ScenarioChanges.mark (c : ScenarioChanges) : (f : ScenarioField) → f.Scalar → f.Scalar → ScenarioChanges
  | .title, old, new => { c with title := some (.changed old new) }
  | .description, old, new => { c with description := some (.changed old new) }
  | .url, old, new => { c with url := some (.changed old new) }

/-- One scalar of a scenario is marked as changed and nothing else: a scalar of its own, or within the
    changes of one action. -/
def Scenario.MarksOnly (s : Scenario) (c : ScenarioChanges) : (p : Place) → p.Scalar → p.Scalar → Prop
  | .field f, old, new => c = s.silence.mark f old new
  | .action id f, old, new => ∃ a ∈ s.actions, a.id = id ∧
    c = { s.silence with actions := [.contentChanged (a.silence.mark f old new)] }

theorem Action.changes_withScalar (a : Action) (f : ActionField) {new : f.Scalar} (different : new ≠ a.scalar f) :
    a.changes (a.withScalar f new) = a.silence.mark f (a.scalar f) new := by
  cases f <;> dsimp only [ActionField.Scalar, Action.scalar] at new different <;>
    simp only [Action.changes, Action.withScalar, Emission.marker_self, Emission.marker_changed _ different] <;> rfl

theorem Action.beq_withScalar (a : Action) (f : ActionField) {new : f.Scalar} (different : new ≠ a.scalar f) :
    (a == a.withScalar f new) = false := by
  rw [beq_eq_false_iff_ne]
  intro same
  exact different ((a.scalar_withScalar f new).symm.trans (congrArg (fun b => b.scalar f) same.symm))

/-- Equal scenarios have the same scalars. -/
theorem Scenario.scalar_of_beq {s t : Scenario} (same : (s == t) = true) (p : Place) : s.scalar? p = t.scalar? p := by
  have blind : ∀ u : Scenario, u.withoutRisks.scalar? p = u.scalar? p := by
    intro u
    cases p with
    | field f => cases f <;> rfl
    | action => rfl
  rw [← blind s, ← blind t, ((Scenario.beq_iff s t).mp same).1]

theorem Scenario.beq_withScalar {s : Scenario} {p : Place} {old new : p.Scalar} (there : s.scalar? p = some old)
    (different : new ≠ old) : (s == s.withScalar p new) = false := by
  rw [Bool.eq_false_iff]
  intro same
  have kept := Scenario.scalar_of_beq same p
  rw [s.scalar_withScalar p new, there] at kept
  exact different (Option.some.inj kept).symm

theorem Scenario.changes_withScalar {s : Scenario} {p : Place} {old new : p.Scalar}
    (numeric : s.risk.IsNumeric ∧ s.remainingRisk.IsNumeric) (there : s.scalar? p = some old)
    (different : new ≠ old) :
    s.MarksOnly (s.changes (s.withScalar p new)) p old new := by
  cases p with
  | field f =>
    have actions : memberMarkers s.actions s.actions Action.changes = [] :=
      memberMarkers_self fun a _ => beq_self_eq_true a
    show s.changes (s.withScalar (.field f) new) = s.silence.mark f old new
    cases f <;> cases there <;> dsimp only [Place.Scalar, ScenarioField.Scalar] at new different <;>
      simp only [Scenario.changes, Scenario.withScalar, Emission.marker_self, Emission.marker_changed _ different,
        valueMarkers_self, Risk.marker_self numeric.1, Risk.marker_self numeric.2, actions] <;> rfl
  | action id f =>
    obtain ⟨a, found, rfl⟩ := Option.map_eq_some_iff.mp there
    refine ⟨a, List.mem_of_find?_eq_some found, id_of_firstWithId found, ?_⟩
    have actions : memberMarkers s.actions (rewriteById id (fun a => a.withScalar f new) s.actions) Action.changes =
        [.contentChanged (a.silence.mark f (a.scalar f) new)] := by
      rw [memberMarkers_rewriteById (fun a _ => beq_self_eq_true a) (fun a => a.id_withScalar f new) found
        (a.beq_withScalar f different), a.changes_withScalar f different]
    simp only [Scenario.changes, Scenario.withScalar, Emission.marker_self, valueMarkers_self,
      Risk.marker_self numeric.1, Risk.marker_self numeric.2, actions]
    rfl

end Fourth

/-- Of a card one scalar of one scenario is marked as changed and nothing else. -/
def Record.MarksOnly (spot : Spot) (old new : spot.place.Scalar) : Record → CardChanges → Prop
  | .third c, .third change => ∃ s ∈ c.scenarios, s.id = spot.scenario ∧
    ∃ content, s.MarksOnly content spot.place old new ∧
      change = ⟨some (.unchanged c.title), some (.unchanged c.scope), [], [.contentChanged content]⟩
  | .fourth c, .fourth change => ∃ s ∈ c.scenarios, s.id = spot.scenario ∧
    ∃ content, s.MarksOnly content spot.place old new ∧ change = ⟨none, none, [], [.contentChanged content]⟩
  | .third _, .fourth _ => False
  | .fourth _, .third _ => False

section Cards

variable {spot : Spot} {old new : spot.place.Scalar}

theorem Third.Card.changes_withScalar {c : Third.Card} (numeric : (Document.v3_3 c).IsNumeric)
    (there : c.scalar? spot = some old) (different : new ≠ old) :
    (Record.third c).MarksOnly spot old new (.third (c.changes (c.withScalar spot new))) := by
  obtain ⟨s, found, place⟩ := Option.bind_eq_some_iff.mp there
  have here : s ∈ c.scenarios := List.mem_of_find?_eq_some found
  have scenarios : memberMarkers c.scenarios (c.withScalar spot new).scenarios Third.Scenario.changes =
      [.contentChanged (s.changes (s.withScalar spot.place new))] :=
    memberMarkers_rewriteById (fun s here => Third.Scenario.beq_self (Third.of_risks numeric here))
      (fun s => s.id_withScalar spot.place new) found (Third.Scenario.beq_withScalar place different)
  refine ⟨s, here, id_of_firstWithId found, _,
    Third.Scenario.changes_withScalar (Third.of_risks numeric here) place different, ?_⟩
  rw [Third.Card.changes, scenarios]
  simp only [Third.Card.withScalar, Emission.marker_self, valueMarkers_self]
  rfl

theorem Fourth.Card.changes_withScalar {c : Fourth.Card} (numeric : (Document.v4_0 c).IsNumeric)
    (there : c.scalar? spot = some old) (different : new ≠ old) :
    (Record.fourth c).MarksOnly spot old new (.fourth (c.changes (c.withScalar spot new))) := by
  obtain ⟨s, found, place⟩ := Option.bind_eq_some_iff.mp there
  have here : s ∈ c.scenarios := List.mem_of_find?_eq_some found
  have scenarios : memberMarkers c.scenarios (c.withScalar spot new).scenarios Fourth.Scenario.changes =
      [.contentChanged (s.changes (s.withScalar spot.place new))] :=
    memberMarkers_rewriteById (fun s here => Fourth.Scenario.beq_self (Fourth.of_risks numeric here))
      (fun s => s.id_withScalar spot.place new) found (Fourth.Scenario.beq_withScalar place different)
  refine ⟨s, here, id_of_firstWithId found, _,
    Fourth.Scenario.changes_withScalar (Fourth.of_risks numeric here) place different, ?_⟩
  rw [Fourth.Card.changes, scenarios]
  simp only [Fourth.Card.withScalar, Emission.marker_self, valueMarkers_self]
  rfl

/-! ## Documents -/

theorem Document.changes_withScalar {d : Document} {record : Record} (known : d.record? = some record)
    (numeric : d.IsNumeric) (there : d.scalar? spot = some old) (different : new ≠ old) :
    ∃ change, (d.withScalar spot new).changes? d = some change ∧ record.MarksOnly spot old new change := by
  cases d with
  | v3_2 c | v3_3 c =>
    cases known
    exact ⟨_, rfl, Third.Card.changes_withScalar numeric there different⟩
  | v4_0 c | v4_1 c | v4_2 c =>
    cases known
    exact ⟨_, rfl, Fourth.Card.changes_withScalar numeric there different⟩
  | unknown => cases known

open Migration in
/-- An edit of one scalar is one change, however far the edited document migrated. The comparison of the
    migrated edited document with the original reports that scalar alone, against the record that the original
    would have become. -/
theorem compareDocuments_edited {document : Document} (options : Options) {source target : Version}
    (start : document.version? = some source) (supported : target.IsSupported) (upward : source ≤ target)
    (numeric : document.IsNumeric) (there : document.scalar? spot = some old) (different : new ≠ old) :
    ∃ reached ran migrated status record change,
      toVersion (document.withScalar spot new) target options = .ok (reached, ran) ∧
      toVersion document target options = .ok (migrated, status) ∧ migrated.record? = some record ∧
      compareDocuments reached document options = .ok ⟨target, change, status⟩ ∧
      record.MarksOnly spot old new change := by
  obtain ⟨trace, migrated, run, finish⟩ := run_exists options document start supported upward
  obtain ⟨trace', edited⟩ := run.withScalar spot new
  obtain ⟨-, record, -, arrived, -⟩ := run.carries start finish
  have start' := (document.version_withScalar spot new).trans start
  have finish' := (migrated.version_withScalar spot new).trans finish
  obtain ⟨change, changes, only⟩ := Document.changes_withScalar arrived (run.isNumeric numeric)
    ((run.scalar_eq spot).trans there) different
  have original := toVersion_run run start finish
  exact ⟨_, _, migrated, _, record, change, toVersion_run edited start' finish', original, arrived,
    compareDocuments_ok finish' start original changes, only⟩

end Cards

/-- The action of the card was given up. -/
def dropped : Document :=
  (Document.v3_3 Migration.breach).withScalar ⟨"s1", .action "a1" .status⟩ ActionStatus.aborted

/-- Three steps rewrite the scenario around the action, and the one change is that of the status. -/
theorem compareDocuments_edited_breach :
    ∃ reached ran status, Migration.toVersion dropped .v4_2 .none = .ok (reached, ran) ∧
      compareDocuments reached (.v3_3 Migration.breach) .none =
        .ok ⟨.v4_2, .fourth ⟨none, none, [], [.contentChanged {
        id := "s1"
        title := none
        description := none
        url := none
        threatActors := []
        vulnerabilities := []
        risk := (Rescaling.risk ⟨some "Likely", Rescaling.preset 50 0, Rescaling.preset 12345 (-1)⟩).silence
        remainingRisk := (Rescaling.risk ⟨none, Rescaling.preset 1 (-1), Rescaling.preset 1000 0⟩).silence
        actions := [.contentChanged ⟨"a1", none, none, none, some (.changed .completed .aborted), none⟩] }]⟩,
        status⟩ := by
  have numeric : (Document.v3_3 Migration.breach).IsNumeric := by decide +kernel
  have arrives : Migration.toVersion (.v3_3 Migration.breach) .v4_2 .none = _ :=
    Migration.toVersion_run (.step (.generation _) (.step (.rescaling _) (.step (.stamping _) (.stay _)))) rfl rfl
  have there : (Document.v3_3 Migration.breach).scalar? ⟨"s1", .action "a1" .status⟩ =
      some ActionStatus.completed := by rfl
  have different : ActionStatus.aborted ≠ ActionStatus.completed := by decide
  obtain ⟨reached, ran, migrated, status, record, change, edited, original, known, compared, only⟩ :=
    compareDocuments_edited .none (rfl : (Document.v3_3 Migration.breach).version? = _)
      (by decide : Version.v4_2.IsSupported) (by decide) numeric there different
  cases arrives.symm.trans original
  cases known
  cases change with
  | third => exact only.elim
  | fourth change =>
    obtain ⟨s, here, -, content, ⟨a, there, -, rfl⟩, rfl⟩ := only
    cases List.mem_singleton.mp here
    cases List.mem_singleton.mp there
    exact ⟨reached, ran, _, edited, compared⟩

end Scorecard

import Scorecard.Comparison
import Scorecard.Proofs.Estimates
import Scorecard.Proofs.LosslessChanges

/-!
# Changes that hold no change

The changes of two scenarios hold a change exactly if the scenarios do not agree (`hasChange_changes`), that is if
they differ in more than the order and repetition of list members. Whether a scenario is reported is decided by
another equality, which regards order, so a scenario whose lists were merely reordered is reported with changes
that hold none. Without such scenarios no reported change is hollow, and those of actions never are
(`hollow_free_iff`).
-/

namespace Scorecard

/-! ## Silent lists -/

section Lists

variable {α γ : Type}

theorem isChange_of_mem_valueMarkers [BEq α] [LawfulBEq α] {old new : List α} {m : PlainMarker α}
    (marked : m ∈ valueMarkers old new) : m.isChange = true := by
  rcases (mem_valueMarkers old new m).mp marked with ⟨v, -, -, rfl⟩ | ⟨v, -, -, rfl⟩ <;> rfl

variable [HasId α] {old new : List α}

theorem deletions_eq_nil_iff : deletions old new = [] ↔
    ∀ id, (firstWithId id old).isSome = true → (firstWithId id new).isSome = true := by
  rw [List.eq_nil_iff_forall_not_mem]
  constructor
  · intro kept id known
    obtain ⟨o, found⟩ := Option.isSome_iff_exists.mp known
    have same := id_of_firstWithId found
    subst same
    cases there : firstWithId (HasId.id o) new with
    | none => exact absurd ((mem_deletions old new o).mpr ⟨found, there⟩) (kept o)
    | some x => rfl
  · intro kept o lost
    obtain ⟨found, missing⟩ := (mem_deletions old new o).mp lost
    have there := kept (HasId.id o) (by rw [found]; rfl)
    rw [missing] at there
    cases there

variable [BEq α]

theorem alterations_eq_nil_iff : alterations old new = [] ↔
    ∀ id o x, firstWithId id old = some o → firstWithId id new = some x → (o == x) = true := by
  rw [List.eq_nil_iff_forall_not_mem]
  constructor
  · intro unaltered id o x found first
    have same := id_of_firstWithId first
    subst same
    cases differs : o == x with
    | true => rfl
    | false => exact absurd ((mem_alterations old new o x).mpr ⟨first, found, differs⟩) (unaltered (o, x))
  · rintro unaltered ⟨o, x⟩ altered
    obtain ⟨first, found, differs⟩ := (mem_alterations old new o x).mp altered
    cases (unaltered _ o x found first).symm.trans differs

/-- Lists of identified members are not marked exactly if they have the same ids and, for each id, equal first
    members. -/
theorem memberMarkers_eq_nil_iff (content : α → α → γ) :
    memberMarkers old new content = [] ↔ SameById (fun o x => (o == x) = true) old new := by
  simp only [memberMarkers_groups, additions, List.append_eq_nil_iff, List.map_eq_nil_iff, deletions_eq_nil_iff,
    alterations_eq_nil_iff]
  constructor
  · rintro ⟨⟨kept, unaltered⟩, known⟩
    refine ⟨fun id => ?_, unaltered⟩
    rw [← isSome_firstWithId, ← isSome_firstWithId]
    exact ⟨kept id, known id⟩
  · intro same
    have ids (id : String) : (firstWithId id old).isSome = true ↔ (firstWithId id new).isSome = true := by
      rw [isSome_firstWithId, isSome_firstWithId]
      exact same.ids id
    exact ⟨⟨fun id => (ids id).mp, same.first⟩, fun id => (ids id).mpr⟩

theorem isChange_of_mem_memberMarkers {content : α → α → γ} {m : Marker α γ}
    (marked : m ∈ memberMarkers old new content) : m.isChange = true := by
  simp only [memberMarkers_groups, List.mem_append, List.mem_map] at marked
  rcases marked with (⟨x, -, rfl⟩ | ⟨p, -, rfl⟩) | ⟨x, -, rfl⟩ <;> rfl

end Lists

/-! ## Changes that hold one -/

/-- Some marker is a change. -/
def Reports {α γ : Type} (ms : List (Marker α γ)) : Prop := ∃ m ∈ ms, m.isChange = true

section Fields

variable {α γ : Type}

theorem reports_iff_ne_nil {ms : List (Marker α γ)} (all : ∀ m ∈ ms, m.isChange = true) :
    Reports ms ↔ ms ≠ [] := by
  rw [List.ne_nil_iff_exists_cons]
  constructor
  · rintro ⟨m, here, -⟩
    exact List.exists_cons_of_ne_nil (List.ne_nil_of_mem here)
  · rintro ⟨m, rest, rfl⟩
    exact ⟨m, List.mem_cons_self, all m List.mem_cons_self⟩

theorem isChange_between [BEq α] (old new : α) :
    (PlainMarker.between old new).isChange = true ↔ ¬ (old == new) = true := by
  unfold PlainMarker.between
  cases old == new <;> simp [Marker.isChange, Marker.isUnchanged]

theorem reports_marker? [BEq α] [LawfulBEq α] (emission : Emission) (old new : α) :
    Reports (emission.marker? old new).toList ↔ ¬ old = new := by
  have between := isChange_between old new
  rw [beq_iff_eq] at between
  cases emission with
  | always => simpa [Reports, Emission.marker?] using between
  | omitUnchanged =>
    by_cases same : old = new
    · simp [Reports, Emission.marker?, same]
    · simpa [Reports, Emission.marker?, same] using between

theorem reports_valueMarkers [BEq α] [LawfulBEq α] (old new : List α) :
    Reports (valueMarkers old new) ↔ ¬ SameMembers old new := by
  rw [reports_iff_ne_nil fun _ => isChange_of_mem_valueMarkers, Ne, valueMarkers_eq_nil_iff]

theorem reports_memberMarkers [HasId α] [BEq α] [LawfulBEq α] (old new : List α) (content : α → α → γ) :
    Reports (memberMarkers old new content) ↔ ¬ SameById Eq old new := by
  rw [reports_iff_ne_nil fun _ => isChange_of_mem_memberMarkers, Ne, memberMarkers_eq_nil_iff]
  simp only [beq_iff_eq]

end Fields

/-- The summary or one of the numbers changed. -/
def RiskChanges.HasChange (c : RiskChanges) : Prop :=
  Reports c.summary.toList ∨ c.probability.isChange = true ∨ c.consequence.isChange = true

/-- The marker of a risk holds a change; that it is a marker of nested changes says nothing, for it always is. -/
def HoldsChange (m : Marker Risk RiskChanges) : Prop := ∃ c, m = .contentChanged c ∧ c.HasChange

theorem holdsChange_marker (old new : Risk) : HoldsChange (old.marker new) ↔ ¬ (old == new) = true := by
  rw [Risk.beq_iff]
  simp only [HoldsChange, Risk.marker, Marker.contentChanged.injEq, exists_eq_left', RiskChanges.HasChange,
    reports_marker?, isChange_between]
  tauto

namespace Third

/-- A field of the action changed. -/
def ActionChanges.HasChange (c : ActionChanges) : Prop :=
  Reports c.title.toList ∨ Reports c.description.toList ∨ Reports c.url.toList ∨ Reports c.status.toList ∨
    Reports c.owner.toList ∨ Reports c.deadline.toList

/-- A field of the scenario changed, or something of a risk, or a member of a list. -/
def ScenarioChanges.HasChange (c : ScenarioChanges) : Prop :=
  Reports c.title.toList ∨ Reports c.description.toList ∨ Reports c.url.toList ∨ Reports c.threatActors ∨
    Reports c.vulnerabilities ∨ HoldsChange c.risk ∨ HoldsChange c.remainingRisk ∨
    Reports c.existingActions.toList ∨ Reports c.actions

theorem Action.hasChange_changes {old new : Action} (ids : old.id = new.id) :
    (old.changes new).HasChange ↔ old ≠ new := by
  cases old; cases new
  simp only [ActionChanges.HasChange, Action.changes, reports_marker?, Ne, Action.mk.injEq] at ids ⊢
  tauto

/-- The changes of two scenarios hold one exactly if the scenarios do not agree. -/
theorem Scenario.hasChange_changes (old new : Scenario) : (old.changes new).HasChange ↔ ¬ old.Agrees new := by
  have silent : ¬ (old.changes new).HasChange ↔ old.Agrees new := by
    simp only [ScenarioChanges.HasChange, Scenario.changes, reports_marker?, reports_valueMarkers,
      holdsChange_marker, reports_memberMarkers, not_or, not_not]
    constructor
    · rintro ⟨title, description, url, threatActors, vulnerabilities, risk, remainingRisk, existingActions, actions⟩
      exact ⟨title, description, url, threatActors, vulnerabilities, risk, remainingRisk, existingActions, actions⟩
    · rintro ⟨title, description, url, threatActors, vulnerabilities, risk, remainingRisk, existingActions, actions⟩
      exact ⟨title, description, url, threatActors, vulnerabilities, risk, remainingRisk, existingActions, actions⟩
  rw [← silent, not_not]

end Third

namespace Fourth

/-- A field of the action changed. -/
def ActionChanges.HasChange (c : ActionChanges) : Prop :=
  Reports c.title.toList ∨ Reports c.description.toList ∨ Reports c.url.toList ∨ Reports c.status.toList ∨
    Reports c.lastUpdated.toList

/-- A field of the scenario changed, or something of a risk, or a member of a list. -/
def ScenarioChanges.HasChange (c : ScenarioChanges) : Prop :=
  Reports c.title.toList ∨ Reports c.description.toList ∨ Reports c.url.toList ∨ Reports c.threatActors ∨
    Reports c.vulnerabilities ∨ HoldsChange c.risk ∨ HoldsChange c.remainingRisk ∨ Reports c.actions

theorem Action.hasChange_changes {old new : Action} (ids : old.id = new.id) :
    (old.changes new).HasChange ↔ old ≠ new := by
  cases old; cases new
  simp only [ActionChanges.HasChange, Action.changes, reports_marker?, Ne, Action.mk.injEq] at ids ⊢
  tauto

/-- The changes of two scenarios hold one exactly if the scenarios do not agree. -/
theorem Scenario.hasChange_changes (old new : Scenario) : (old.changes new).HasChange ↔ ¬ old.Agrees new := by
  have silent : ¬ (old.changes new).HasChange ↔ old.Agrees new := by
    simp only [ScenarioChanges.HasChange, Scenario.changes, reports_marker?, reports_valueMarkers,
      holdsChange_marker, reports_memberMarkers, not_or, not_not]
    constructor
    · rintro ⟨title, description, url, threatActors, vulnerabilities, risk, remainingRisk, actions⟩
      exact ⟨title, description, url, threatActors, vulnerabilities, risk, remainingRisk, actions⟩
    · rintro ⟨title, description, url, threatActors, vulnerabilities, risk, remainingRisk, actions⟩
      exact ⟨title, description, url, threatActors, vulnerabilities, risk, remainingRisk, actions⟩
  rw [← silent, not_not]

end Fourth

/-! ## Reported members -/

section Members

variable {α γ : Type} [HasId α] [BEq α]

/-- Every reported change of members holds one exactly if no two first members with an id are told apart whose
    changes hold none. -/
theorem forall_contentChanged_iff (old new : List α) (content : α → α → γ) (holds : γ → Prop) :
    (∀ c, .contentChanged c ∈ memberMarkers old new content → holds c) ↔
      ∀ id o x, firstWithId id old = some o → firstWithId id new = some x → ¬ holds (content o x) →
        (o == x) = true := by
  constructor
  · intro all id o x found first none
    have same := id_of_firstWithId first
    subst same
    cases differs : o == x with
    | true => rfl
    | false =>
      have reported : .contentChanged (content o x) ∈ memberMarkers old new content :=
        (contentChanged_mem_memberMarkers old new _).mpr ⟨o, x, ⟨first, found, differs⟩, rfl⟩
      exact absurd (all _ reported) none
  · intro same c reported
    obtain ⟨o, x, ⟨first, found, differs⟩, rfl⟩ := (contentChanged_mem_memberMarkers old new c).mp reported
    by_cases change : holds (content o x)
    · exact change
    · cases (same _ o x found first change).symm.trans differs

end Members

/-! ## Cards -/

namespace Third

theorem Action.hasChange_of_reported {old new : List Action} {c : ActionChanges}
    (reported : .contentChanged c ∈ memberMarkers old new Action.changes) : c.HasChange := by
  obtain ⟨o, x, ⟨first, found, differs⟩, rfl⟩ := (contentChanged_mem_memberMarkers old new c).mp reported
  exact (Action.hasChange_changes (id_of_firstWithId found)).mpr (by simpa using differs)

theorem Card.scenarios_hasChange_iff (old new : Card) :
    (∀ c, .contentChanged c ∈ (old.changes new).scenarios → c.HasChange) ↔
      ∀ id o x, firstWithId id old.scenarios = some o → firstWithId id new.scenarios = some x → o.Agrees x →
        (o == x) = true := by
  have reported := forall_contentChanged_iff old.scenarios new.scenarios Scenario.changes ScenarioChanges.HasChange
  simp only [Scenario.hasChange_changes, not_not] at reported
  exact reported

theorem Card.actions_hasChange {old new : Card} {c : ScenarioChanges}
    (reported : .contentChanged c ∈ (old.changes new).scenarios) {a : ActionChanges}
    (nested : .contentChanged a ∈ c.actions) : a.HasChange := by
  obtain ⟨o, x, -, rfl⟩ := (contentChanged_mem_memberMarkers old.scenarios new.scenarios c).mp reported
  exact Action.hasChange_of_reported nested

end Third

namespace Fourth

theorem Action.hasChange_of_reported {old new : List Action} {c : ActionChanges}
    (reported : .contentChanged c ∈ memberMarkers old new Action.changes) : c.HasChange := by
  obtain ⟨o, x, ⟨first, found, differs⟩, rfl⟩ := (contentChanged_mem_memberMarkers old new c).mp reported
  exact (Action.hasChange_changes (id_of_firstWithId found)).mpr (by simpa using differs)

theorem Card.scenarios_hasChange_iff (old new : Card) :
    (∀ c, .contentChanged c ∈ (old.changes new).scenarios → c.HasChange) ↔
      ∀ id o x, firstWithId id old.scenarios = some o → firstWithId id new.scenarios = some x → o.Agrees x →
        (o == x) = true := by
  have reported := forall_contentChanged_iff old.scenarios new.scenarios Scenario.changes ScenarioChanges.HasChange
  simp only [Scenario.hasChange_changes, not_not] at reported
  exact reported

theorem Card.actions_hasChange {old new : Card} {c : ScenarioChanges}
    (reported : .contentChanged c ∈ (old.changes new).scenarios) {a : ActionChanges}
    (nested : .contentChanged a ∈ c.actions) : a.HasChange := by
  obtain ⟨o, x, -, rfl⟩ := (contentChanged_mem_memberMarkers old.scenarios new.scenarios c).mp reported
  exact Action.hasChange_of_reported nested

end Fourth

/-! ## Documents -/

/-- Every reported change of a scenario holds a change. -/
def CardChanges.ScenariosHold : CardChanges → Prop
  | .third change => ∀ c, .contentChanged c ∈ change.scenarios → c.HasChange
  | .fourth change => ∀ c, .contentChanged c ∈ change.scenarios → c.HasChange

/-- Every change of an action that is reported inside a scenario holds a change. -/
def CardChanges.ActionsHold : CardChanges → Prop
  | .third change => ∀ c, .contentChanged c ∈ change.scenarios → ∀ a, .contentChanged a ∈ c.actions → a.HasChange
  | .fourth change => ∀ c, .contentChanged c ∈ change.scenarios → ∀ a, .contentChanged a ∈ c.actions → a.HasChange

/-- Scenarios with one id that agree are equal, order and repetition included. -/
structure Document.KeepsOrder (old new : Document) : Prop where
  third : ∀ before ∈ old.thirdCard?, ∀ after ∈ new.thirdCard?, ∀ id o x, firstWithId id before.scenarios = some o →
    firstWithId id after.scenarios = some x → o.Agrees x → (o == x) = true
  fourth : ∀ before ∈ old.fourthCard?, ∀ after ∈ new.fourthCard?, ∀ id o x,
    firstWithId id before.scenarios = some o → firstWithId id after.scenarios = some x → o.Agrees x → (o == x) = true

/-- Documents have changes by the cards of their generation. -/
theorem Document.mem_changes? (old new : Document) (change : CardChanges) : change ∈ new.changes? old ↔
    (∃ before ∈ old.thirdCard?, ∃ after ∈ new.thirdCard?, change = .third (before.changes after)) ∨
      ∃ before ∈ old.fourthCard?, ∃ after ∈ new.fourthCard?, change = .fourth (before.changes after) := by
  cases new <;> cases old <;> simp [Document.changes?, Document.thirdCard?, Document.fourthCard?, eq_comm]

/-- The reported changes of scenarios all hold one exactly if no scenario was merely reordered. The reported changes
    of actions always hold one, for an action has no lists. -/
theorem hollow_free_iff (old new : Document) :
    ((∀ change ∈ new.changes? old, change.ScenariosHold) ↔ old.KeepsOrder new) ∧
      ∀ change ∈ new.changes? old, change.ActionsHold := by
  simp only [Document.mem_changes?]
  refine ⟨⟨fun free => ⟨?_, ?_⟩, ?_⟩, ?_⟩
  · intro before left after right
    exact (Third.Card.scenarios_hasChange_iff before after).mp (free _ (.inl ⟨before, left, after, right, rfl⟩))
  · intro before left after right
    exact (Fourth.Card.scenarios_hasChange_iff before after).mp (free _ (.inr ⟨before, left, after, right, rfl⟩))
  · rintro keeps _ (⟨before, left, after, right, rfl⟩ | ⟨before, left, after, right, rfl⟩)
    · exact (Third.Card.scenarios_hasChange_iff before after).mpr (keeps.third before left after right)
    · exact (Fourth.Card.scenarios_hasChange_iff before after).mpr (keeps.fourth before left after right)
  · rintro _ (⟨before, -, after, -, rfl⟩ | ⟨before, -, after, -, rfl⟩)
    · exact fun _ reported _ => Third.Card.actions_hasChange reported
    · exact fun _ reported _ => Fourth.Card.actions_hasChange reported

/-- A scenario with some actors in some order. -/
def intrusion (actors : List ThreatActor) : Fourth.Scenario where
  id := "s1"
  title := "Intrusion"
  description := ""
  url := none
  threatActors := actors
  vulnerabilities := []
  risk := ⟨none, .ofWord false 0, .ofWord false 0⟩
  remainingRisk := ⟨none, .ofWord false 0, .ofWord false 0⟩
  actions := []

/-- A card with the intrusion as its only scenario. -/
def gateway (actors : List ThreatActor) : Fourth.Card where
  title := "Gateway"
  scope := none
  valuations := []
  scenarios := [intrusion actors]

/-- Two actors change places. The scenarios agree, yet the one is reported and counted as changed, with changes that
    hold none. -/
theorem reordered_actors_reported :
    (Document.v4_2 (gateway [.insider, .hacktivist])).IsNumeric ∧
      (Document.v4_2 (gateway [.hacktivist, .insider])).IsNumeric ∧
      ∃ change c, compareDocuments (.v4_2 (gateway [.hacktivist, .insider])) (.v4_2 (gateway [.insider, .hacktivist]))
          .none = .ok ⟨.v4_2, .fourth change, .initial⟩ ∧
        change.scenarios = [.contentChanged c] ∧ (CardChanges.fourth change).changed = 1 ∧ ¬ c.HasChange := by
  have agrees : (intrusion [.insider, .hacktivist]).Agrees (intrusion [.hacktivist, .insider]) := by
    refine ⟨rfl, rfl, rfl, ?_, .refl _, by decide +kernel, by decide +kernel, .refl _⟩
    intro actor
    simp [intrusion, or_comm]
  refine ⟨by decide +kernel, by decide +kernel, _, _, rfl, rfl, rfl, ?_⟩
  rw [Fourth.Scenario.hasChange_changes, not_not]
  exact agrees

end Scorecard

import Scorecard.CardChanges
import Scorecard.Generation
import Scorecard.Proofs.MarkedLists
import Scorecard.Proofs.NumberEquality

/-!
# The changes of a card tell the new card

Two cards with equal changes against one old card agree in everything that a comparison regards
(`agree_of_changes`): in every field, and in their lists up to order and repetition. So the old card and
its changes lose nothing of the new card.
-/

namespace Scorecard

/-! ## Fields -/

section Fields

variable {α : Type} [BEq α] {old one two : α}

theorem beq_of_between (same : (PlainMarker.between old one == PlainMarker.between old two) = true) :
    (one == two) = true := by
  unfold PlainMarker.between at same
  split at same <;> split at same
  · exact same
  · cases same
  · cases same
  · exact (Bool.and_eq_true_iff.mp same).2

/-- A field is told by its marker and the old one, whether or not unchanged fields are reported. -/
theorem beq_of_marker? [PartialEquivBEq α] {emission : Emission}
    (same : (emission.marker? old one == emission.marker? old two) = true) : (one == two) = true := by
  cases emission with
  | always => exact beq_of_between same
  | omitUnchanged =>
    simp only [Emission.marker?] at same
    split at same <;> split at same
    · rename_i left right
      exact BEq.trans (BEq.symm left) right
    · cases same
    · cases same
    · exact beq_of_between same

theorem eq_of_marker? [LawfulBEq α] {emission : Emission}
    (same : (emission.marker? old one == emission.marker? old two) = true) : one = two :=
  eq_of_beq (beq_of_marker? same)

end Fields

theorem Risk.beq_of_marker {old one two : Risk} (same : (old.marker one == old.marker two) = true) :
    (one == two) = true := by
  have fields : (_ && (_ && _)) = true := same
  simp only [Bool.and_eq_true] at fields
  obtain ⟨summary, probability, consequence⟩ := fields
  exact (Risk.beq_iff one two).mpr
    ⟨eq_of_marker? summary, beq_of_between probability, beq_of_between consequence⟩

theorem SameMembers.refl {α : Type} (xs : List α) : SameMembers xs xs := fun _ => Iff.rfl

/-- For members that are compared as a whole the first ones with an id are equal. -/
theorem SameById.refl {α : Type} [HasId α] (xs : List α) : SameById Eq xs xs := by
  refine ⟨fun _ => Iff.rfl, ?_⟩
  intro id x y left right
  exact Option.some.inj (left.symm.trans right)

/-! ## The third generation -/

namespace Third

/-- Two scenarios that a comparison does not tell apart. -/
structure Scenario.Agrees (one two : Scenario) : Prop where
  title : one.title = two.title
  description : one.description = two.description
  url : one.url = two.url
  threatActors : SameMembers one.threatActors two.threatActors
  vulnerabilities : SameMembers one.vulnerabilities two.vulnerabilities
  risk : (one.risk == two.risk) = true
  remainingRisk : (one.remainingRisk == two.remainingRisk) = true
  existingActions : one.existingActions = two.existingActions
  actions : SameById Eq one.actions two.actions

/-- Two cards that a comparison does not tell apart. -/
structure Card.Agrees (one two : Card) : Prop where
  title : one.title = two.title
  scope : one.scope = two.scope
  valuations : SameMembers one.valuations two.valuations
  scenarios : SameById Scenario.Agrees one.scenarios two.scenarios

theorem Action.eq_of_changes {old one two : Action} (same : (old.changes one == old.changes two) = true) :
    one = two := by
  have fields : (_ && (_ && (_ && (_ && (_ && (_ && _)))))) = true := same
  simp only [Bool.and_eq_true] at fields
  obtain ⟨id, title, description, url, status, owner, deadline⟩ := fields
  cases one
  cases two
  rw [Action.mk.injEq]
  exact ⟨eq_of_beq id, eq_of_marker? title, eq_of_marker? description, eq_of_marker? url, eq_of_marker? status,
    eq_of_marker? owner, eq_of_marker? deadline⟩

theorem Action.tells : Tells Action.changes Eq where
  id_of_beq same := congrArg Action.id (eq_of_beq same)
  content_id _ _ := rfl
  id_of_content_beq same := congrArg ActionChanges.id (eq_of_beq same)
  of_beq := eq_of_beq
  of_content := Action.eq_of_changes

theorem Scenario.agrees_of_beq {one two : Scenario} (same : (one == two) = true) : one.Agrees two := by
  obtain ⟨equal, risk, remainingRisk⟩ := (Scenario.beq_iff one two).mp same
  simp only [Scenario.withoutRisks, Scenario.mk.injEq] at equal
  obtain ⟨-, title, description, url, threatActors, vulnerabilities, -, -, existingActions, actions⟩ := equal
  refine ⟨title, description, url, ?_, ?_, risk, remainingRisk, existingActions, ?_⟩
  · exact threatActors ▸ .refl _
  · exact vulnerabilities ▸ .refl _
  · exact actions ▸ .refl _

theorem Scenario.agrees_of_changes {old one two : Scenario}
    (same : (old.changes one == old.changes two) = true) : one.Agrees two := by
  have fields : (_ && (_ && (_ && (_ && (_ && (_ && (_ && (_ && (_ && _))))))))) = true := same
  simp only [Bool.and_eq_true] at fields
  obtain ⟨-, title, description, url, threatActors, vulnerabilities, risk, remainingRisk, existingActions,
    actions⟩ := fields
  exact ⟨eq_of_marker? title, eq_of_marker? description, eq_of_marker? url,
    sameMembers_of_valueMarkers threatActors, sameMembers_of_valueMarkers vulnerabilities,
    Risk.beq_of_marker risk, Risk.beq_of_marker remainingRisk, eq_of_marker? existingActions,
    sameById_of_memberMarkers Action.tells actions⟩

theorem Scenario.tells : Tells Scenario.changes Scenario.Agrees where
  id_of_beq {x y} same := by
    have equal := congrArg Scenario.id ((Scenario.beq_iff x y).mp same).1
    exact equal
  content_id _ _ := rfl
  id_of_content_beq {c d} same := by
    have fields : (_ && (_ && (_ && (_ && (_ && (_ && (_ && (_ && (_ && _))))))))) = true := same
    exact eq_of_beq (Bool.and_eq_true_iff.mp fields).1
  of_beq := Scenario.agrees_of_beq
  of_content := Scenario.agrees_of_changes

theorem Card.agrees_of_changes {old one two : Card} (same : (old.changes one == old.changes two) = true) :
    one.Agrees two := by
  have fields : (_ && (_ && (_ && _))) = true := same
  simp only [Bool.and_eq_true] at fields
  obtain ⟨title, scope, valuations, scenarios⟩ := fields
  exact ⟨eq_of_marker? title, eq_of_marker? scope, sameMembers_of_valueMarkers valuations,
    sameById_of_memberMarkers Scenario.tells scenarios⟩

end Third

/-! ## The fourth generation -/

namespace Fourth

/-- Two scenarios that a comparison does not tell apart. -/
structure Scenario.Agrees (one two : Scenario) : Prop where
  title : one.title = two.title
  description : one.description = two.description
  url : one.url = two.url
  threatActors : SameMembers one.threatActors two.threatActors
  vulnerabilities : SameMembers one.vulnerabilities two.vulnerabilities
  risk : (one.risk == two.risk) = true
  remainingRisk : (one.remainingRisk == two.remainingRisk) = true
  actions : SameById Eq one.actions two.actions

/-- Two cards that a comparison does not tell apart. -/
structure Card.Agrees (one two : Card) : Prop where
  title : one.title = two.title
  scope : one.scope = two.scope
  valuations : SameMembers one.valuations two.valuations
  scenarios : SameById Scenario.Agrees one.scenarios two.scenarios

theorem Action.eq_of_changes {old one two : Action} (same : (old.changes one == old.changes two) = true) :
    one = two := by
  have fields : (_ && (_ && (_ && (_ && (_ && _))))) = true := same
  simp only [Bool.and_eq_true] at fields
  obtain ⟨id, title, description, url, status, lastUpdated⟩ := fields
  cases one
  cases two
  rw [Action.mk.injEq]
  exact ⟨eq_of_beq id, eq_of_marker? title, eq_of_marker? description, eq_of_marker? url, eq_of_marker? status,
    eq_of_marker? lastUpdated⟩

theorem Action.tells : Tells Action.changes Eq where
  id_of_beq same := congrArg Action.id (eq_of_beq same)
  content_id _ _ := rfl
  id_of_content_beq same := congrArg ActionChanges.id (eq_of_beq same)
  of_beq := eq_of_beq
  of_content := Action.eq_of_changes

theorem Scenario.agrees_of_beq {one two : Scenario} (same : (one == two) = true) : one.Agrees two := by
  obtain ⟨equal, risk, remainingRisk⟩ := (Scenario.beq_iff one two).mp same
  simp only [Scenario.withoutRisks, Scenario.mk.injEq] at equal
  obtain ⟨-, title, description, url, threatActors, vulnerabilities, -, -, actions⟩ := equal
  refine ⟨title, description, url, ?_, ?_, risk, remainingRisk, ?_⟩
  · exact threatActors ▸ .refl _
  · exact vulnerabilities ▸ .refl _
  · exact actions ▸ .refl _

theorem Scenario.agrees_of_changes {old one two : Scenario}
    (same : (old.changes one == old.changes two) = true) : one.Agrees two := by
  have fields : (_ && (_ && (_ && (_ && (_ && (_ && (_ && (_ && _)))))))) = true := same
  simp only [Bool.and_eq_true] at fields
  obtain ⟨-, title, description, url, threatActors, vulnerabilities, risk, remainingRisk, actions⟩ := fields
  exact ⟨eq_of_marker? title, eq_of_marker? description, eq_of_marker? url,
    sameMembers_of_valueMarkers threatActors, sameMembers_of_valueMarkers vulnerabilities,
    Risk.beq_of_marker risk, Risk.beq_of_marker remainingRisk,
    sameById_of_memberMarkers Action.tells actions⟩

theorem Scenario.tells : Tells Scenario.changes Scenario.Agrees where
  id_of_beq {x y} same := by
    have equal := congrArg Scenario.id ((Scenario.beq_iff x y).mp same).1
    exact equal
  content_id _ _ := rfl
  id_of_content_beq {c d} same := by
    have fields : (_ && (_ && (_ && (_ && (_ && (_ && (_ && (_ && _)))))))) = true := same
    exact eq_of_beq (Bool.and_eq_true_iff.mp fields).1
  of_beq := Scenario.agrees_of_beq
  of_content := Scenario.agrees_of_changes

theorem Card.agrees_of_changes {old one two : Card} (same : (old.changes one == old.changes two) = true) :
    one.Agrees two := by
  have fields : (_ && (_ && (_ && _))) = true := same
  simp only [Bool.and_eq_true] at fields
  obtain ⟨title, scope, valuations, scenarios⟩ := fields
  exact ⟨eq_of_marker? title, eq_of_marker? scope, sameMembers_of_valueMarkers valuations,
    sameById_of_memberMarkers Scenario.tells scenarios⟩

end Fourth

/-! ## Both generations -/

/-- Cards with equal changes against one old card agree. Numbers need no condition: changes with a
    not-a-number equal no changes. -/
theorem agree_of_changes :
    (∀ old one two : Third.Card, (old.changes one == old.changes two) = true → one.Agrees two) ∧
      ∀ old one two : Fourth.Card, (old.changes one == old.changes two) = true → one.Agrees two :=
  ⟨fun _ _ _ => Third.Card.agrees_of_changes, fun _ _ _ => Fourth.Card.agrees_of_changes⟩

/-- A scenario with an estimate, actors and a measure in some state. -/
def flood (estimate : Binary64) (actors : List ThreatActor) (status : ActionStatus) : Third.Scenario where
  id := "s1"
  title := "Flood"
  description := "The cellar is under water"
  url := none
  threatActors := actors
  vulnerabilities := [.misconfiguration, .denialOfService]
  risk := ⟨some "Rare", estimate, .ofWord false 1⟩
  remainingRisk := ⟨none, .ofWord false 0, .ofWord false 1⟩
  existingActions := some "Pumps"
  actions := [⟨"a1", "Move the racks", "", none, status, some "facilities", none⟩]

/-- A scenario of which only the title varies. -/
def theft (title : String) : Third.Scenario :=
  { flood (.ofWord false 1) [] .notStarted with id := "s2", title := title }

/-- A card that values some assets. -/
def depot (assets : List String) (scenarios : List Third.Scenario) : Third.Card where
  title := "Depot"
  scope := "The cellar"
  valuations := assets.map fun asset => ⟨asset, "HIGH", "HIGH", "LOW"⟩
  scenarios := scenarios

/-- The depot before a review. -/
def oldDepot : Third.Card := depot ["Servers"] [flood (.ofWord false 0) [.insider, .hacktivist] .notStarted]

/-- The depot after it. -/
def reviewedDepot : Third.Card :=
  depot ["Servers", "Tapes"] [flood (.ofWord false 0) [.insider] .completed, theft "Theft"]

/-- The same with members in another order and more often, and a zero of the other sign. -/
def reorderedDepot : Third.Card :=
  depot ["Tapes", "Servers", "Tapes"]
    [theft "Theft", flood (.ofWord true 0) [.insider, .insider] .completed, theft "Burglary"]

/-- The two depots after the review have the same changes, so they agree, and so they do in the fourth
    generation. -/
theorem agree_of_changes_depot :
    reviewedDepot.Agrees reorderedDepot ∧
      (Generation.card reviewedDepot).Agrees (Generation.card reorderedDepot) :=
  ⟨agree_of_changes.1 oldDepot reviewedDepot reorderedDepot (by decide +kernel),
    agree_of_changes.2 (Generation.card oldDepot) (Generation.card reviewedDepot)
      (Generation.card reorderedDepot) (by decide +kernel)⟩

end Scorecard

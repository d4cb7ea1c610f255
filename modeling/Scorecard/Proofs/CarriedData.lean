import Mathlib.Data.List.Forall2
import Scorecard.Proofs.MigrationRun

/-!
# What a migration carries over

Every part of a record that a run does not rewrite arrives as it was. `Record.CarriedTo` says field by
field what a run makes of a record: the lists of scenarios and actions keep their length and order,
and only the crossed steps touch the scope, the vulnerabilities, the numbers and the stamps. Every
migration upward succeeds and carries the record over (`toVersion_carries`).
-/

namespace Scorecard

/-- A card of either generation. -/
inductive Record where
  | third (card : Third.Card)
  | fourth (card : Fourth.Card)

/-- The card of a document, whatever its version. -/
def Document.record? : Document → Option Record
  | .v3_2 c | .v3_3 c => some (.third c)
  | .v4_0 c | .v4_1 c | .v4_2 c => some (.fourth c)
  | .unknown _ _ => none

namespace Migration

/-- A step is part of a run if it lies between the two ends of the run. -/
def Span.Crosses (run leg : Span) : Prop := run.source ≤ leg.source ∧ leg.target ≤ run.target

instance (run leg : Span) : Decidable (run.Crosses leg) :=
  inferInstanceAs (Decidable (run.source ≤ leg.source ∧ leg.target ≤ run.target))

/-- What a run does to a record of the fourth generation: whether the numbers move to the new scales,
    and whether the actions get a stamp, and which one. -/
structure Passage where
  rescales : Bool
  stamps : Bool
  published : Option Timestamp

/-- The passage of a run, by the steps that it crosses. -/
def passage (options : Options) (run : Span) : Passage where
  rescales := decide (run.Crosses ⟨.v4_0, .v4_1⟩)
  stamps := decide (run.Crosses ⟨.v4_1, .v4_2⟩)
  published := options.lastPublished

end Migration

open Migration

/-- The summary stays; each number stays or is rescaled by its own table. -/
structure Risk.CarriedTo (passage : Passage) (old new : Risk) : Prop where
  summary : new.summary = old.summary
  probability :
    new.probability = if passage.rescales then Rescaling.probability old.probability else old.probability
  consequence :
    new.consequence = if passage.rescales then Rescaling.consequence old.consequence else old.consequence

namespace Third

/-- An action arrives without owner and deadline, and without a stamp unless the run sets one. -/
structure Action.CarriedTo (passage : Passage) (old : Action) (new : Fourth.Action) : Prop where
  id : new.id = old.id
  title : new.title = old.title
  description : new.description = old.description
  url : new.url = old.url
  status : new.status = old.status
  lastUpdated : new.lastUpdated = if passage.stamps then passage.published else none

/-- The vulnerabilities move to the new categories, of which the first occurrences stay. -/
structure Scenario.CarriedTo (passage : Passage) (old : Scenario) (new : Fourth.Scenario) : Prop where
  id : new.id = old.id
  title : new.title = old.title
  description : new.description = old.description
  url : new.url = old.url
  threatActors : new.threatActors = old.threatActors
  vulnerabilities :
    new.vulnerabilities = (old.vulnerabilities.map Third.Vulnerability.remapped).eraseDups
  risk : old.risk.CarriedTo passage new.risk
  remainingRisk : old.remainingRisk.CarriedTo passage new.remainingRisk
  actions : List.Forall₂ (Action.CarriedTo passage) old.actions new.actions

/-- An empty scope is left out, any other is there. -/
structure Card.CarriedTo (passage : Passage) (old : Card) (new : Fourth.Card) : Prop where
  title : new.title = old.title
  scope : new.scope = if old.scope = "" then none else some old.scope
  valuations : new.valuations = old.valuations
  scenarios : List.Forall₂ (Scenario.CarriedTo passage) old.scenarios new.scenarios

end Third

namespace Fourth

structure Action.CarriedTo (passage : Passage) (old new : Action) : Prop where
  id : new.id = old.id
  title : new.title = old.title
  description : new.description = old.description
  url : new.url = old.url
  status : new.status = old.status
  lastUpdated : new.lastUpdated = if passage.stamps then passage.published else old.lastUpdated

structure Scenario.CarriedTo (passage : Passage) (old new : Scenario) : Prop where
  id : new.id = old.id
  title : new.title = old.title
  description : new.description = old.description
  url : new.url = old.url
  threatActors : new.threatActors = old.threatActors
  vulnerabilities : new.vulnerabilities = old.vulnerabilities
  risk : old.risk.CarriedTo passage new.risk
  remainingRisk : old.remainingRisk.CarriedTo passage new.remainingRisk
  actions : List.Forall₂ (Action.CarriedTo passage) old.actions new.actions

structure Card.CarriedTo (passage : Passage) (old new : Card) : Prop where
  title : new.title = old.title
  scope : new.scope = old.scope
  valuations : new.valuations = old.valuations
  scenarios : List.Forall₂ (Scenario.CarriedTo passage) old.scenarios new.scenarios

end Fourth

/-- What a run makes of a record. A record of the third generation stays as it is until the run crosses
    the change of generation. -/
def Record.CarriedTo (options : Options) (run : Span) : Record → Record → Prop
  | .third old, .third new => ¬ run.Crosses ⟨.v3_3, .v4_0⟩ ∧ new = old
  | .third old, .fourth new => run.Crosses ⟨.v3_3, .v4_0⟩ ∧ old.CarriedTo (passage options run) new
  | .fourth old, .fourth new => ¬ run.Crosses ⟨.v3_3, .v4_0⟩ ∧ old.CarriedTo (passage options run) new
  | .fourth _, .third _ => False

/-! ## One step in front of a passage -/

section Steps

variable {passage : Passage}

theorem Risk.carried_self {r : Risk} (rests : passage.rescales = false) : r.CarriedTo passage r :=
  ⟨rfl, by simp [rests], by simp [rests]⟩

/-- The step to 4.1 in front of a passage that rescales nothing more. -/
theorem Risk.carried_of_rescaled {r new : Risk} (rests : passage.rescales = false)
    (carried : (Rescaling.risk r).CarriedTo passage new) :
    r.CarriedTo { passage with rescales := true } new := by
  obtain ⟨summary, probability, consequence⟩ := carried
  rw [rests] at probability consequence
  exact ⟨summary, probability, consequence⟩

theorem Risk.CarriedTo.eq_risk {r new : Risk} (carried : r.CarriedTo passage new) (rescales : passage.rescales = true) :
    new = Rescaling.risk r := by
  obtain ⟨summary, probability, consequence⟩ := carried
  rw [if_pos rescales] at probability consequence
  calc
    new = ⟨new.summary, new.probability, new.consequence⟩ := rfl
    _ = Rescaling.risk r := by rw [summary, probability, consequence, Rescaling.risk]

theorem Fourth.carried_self {c : Fourth.Card} (rests : passage.rescales = false)
    (unstamped : passage.stamps = false) : c.CarriedTo passage c := by
  refine ⟨rfl, rfl, rfl, List.forall₂_same.mpr ?_⟩
  intro s _
  refine ⟨rfl, rfl, rfl, rfl, rfl, rfl, Risk.carried_self rests, Risk.carried_self rests,
    List.forall₂_same.mpr ?_⟩
  intro a _
  exact ⟨rfl, rfl, rfl, rfl, rfl, by simp [unstamped]⟩

theorem Fourth.carried_of_rescaled {c new : Fourth.Card} (rests : passage.rescales = false)
    (carried : (Rescaling.card c).CarriedTo passage new) :
    c.CarriedTo { passage with rescales := true } new := by
  obtain ⟨title, scope, valuations, scenarios⟩ := carried
  refine ⟨title, scope, valuations, ?_⟩
  refine (List.forall₂_map_left_iff.mp scenarios).imp ?_
  intro old new s
  exact ⟨s.id, s.title, s.description, s.url, s.threatActors, s.vulnerabilities,
    Risk.carried_of_rescaled rests s.risk, Risk.carried_of_rescaled rests s.remainingRisk,
    s.actions.imp fun old new a => ⟨a.id, a.title, a.description, a.url, a.status, a.lastUpdated⟩⟩

theorem Stamping.action_eq (published : Option Timestamp) (a : Fourth.Action) :
    Stamping.action published a = { a with lastUpdated := published } := by
  by_cases same : a.lastUpdated = published
  · subst same
    simp [Stamping.action, Stamping.isStamped]
  · simp [Stamping.action, Stamping.isStamped, same]

/-- The step to 4.2 in front of a passage that stamps nothing more. -/
theorem Fourth.carried_of_stamped {c new : Fourth.Card} (unstamped : passage.stamps = false)
    (carried : (Stamping.card passage.published c).CarriedTo passage new) :
    c.CarriedTo { passage with stamps := true } new := by
  obtain ⟨title, scope, valuations, scenarios⟩ := carried
  refine ⟨title, scope, valuations, ?_⟩
  refine (List.forall₂_map_left_iff.mp scenarios).imp ?_
  intro old new s
  refine ⟨s.id, s.title, s.description, s.url, s.threatActors, s.vulnerabilities,
    ⟨s.risk.summary, s.risk.probability, s.risk.consequence⟩,
    ⟨s.remainingRisk.summary, s.remainingRisk.probability, s.remainingRisk.consequence⟩, ?_⟩
  refine (List.forall₂_map_left_iff.mp s.actions).imp ?_
  intro old new a
  rw [Stamping.action_eq] at a
  refine ⟨a.id, a.title, a.description, a.url, a.status, ?_⟩
  simpa [unstamped] using a.lastUpdated

/-- The change of generation in front of a passage. -/
theorem Third.carried_of_generation {c : Third.Card} {new : Fourth.Card}
    (carried : (Generation.card c).CarriedTo passage new) : c.CarriedTo passage new := by
  obtain ⟨title, scope, valuations, scenarios⟩ := carried
  refine ⟨title, ?_, valuations, ?_⟩
  · rw [scope]
    by_cases empty : c.scope = "" <;> simp [Generation.card, nonEmpty?, Option.filter, empty]
  · refine (List.forall₂_map_left_iff.mp scenarios).imp ?_
    intro old new s
    exact ⟨s.id, s.title, s.description, s.url, s.threatActors,
      s.vulnerabilities.trans (Generation.remapping_vulnerabilities old.vulnerabilities), s.risk,
      s.remainingRisk, (List.forall₂_map_left_iff.mp s.actions).imp fun old new a =>
        ⟨a.id, a.title, a.description, a.url, a.status, a.lastUpdated⟩⟩

end Steps

/-! ## Runs -/

namespace Migration

variable {options : Options} {document reached : Document}

/-- A run that stays at a version crosses no step. -/
theorem not_crosses_self {version low high : Version} (climbs : low < high) :
    ¬ Span.Crosses ⟨version, version⟩ ⟨low, high⟩ :=
  fun crosses => absurd climbs (Version.le_trans crosses.2 crosses.1)

/-- A run that starts above the lower end of a step does not cross it. -/
theorem not_crosses_of_lt {source target low high : Version} (above : low < source) :
    ¬ Span.Crosses ⟨source, target⟩ ⟨low, high⟩ :=
  fun crosses => crosses.1 above

/-- A run that starts not above a step crosses it exactly if it reaches its upper end. -/
theorem crosses_iff {source target low high : Version} (below : source ≤ low) :
    Span.Crosses ⟨source, target⟩ ⟨low, high⟩ ↔ high ≤ target :=
  ⟨And.right, fun reaches => ⟨below, reaches⟩⟩

/-- Runs that start at 4.0 or below and end together make the same passage. -/
theorem passage_of_le {lower upper target : Version} (one : lower ≤ .v4_0) (two : upper ≤ .v4_0) :
    passage options ⟨lower, target⟩ = passage options ⟨upper, target⟩ := by
  have onward : Version.v4_0 ≤ Version.v4_1 := by decide
  simp [passage, crosses_iff one, crosses_iff two, crosses_iff (Version.le_trans one onward),
    crosses_iff (Version.le_trans two onward)]

theorem passage_from_v4_0 {target : Version} (reaches : Version.v4_1 ≤ target) :
    passage options ⟨.v4_0, target⟩ = { passage options ⟨.v4_1, target⟩ with rescales := true } := by
  have below : Version.v4_0 ≤ Version.v4_1 := by decide
  simp [passage, crosses_iff below, crosses_iff (Version.le_refl _), reaches]

theorem passage_from_v4_1 {target : Version} (reaches : Version.v4_2 ≤ target) :
    passage options ⟨.v4_1, target⟩ = { passage options ⟨.v4_2, target⟩ with stamps := true } := by
  have one : Version.v4_0 < Version.v4_1 := by decide
  have two : Version.v4_0 < Version.v4_2 := by decide
  simp [passage, crosses_iff (Version.le_refl _), not_crosses_of_lt one, not_crosses_of_lt two, reaches]

theorem fourth_carried_self (c : Fourth.Card) {version : Version} (above : Version.v3_3 < version) :
    (Record.fourth c).CarriedTo options ⟨version, version⟩ (.fourth c) := by
  have rescaling : ¬ Span.Crosses ⟨version, version⟩ ⟨.v4_0, .v4_1⟩ := not_crosses_self (by decide)
  have stamping : ¬ Span.Crosses ⟨version, version⟩ ⟨.v4_1, .v4_2⟩ := not_crosses_self (by decide)
  exact ⟨not_crosses_of_lt above,
    Fourth.carried_self (by simp [passage, rescaling]) (by simp [passage, stamping])⟩

theorem record_carried_self (options : Options) {version : Version} (known : document.version? = some version) :
    ∃ old, document.record? = some old ∧ old.CarriedTo options ⟨version, version⟩ old := by
  cases document with
  | v3_2 c | v3_3 c => exact ⟨.third c, rfl, not_crosses_self (by decide), rfl⟩
  | v4_0 c | v4_1 c | v4_2 c =>
    cases known
    exact ⟨.fourth c, rfl, fourth_carried_self c (by decide)⟩
  | unknown => cases known

/-- Step lemma. A step is put in front of what the rest of a run makes of the record behind it. -/
theorem Raises.carries {leg : Span} {report : Report} {middle : Document} {target : Version} {passed new : Record}
    (raises : Raises options document leg report middle) (onward : leg.target ≤ target)
    (between : middle.record? = some passed) (carried : passed.CarriedTo options ⟨leg.target, target⟩ new) :
    ∃ old, document.record? = some old ∧ old.CarriedTo options ⟨leg.source, target⟩ new := by
  cases raises with
  | version c =>
    cases between
    refine ⟨.third c, rfl, ?_⟩
    have same : Span.Crosses ⟨.v3_2, target⟩ ⟨.v3_3, .v4_0⟩ ↔
        Span.Crosses ⟨.v3_3, target⟩ ⟨.v3_3, .v4_0⟩ := by
      rw [crosses_iff (by decide), crosses_iff (by decide)]
    cases new with
    | third d => exact ⟨mt same.mp carried.1, carried.2⟩
    | fourth d =>
      have passage_eq : passage options ⟨.v3_2, target⟩ = passage options ⟨.v3_3, target⟩ :=
        passage_of_le (by decide) (by decide)
      exact ⟨same.mpr carried.1, passage_eq ▸ carried.2⟩
  | generation c =>
    cases between
    cases new with
    | third d => exact carried.elim
    | fourth d =>
      have passage_eq : passage options ⟨.v3_3, target⟩ = passage options ⟨.v4_0, target⟩ :=
        passage_of_le (by decide) (by decide)
      refine ⟨.third c, rfl, (crosses_iff (by decide)).mpr onward, ?_⟩
      rw [passage_eq]
      exact Third.carried_of_generation carried.2
  | rescaling c =>
    cases between
    cases new with
    | third d => exact carried.elim
    | fourth d =>
      refine ⟨.fourth c, rfl, not_crosses_of_lt (by decide), ?_⟩
      have rests : (passage options ⟨.v4_1, target⟩).rescales = false := by
        simp [passage, not_crosses_of_lt (show Version.v4_0 < Version.v4_1 by decide)]
      rw [passage_from_v4_0 onward]
      exact Fourth.carried_of_rescaled rests carried.2
  | stamping c =>
    cases between
    cases new with
    | third d => exact carried.elim
    | fourth d =>
      refine ⟨.fourth c, rfl, not_crosses_of_lt (by decide), ?_⟩
      have unstamped : (passage options ⟨.v4_2, target⟩).stamps = false := by
        simp [passage, not_crosses_of_lt (show Version.v4_1 < Version.v4_2 by decide)]
      rw [passage_from_v4_1 onward]
      exact Fourth.carried_of_stamped unstamped carried.2

/-- Run lemma, by induction on the run from its end. -/
theorem Run.carries {trace : List (Span × Report)} (run : Run options document trace reached)
    {source target : Version} (start : document.version? = some source)
    (finish : reached.version? = some target) :
    ∃ old new, document.record? = some old ∧ reached.record? = some new ∧
      old.CarriedTo options ⟨source, target⟩ new := by
  induction run generalizing source with
  | stay document =>
    cases start.symm.trans finish
    obtain ⟨old, record, carried⟩ := record_carried_self options start
    exact ⟨old, old, record, record, carried⟩
  | @step document middle reached leg report rest raises later ih =>
    cases raises.source.symm.trans start
    obtain ⟨passed, new, between, arrived, carried⟩ := ih raises.target finish
    obtain ⟨old, departed, whole⟩ := raises.carries (later.le raises.target finish) between carried
    exact ⟨old, new, departed, arrived, whole⟩

/-- Every migration upward succeeds, and its record is the image of the record that it started from. -/
theorem toVersion_carries (options : Options) {source target : Version}
    (start : document.version? = some source) (supported : target.IsSupported) (upward : source ≤ target) :
    ∃ reached status old new, toVersion document target options = .ok (reached, status) ∧
      reached.version? = some target ∧ document.record? = some old ∧ reached.record? = some new ∧
      old.CarriedTo options ⟨source, target⟩ new := by
  obtain ⟨trace, reached, run, finish⟩ := run_exists options document start supported upward
  obtain ⟨old, new, left, right, carried⟩ := run.carries start finish
  exact ⟨reached, _, old, new, toVersion_run run start finish, finish, left, right, carried⟩

/-- A card whose vulnerabilities collapse: two of the old categories move to one new one. -/
def breach : Third.Card where
  title := "Payments"
  scope := ""
  valuations := [⟨"Card data", "HIGH", "HIGH", "LOW"⟩]
  scenarios := [{
    id := "s1"
    title := "Breach"
    description := "An administrator is impersonated"
    url := some "https://example.org/s1"
    threatActors := [.organisedCrime, .insider]
    vulnerabilities := [.compromisedAdminUser, .misconfiguration, .escalationOfRights]
    risk := ⟨some "Likely", Rescaling.preset 50 0, Rescaling.preset 12345 (-1)⟩
    remainingRisk := ⟨none, Rescaling.preset 1 (-1), Rescaling.preset 1000 0⟩
    existingActions := none
    actions := [⟨"a1", "Second factor", "", none, .completed, some "team", none⟩] }]

/-- From 3.3 to 4.2 the scope goes, the two categories become one where the first stood, and the presets 50 and 0.1 of
    the probability and 1000 of the consequence move to the new scales; a consequence of 1234.5 is no preset. -/
theorem toVersion_carries_breach :
    ∃ reached status new, toVersion (.v3_3 breach) .v4_2 .none = .ok (reached, status) ∧
      reached.record? = some (.fourth new) ∧ new.title = "Payments" ∧ new.scope = none ∧
      new.scenarios.map Fourth.Scenario.vulnerabilities = [[.unauthorizedAccess, .misconfiguration]] ∧
      new.scenarios.map Fourth.Scenario.risk =
        [⟨some "Likely", Rescaling.preset 20 0, Rescaling.preset 12345 (-1)⟩] ∧
      new.scenarios.map Fourth.Scenario.remainingRisk =
        [⟨none, Rescaling.preset 5 (-2), Rescaling.preset 8000 0⟩] := by
  obtain ⟨reached, status, old, new, migrated, -, left, right, carried⟩ :=
    toVersion_carries .none (rfl : (Document.v3_3 breach).version? = _) (by decide : Version.v4_2.IsSupported)
      (by decide)
  cases left
  cases new with
  | third d => exact absurd ((crosses_iff (by decide)).mpr (by decide)) carried.1
  | fourth d =>
    obtain ⟨title, scope, -, scenarios⟩ := carried.2
    have rescales : (passage .none ⟨.v3_3, .v4_2⟩).rescales = true := by decide
    rcases List.forall₂_cons_left_iff.mp scenarios with ⟨s, rest, carries, none, equal⟩
    cases none
    refine ⟨reached, status, d, migrated, right, title, scope.trans (by decide), ?_, ?_, ?_⟩
    · simp only [equal, List.map_cons, List.map_nil, carries.vulnerabilities]
      decide
    · simp only [equal, List.map_cons, List.map_nil, carries.risk.eq_risk rescales]
      rfl
    · simp only [equal, List.map_cons, List.map_nil, carries.remainingRisk.eq_risk rescales]
      rfl

end Migration
end Scorecard

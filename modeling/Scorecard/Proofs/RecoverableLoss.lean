import Scorecard.Proofs.EqualResults
import Scorecard.Proofs.RemappedVulnerabilities

/-!
# What the change of generation drops can be recovered

The change of generation drops the existing actions of a scenario and the owners and deadlines of its actions, and it
renames vulnerabilities. If the ids of the scenarios do not repeat, nor those of the actions within a scenario, the
card that it leads to and its log tell all of that: two cards with equal results resemble each other
(`generation_recoverable`), which leaves open only the vulnerabilities that keep their names and whether a text is
empty or absent. The entries of the log are matched by id, first those of the scenarios and then, within a scenario,
those of the actions.
-/

namespace Scorecard

open Migration

/-! ## Cards that resemble each other -/

/-- The texts are the same, where an absent one counts as empty. -/
def SameText (s t : Option String) : Prop := s.getD "" = t.getD ""

theorem getD_nonEmpty? (s : Option String) : (nonEmpty? s).getD "" = s.getD "" := by
  cases s with
  | none => rfl
  | some text => by_cases empty : text = "" <;> simp [nonEmpty?, Option.filter, empty]

theorem sameText_of_nonEmpty? {s t : Option String} (same : nonEmpty? s = nonEmpty? t) : SameText s t := by
  rw [SameText, ← getD_nonEmpty? s, ← getD_nonEmpty? t, same]

namespace Third

/-- The actions are equal up to an owner or deadline that is empty in the one and absent in the other. -/
structure Action.Resembles (a b : Action) : Prop where
  id : a.id = b.id
  title : a.title = b.title
  description : a.description = b.description
  url : a.url = b.url
  status : a.status = b.status
  owner : SameText a.owner b.owner
  deadline : SameText a.deadline b.deadline

/-- The scenarios are equal up to vulnerabilities that keep their names, empty or absent texts, and numbers that are
    merely related. -/
structure Scenario.Resembles (same : Binary64 → Binary64 → Prop) (s t : Scenario) : Prop where
  id : s.id = t.id
  title : s.title = t.title
  description : s.description = t.description
  url : s.url = t.url
  threatActors : s.threatActors = t.threatActors
  renamed : (s.vulnerabilities.filter fun v => Vocabulary.name v.remapped ≠ Vocabulary.name v) =
    t.vulnerabilities.filter fun v => Vocabulary.name v.remapped ≠ Vocabulary.name v
  risk : s.risk.SameBy same t.risk
  remainingRisk : s.remainingRisk.SameBy same t.remainingRisk
  existingActions : SameText s.existingActions t.existingActions
  actions : List.Forall₂ Action.Resembles s.actions t.actions

/-- The cards are equal up to what scenarios that resemble each other may differ in. -/
structure Card.Resembles (same : Binary64 → Binary64 → Prop) (c d : Card) : Prop where
  title : c.title = d.title
  scope : c.scope = d.scope
  valuations : c.valuations = d.valuations
  scenarios : List.Forall₂ (Scenario.Resembles same) c.scenarios d.scenarios

end Third

/-! ## Actions -/

theorem eq_of_rel {α : Type} {x y : Option α} (rel : Option.Rel Eq x y) : x = y := by
  cases rel with
  | none => rfl
  | some equal => rw [equal]

/-- Entries that say nothing are told apart by their ids and titles only. -/
theorem Migration.ReshapedScenario.eq_of_isEmpty {d e : ReshapedScenario} (left : d.isEmpty = true)
    (right : e.isEmpty = true) (id : d.id = e.id) (title : d.title = e.title) : d = e := by
  cases d; cases e
  simp_all [ReshapedScenario.isEmpty]

namespace Generation

theorem removedOwner_stripped? (a : Third.Action) :
    (stripped? a).bind StrippedAction.removedOwner = nonEmpty? a.owner := by
  simp only [stripped?]
  split <;> simp_all

theorem removedDeadline_stripped? (a : Third.Action) :
    (stripped? a).bind StrippedAction.removedDeadline = nonEmpty? a.deadline := by
  simp only [stripped?]
  split <;> simp_all

theorem id_stripped? (a : Third.Action) (entry : StrippedAction) (entered : stripped? a = some entry) :
    entry.id = a.id := by
  simp only [stripped?, Option.ite_none_right_eq_some] at entered
  obtain ⟨-, equal⟩ := entered
  exact (congrArg StrippedAction.id (Option.some.inj equal)).symm

theorem action_resembles {a b : Third.Action} (moved : action a = action b) (logged : stripped? a = stripped? b) :
    a.Resembles b where
  id := congrArg Fourth.Action.id moved
  title := congrArg Fourth.Action.title moved
  description := congrArg Fourth.Action.description moved
  url := congrArg Fourth.Action.url moved
  status := congrArg Fourth.Action.status moved
  owner := by
    have owners := congrArg (·.bind StrippedAction.removedOwner) logged
    simp only [removedOwner_stripped?] at owners
    exact sameText_of_nonEmpty? owners
  deadline := by
    have deadlines := congrArg (·.bind StrippedAction.removedDeadline) logged
    simp only [removedDeadline_stripped?] at deadlines
    exact sameText_of_nonEmpty? deadlines

theorem actions_resemble {as bs : List Third.Action} (distinct : (as.map Third.Action.id).Nodup)
    (moved : as.map action = bs.map action) (logged : as.filterMap stripped? = bs.filterMap stripped?) :
    List.Forall₂ Third.Action.Resembles as bs := by
  have actions := (forall₂_map_eq_iff action as bs).mpr moved
  have ids := (forall₂_map_eq_iff Third.Action.id as bs).mp (actions.imp fun _ _ => congrArg Fourth.Action.id)
  have entries : List.Forall₂ Eq (as.filterMap stripped?) (bs.filterMap stripped?) := by
    rwa [List.forall₂_eq_eq_eq]
  have alike := alike_entries StrippedAction.id id_stripped? (fun _ _ => congrArg _) ids distinct entries
  exact actions.mp (fun a b same rel => action_resembles same (eq_of_rel rel)) alike

/-! ## Scenarios -/

/-- An entry that is left out says nothing, so entries that are kept alike are equal, kept or not. -/
theorem reshaped_eq {s t : Third.Scenario} (id : s.id = t.id) (title : s.title = t.title)
    (logged : logged? s = logged? t) : reshaped s = reshaped t := by
  by_cases empty : (reshaped s).isEmpty = true
  · have left : logged? s = none := by simp [logged?, empty]
    have right : (reshaped t).isEmpty = true := by simpa [logged?] using logged.symm.trans left
    exact ReshapedScenario.eq_of_isEmpty empty right id title
  · have left : logged? s = some (reshaped s) := by simpa [logged?] using empty
    exact (Option.guard_eq_some_iff.mp (logged.symm.trans left)).1.symm

theorem scenario_resembles {same : Binary64 → Binary64 → Prop} {s t : Third.Scenario}
    (distinct : (s.actions.map Third.Action.id).Nodup) (moved : (scenario s).SameBy same (scenario t))
    (logged : logged? s = logged? t) : s.Resembles same t := by
  obtain ⟨equal, risk, remainingRisk⟩ := moved
  simp only [Fourth.Scenario.withoutRisks, scenario, Fourth.Scenario.mk.injEq] at equal
  obtain ⟨id, title, description, url, threatActors, -, -, -, actions⟩ := equal
  have entry := reshaped_eq id title logged
  have notes := congrArg (fun e => e.changedVulnerabilities.map Remap.oldValue) entry
  have renamed := ((isNoted_reshaped s).oldValues.symm.trans notes).trans (isNoted_reshaped t).oldValues
  have existingActions := sameText_of_nonEmpty? (congrArg ReshapedScenario.removedExistingActions entry)
  have stripped := congrArg ReshapedScenario.changedActions entry
  exact ⟨id, title, description, url, threatActors, renamed, risk, remainingRisk, existingActions,
    actions_resemble distinct actions stripped⟩

/-! ## Cards -/

/-- Cards that lead to alike cards and leave the same log resemble each other. -/
theorem card_resembles {same : Binary64 → Binary64 → Prop} {one two : Third.Card}
    (scenarios : (one.scenarios.map Third.Scenario.id).Nodup)
    (actions : ∀ s ∈ one.scenarios, (s.actions.map Third.Action.id).Nodup)
    (moved : (card one).SameBy same (card two)) (logged : log one = log two) : one.Resembles same two := by
  obtain ⟨title, scope, valuations, members⟩ := moved
  have members : List.Forall₂ (fun s t => (scenario s).SameBy same (scenario t)) one.scenarios two.scenarios :=
    List.forall₂_map_right_iff.mp (List.forall₂_map_left_iff.mp members)
  have ids : one.scenarios.map Third.Scenario.id = two.scenarios.map Third.Scenario.id :=
    (forall₂_map_eq_iff Third.Scenario.id _ _).mp (members.imp fun _ _ moved => moved.id_eq)
  have entries : List.Forall₂ Eq (one.scenarios.filterMap logged?) (two.scenarios.filterMap logged?) := by
    rwa [List.forall₂_eq_eq_eq, ← log_eq_filterMap, ← log_eq_filterMap]
  have alike := alike_entries ReshapedScenario.id id_logged? (fun _ _ => congrArg _) ids scenarios entries
  have scope : one.scope = two.scope := sameText_of_nonEmpty? (s := some one.scope) (t := some two.scope) scope
  refine ⟨title, scope, valuations, ?_⟩
  have placed := (List.forall₂_and_left _ _).mpr ⟨actions, alike⟩
  exact members.mp (fun s t moved rest => scenario_resembles rest.1 moved (eq_of_rel rest.2)) placed

end Generation

theorem Migration.Report.reshaped_eq_of_beq {one two : Report} (same : (one == two) = true) :
    one.reshaped = two.reshaped := by
  unfold Report.reshaped
  obtain ⟨left, right⟩ | ⟨log, left, right⟩ | ⟨log, log', left, right, -⟩ | ⟨log, log', left, right⟩ :=
    log_cases_of_beq same
  all_goals rw [left, right]

/-- Cards with equal results of the change of generation resemble each other, in which their numbers are compared as
    those of the results. It is enough that the ids of the one card do not repeat, for the other one has the same. -/
theorem generation_recoverable {one two : Third.Card} (scenarios : (one.scenarios.map Third.Scenario.id).Nodup)
    (actions : ∀ s ∈ one.scenarios, (s.actions.map Third.Action.id).Nodup) :
    ((Generation.step one == Generation.step two) = true → one.Resembles Binary64.SameValue two) ∧
      (Generation.step one = Generation.step two → one.Resembles Eq two) := by
  constructor
  · intro equal
    obtain ⟨cards, reports⟩ := Bool.and_eq_true_iff.mp equal
    have logged : Generation.log one = Generation.log two := (Generation.reshaped_step one).symm.trans
      ((Report.reshaped_eq_of_beq reports).trans (Generation.reshaped_step two))
    exact Generation.card_resembles scenarios actions ((Fourth.Card.sameBy_value_iff _ _).mpr cards) logged
  · intro equal
    have cards : Generation.card one = Generation.card two := congrArg Prod.fst equal
    have logged : Generation.log one = Generation.log two := (Generation.reshaped_step one).symm.trans
      ((congrArg (fun result => result.2.reshaped) equal).trans (Generation.reshaped_step two))
    exact Generation.card_resembles scenarios actions ((Fourth.Card.sameBy_eq_iff _ _).mpr cards) logged

/-- A card with a renamed vulnerability that repeats, texts that are dropped from a scenario and from its actions, and
    a scenario that is not logged. -/
def clinic (zero : Binary64) (kept : List Third.Vulnerability) (blank : Option String) : Third.Card where
  title := "Clinic"
  scope := ""
  valuations := []
  scenarios := [{
      id := "s1"
      title := "Ransom"
      description := ""
      url := none
      threatActors := [.organisedCrime]
      vulnerabilities := .denialOfService :: kept ++ [.denialOfService]
      risk := ⟨none, zero, .ofWord false 1⟩
      remainingRisk := ⟨none, .ofWord false 1, zero⟩
      existingActions := some "Backups"
      actions := [⟨"a1", "Train the staff", "", none, .inProgress, some "Human resources", blank⟩,
        ⟨"a2", "Test the backups", "", none, .notStarted, blank, some "Next year"⟩] }, {
      id := "s2"
      title := "Typing error"
      description := ""
      url := none
      threatActors := [.recklessEmployee]
      vulnerabilities := kept
      risk := ⟨none, zero, zero⟩
      remainingRisk := ⟨none, zero, zero⟩
      existingActions := blank
      actions := [⟨"a1", "Check by another", "", none, .completed, blank, blank⟩] }]

/-- Texts that are empty or absent, a kept vulnerability once or twice, and, where results are compared by value, a zero
    of either sign: the results are equal, and so the cards resemble each other. -/
theorem generation_recoverable_clinic :
    let one := clinic (.ofWord false 0) [.misconfiguration] none
    let two := clinic (.ofWord false 0) [.misconfiguration, .misconfiguration] (some "")
    let three := clinic (.ofWord true 0) [.misconfiguration, .misconfiguration] (some "")
    (one.scenarios.map Third.Scenario.id).Nodup ∧ (∀ s ∈ one.scenarios, (s.actions.map Third.Action.id).Nodup) ∧
      Generation.step one = Generation.step two ∧ one.Resembles Eq two ∧
      (Generation.step one == Generation.step three) = true ∧ one.Resembles Binary64.SameValue three := by
  intro one two three
  have scenarios : (one.scenarios.map Third.Scenario.id).Nodup := by decide
  have actions : ∀ s ∈ one.scenarios, (s.actions.map Third.Action.id).Nodup := by decide
  have equal : Generation.step one = Generation.step two := rfl
  have alike : (Generation.step one == Generation.step three) = true := by decide +kernel
  exact ⟨scenarios, actions, equal, (generation_recoverable scenarios actions).2 equal, alike,
    (generation_recoverable scenarios actions).1 alike⟩

end Scorecard

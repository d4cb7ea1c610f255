import Scorecard.Proofs.CarriedData
import Scorecard.Proofs.MarkedLists

/-!
# Edits of one scalar

An author changes the title, the description or the url of a scenario, or one of these or the status of
an action. The steps of a migration carry these scalars over and decide nothing by them. So an edited
document migrates to what the document migrates to, edited in the same spot (`Run.withScalar`), and the
spot has the value that it had before (`Run.scalar_eq`).
-/

namespace Scorecard

/-! ## What can be edited -/

/-- The scalars of a scenario. -/
inductive ScenarioField where
  | title
  | description
  | url

/-- The scalars of an action. -/
inductive ActionField where
  | title
  | description
  | url
  | status

def ScenarioField.Scalar : ScenarioField → Type
  | title => String
  | description => String
  | url => Option String

def ActionField.Scalar : ActionField → Type
  | title => String
  | description => String
  | url => Option String
  | status => ActionStatus

/-- A scalar within a scenario: one of its own, or one of the action with an id. -/
inductive Place where
  | field (field : ScenarioField)
  | action (id : String) (field : ActionField)

def Place.Scalar : Place → Type
  | .field f => f.Scalar
  | .action _ f => f.Scalar

/-- A scalar within the scenario with an id. -/
structure Spot where
  scenario : String
  place : Place

section Lists

variable {α β : Type} [HasId α] [HasId β]

/-- Rewrites the members with an id, of which there is one where ids are told apart. -/
def rewriteById (id : String) (f : α → α) (xs : List α) : List α :=
  xs.map fun x => if HasId.id x = id then f x else x

theorem firstWithId_map {g : α → β} (keeps : ∀ x, HasId.id (g x) = HasId.id x) (id : String) (xs : List α) :
    firstWithId id (xs.map g) = (firstWithId id xs).map g := by
  induction xs with
  | nil => rfl
  | cons x rest ih =>
    rw [List.map_cons, firstWithId_cons, firstWithId_cons, keeps, ih]
    split <;> rfl

/-- A map that goes along with the rewriting of a member goes along with that of a list. -/
theorem map_rewriteById {g : α → β} {f : α → α} {h : β → β} (keeps : ∀ x, HasId.id (g x) = HasId.id x)
    (commutes : ∀ x, g (f x) = h (g x)) (id : String) (xs : List α) :
    (rewriteById id f xs).map g = rewriteById id h (xs.map g) := by
  rw [rewriteById, rewriteById, List.map_map, List.map_map]
  refine List.map_congr_left fun x _ => ?_
  simp only [Function.comp_apply, keeps]
  split
  · exact commutes x
  · rfl

/-- The rewriting leaves the members in their places, so the first one with an id is what it became. -/
theorem firstWithId_rewriteById {f : α → α} (keeps : ∀ x, HasId.id (f x) = HasId.id x) (id id' : String)
    (xs : List α) :
    firstWithId id' (rewriteById id f xs) = (firstWithId id' xs).map fun x => if HasId.id x = id then f x else x := by
  refine firstWithId_map (fun x => ?_) id' xs
  split
  · exact keeps x
  · rfl

theorem bind_firstWithId_map {δ : Type} {g : α → β} {get : α → Option δ} {get' : β → Option δ}
    (keeps : ∀ x, HasId.id (g x) = HasId.id x) (same : ∀ x, get' (g x) = get x) (id : String) (xs : List α) :
    (firstWithId id (xs.map g)).bind get' = (firstWithId id xs).bind get := by
  rw [firstWithId_map keeps, Option.bind_map]
  exact congrArg _ (funext same)

theorem map_firstWithId_map {δ : Type} {g : α → β} {get : α → δ} {get' : β → δ}
    (keeps : ∀ x, HasId.id (g x) = HasId.id x) (same : ∀ x, get' (g x) = get x) (id : String) (xs : List α) :
    (firstWithId id (xs.map g)).map get' = (firstWithId id xs).map get := by
  rw [firstWithId_map keeps, Option.map_map]
  exact congrArg (fun f => Option.map f _) (funext same)

end Lists

namespace Third

def Action.scalar (a : Action) : (f : ActionField) → f.Scalar
  | .title => a.title
  | .description => a.description
  | .url => a.url
  | .status => a.status

def Action.withScalar (a : Action) : (f : ActionField) → f.Scalar → Action
  | .title, new => { a with title := new }
  | .description, new => { a with description := new }
  | .url, new => { a with url := new }
  | .status, new => { a with status := new }

def Scenario.scalar? (s : Scenario) : (p : Place) → Option p.Scalar
  | .field .title => some s.title
  | .field .description => some s.description
  | .field .url => some s.url
  | .action id f => (firstWithId id s.actions).map fun a => a.scalar f

def Scenario.withScalar (s : Scenario) : (p : Place) → p.Scalar → Scenario
  | .field .title, new => { s with title := new }
  | .field .description, new => { s with description := new }
  | .field .url, new => { s with url := new }
  | .action id f, new => { s with actions := rewriteById id (fun a => a.withScalar f new) s.actions }

def Card.scalar? (c : Card) (spot : Spot) : Option spot.place.Scalar :=
  (firstWithId spot.scenario c.scenarios).bind fun s => s.scalar? spot.place

def Card.withScalar (c : Card) (spot : Spot) (new : spot.place.Scalar) : Card :=
  { c with scenarios := rewriteById spot.scenario (fun s => s.withScalar spot.place new) c.scenarios }

theorem Action.id_withScalar (a : Action) (f : ActionField) (new : f.Scalar) : (a.withScalar f new).id = a.id := by
  cases f <;> rfl

theorem Scenario.id_withScalar (s : Scenario) (p : Place) (new : p.Scalar) : (s.withScalar p new).id = s.id := by
  cases p with
  | field f => cases f <;> rfl
  | action => rfl

theorem Action.scalar_withScalar (a : Action) (f : ActionField) (new : f.Scalar) :
    (a.withScalar f new).scalar f = new := by
  cases f <;> rfl

theorem Scenario.scalar_withScalar (s : Scenario) (p : Place) (new : p.Scalar) :
    (s.withScalar p new).scalar? p = (s.scalar? p).map fun _ => new := by
  cases p with
  | field f => cases f <;> rfl
  | action id f =>
    simp only [Scenario.withScalar, Scenario.scalar?, firstWithId_rewriteById fun a => Action.id_withScalar a f new]
    cases found : firstWithId id s.actions with
    | none => rfl
    | some a =>
      rw [Option.map_some, if_pos (id_of_firstWithId found)]
      exact congrArg some (a.scalar_withScalar f new)

end Third

namespace Fourth

def Action.scalar (a : Action) : (f : ActionField) → f.Scalar
  | .title => a.title
  | .description => a.description
  | .url => a.url
  | .status => a.status

def Action.withScalar (a : Action) : (f : ActionField) → f.Scalar → Action
  | .title, new => { a with title := new }
  | .description, new => { a with description := new }
  | .url, new => { a with url := new }
  | .status, new => { a with status := new }

def Scenario.scalar? (s : Scenario) : (p : Place) → Option p.Scalar
  | .field .title => some s.title
  | .field .description => some s.description
  | .field .url => some s.url
  | .action id f => (firstWithId id s.actions).map fun a => a.scalar f

def Scenario.withScalar (s : Scenario) : (p : Place) → p.Scalar → Scenario
  | .field .title, new => { s with title := new }
  | .field .description, new => { s with description := new }
  | .field .url, new => { s with url := new }
  | .action id f, new => { s with actions := rewriteById id (fun a => a.withScalar f new) s.actions }

def Card.scalar? (c : Card) (spot : Spot) : Option spot.place.Scalar :=
  (firstWithId spot.scenario c.scenarios).bind fun s => s.scalar? spot.place

def Card.withScalar (c : Card) (spot : Spot) (new : spot.place.Scalar) : Card :=
  { c with scenarios := rewriteById spot.scenario (fun s => s.withScalar spot.place new) c.scenarios }

theorem Action.id_withScalar (a : Action) (f : ActionField) (new : f.Scalar) : (a.withScalar f new).id = a.id := by
  cases f <;> rfl

theorem Scenario.id_withScalar (s : Scenario) (p : Place) (new : p.Scalar) : (s.withScalar p new).id = s.id := by
  cases p with
  | field f => cases f <;> rfl
  | action => rfl

theorem Action.scalar_withScalar (a : Action) (f : ActionField) (new : f.Scalar) :
    (a.withScalar f new).scalar f = new := by
  cases f <;> rfl

theorem Scenario.scalar_withScalar (s : Scenario) (p : Place) (new : p.Scalar) :
    (s.withScalar p new).scalar? p = (s.scalar? p).map fun _ => new := by
  cases p with
  | field f => cases f <;> rfl
  | action id f =>
    simp only [Scenario.withScalar, Scenario.scalar?, firstWithId_rewriteById fun a => Action.id_withScalar a f new]
    cases found : firstWithId id s.actions with
    | none => rfl
    | some a =>
      rw [Option.map_some, if_pos (id_of_firstWithId found)]
      exact congrArg some (a.scalar_withScalar f new)

end Fourth

namespace Document

/-- The value of a scalar, if the document has one there. -/
def scalar? (spot : Spot) : Document → Option spot.place.Scalar
  | .v3_2 c | .v3_3 c => c.scalar? spot
  | .v4_0 c | .v4_1 c | .v4_2 c => c.scalar? spot
  | .unknown _ _ => none

/-- The document with another value of a scalar. -/
def withScalar (spot : Spot) (new : spot.place.Scalar) : Document → Document
  | .v3_2 c => .v3_2 (c.withScalar spot new)
  | .v3_3 c => .v3_3 (c.withScalar spot new)
  | .v4_0 c => .v4_0 (c.withScalar spot new)
  | .v4_1 c => .v4_1 (c.withScalar spot new)
  | .v4_2 c => .v4_2 (c.withScalar spot new)
  | .unknown schemaVersion payload => .unknown schemaVersion payload

theorem version_withScalar (spot : Spot) (new : spot.place.Scalar) (d : Document) :
    (d.withScalar spot new).version? = d.version? := by
  cases d <;> rfl

end Document

/-! ## The steps leave them alone -/

namespace Generation

theorem scalar_scenario (s : Third.Scenario) (p : Place) : (scenario s).scalar? p = s.scalar? p := by
  cases p with
  | field f => cases f <;> rfl
  | action id f => exact map_firstWithId_map (g := action) (fun _ => rfl) (fun a => by cases f <;> rfl) id s.actions

theorem withScalar_scenario (s : Third.Scenario) (p : Place) (new : p.Scalar) :
    scenario (s.withScalar p new) = (scenario s).withScalar p new := by
  cases p with
  | field f => cases f <;> rfl
  | action id f =>
    have actions : (rewriteById id (fun a => a.withScalar f new) s.actions).map action =
        rewriteById id (fun a => a.withScalar f new) (s.actions.map action) :=
      map_rewriteById (g := action) (fun _ => rfl) (fun a => by cases f <;> rfl) id s.actions
    simp only [Third.Scenario.withScalar, Fourth.Scenario.withScalar, scenario, actions]

theorem scalar_card (c : Third.Card) (spot : Spot) : (card c).scalar? spot = c.scalar? spot :=
  bind_firstWithId_map (g := scenario) (fun _ => rfl) (fun s => scalar_scenario s spot.place) spot.scenario c.scenarios

theorem withScalar_card (c : Third.Card) (spot : Spot) (new : spot.place.Scalar) :
    card (c.withScalar spot new) = (card c).withScalar spot new := by
  have scenarios : (rewriteById spot.scenario (fun s => s.withScalar spot.place new) c.scenarios).map scenario =
      rewriteById spot.scenario (fun s => s.withScalar spot.place new) (c.scenarios.map scenario) :=
    map_rewriteById (g := scenario) (fun _ => rfl) (fun s => withScalar_scenario s spot.place new) spot.scenario
      c.scenarios
  simp only [Third.Card.withScalar, Fourth.Card.withScalar, card, scenarios]

end Generation

namespace Rescaling

theorem scalar_scenario (s : Fourth.Scenario) (p : Place) : (scenario s).scalar? p = s.scalar? p := by
  cases p with
  | field f => cases f <;> rfl
  | action => rfl

theorem withScalar_scenario (s : Fourth.Scenario) (p : Place) (new : p.Scalar) :
    scenario (s.withScalar p new) = (scenario s).withScalar p new := by
  cases p with
  | field f => cases f <;> rfl
  | action => rfl

theorem scalar_card (c : Fourth.Card) (spot : Spot) : (card c).scalar? spot = c.scalar? spot :=
  bind_firstWithId_map (g := scenario) (fun _ => rfl) (fun s => scalar_scenario s spot.place) spot.scenario c.scenarios

theorem withScalar_card (c : Fourth.Card) (spot : Spot) (new : spot.place.Scalar) :
    card (c.withScalar spot new) = (card c).withScalar spot new := by
  have scenarios : (rewriteById spot.scenario (fun s => s.withScalar spot.place new) c.scenarios).map scenario =
      rewriteById spot.scenario (fun s => s.withScalar spot.place new) (c.scenarios.map scenario) :=
    map_rewriteById (g := scenario) (fun _ => rfl) (fun s => withScalar_scenario s spot.place new) spot.scenario
      c.scenarios
  simp only [Fourth.Card.withScalar, card, scenarios]

end Rescaling

namespace Stamping

variable (published : Option Timestamp)

theorem id_action (a : Fourth.Action) : (action published a).id = a.id := by
  rw [action_eq]

theorem scalar_scenario (s : Fourth.Scenario) (p : Place) : (scenario published s).scalar? p = s.scalar? p := by
  cases p with
  | field f => cases f <;> rfl
  | action id f =>
    refine map_firstWithId_map (g := action published) (id_action published) (fun a => ?_) id s.actions
    rw [action_eq]
    cases f <;> rfl

theorem withScalar_scenario (s : Fourth.Scenario) (p : Place) (new : p.Scalar) :
    scenario published (s.withScalar p new) = (scenario published s).withScalar p new := by
  cases p with
  | field f => cases f <;> rfl
  | action id f =>
    -- The stamp is no scalar that can be edited, so it may be set before or after.
    have actions : (rewriteById id (fun a => a.withScalar f new) s.actions).map (action published) =
        rewriteById id (fun a => a.withScalar f new) (s.actions.map (action published)) := by
      refine map_rewriteById (id_action published) (fun a => ?_) id s.actions
      rw [action_eq, action_eq]
      cases f <;> rfl
    simp only [Fourth.Scenario.withScalar, scenario, actions]

theorem scalar_card (c : Fourth.Card) (spot : Spot) : (card published c).scalar? spot = c.scalar? spot :=
  bind_firstWithId_map (g := scenario published) (fun _ => rfl)
    (fun s => scalar_scenario published s spot.place) spot.scenario c.scenarios

theorem withScalar_card (c : Fourth.Card) (spot : Spot) (new : spot.place.Scalar) :
    card published (c.withScalar spot new) = (card published c).withScalar spot new := by
  have scenarios :
      (rewriteById spot.scenario (fun s => s.withScalar spot.place new) c.scenarios).map (scenario published) =
      rewriteById spot.scenario (fun s => s.withScalar spot.place new) (c.scenarios.map (scenario published)) :=
    map_rewriteById (g := scenario published) (fun _ => rfl)
      (fun s => withScalar_scenario published s spot.place new) spot.scenario c.scenarios
  simp only [Fourth.Card.withScalar, card, scenarios]

end Stamping

/-! ## Runs -/

namespace Migration

variable {options : Options} {document reached : Document}

/-- The edited document takes the same step, with a report that may name the new value. -/
theorem Raises.withScalar {leg : Span} {report : Report} (raises : Raises options document leg report reached)
    (spot : Spot) (new : spot.place.Scalar) :
    ∃ report', Raises options (document.withScalar spot new) leg report' (reached.withScalar spot new) := by
  cases raises with
  | version c => exact ⟨_, .version _⟩
  | generation c =>
    rw [Document.withScalar, Document.withScalar, ← Generation.withScalar_card]
    exact ⟨_, .generation _⟩
  | rescaling c =>
    rw [Document.withScalar, Document.withScalar, ← Rescaling.withScalar_card]
    exact ⟨_, .rescaling _⟩
  | stamping c =>
    rw [Document.withScalar, Document.withScalar, ← Stamping.withScalar_card]
    exact ⟨_, .stamping _⟩

theorem Raises.scalar_eq {leg : Span} {report : Report} (raises : Raises options document leg report reached)
    (spot : Spot) : reached.scalar? spot = document.scalar? spot := by
  cases raises with
  | version c => rfl
  | generation c => exact Generation.scalar_card c spot
  | rescaling c => exact Rescaling.scalar_card c spot
  | stamping c => exact Stamping.scalar_card _ c spot

/-- The edited document runs the same way and arrives as the edited document. -/
theorem Run.withScalar {trace : List (Span × Report)} (run : Run options document trace reached)
    (spot : Spot) (new : spot.place.Scalar) :
    ∃ trace', Run options (document.withScalar spot new) trace' (reached.withScalar spot new) := by
  induction run with
  | stay document => exact ⟨[], .stay _⟩
  | step raises _ ih =>
    obtain ⟨report, raised⟩ := raises.withScalar spot new
    obtain ⟨trace, later⟩ := ih
    exact ⟨_, .step raised later⟩

theorem Run.scalar_eq {trace : List (Span × Report)} (run : Run options document trace reached) (spot : Spot) :
    reached.scalar? spot = document.scalar? spot := by
  induction run with
  | stay => rfl
  | step raises _ ih => exact ih.trans (raises.scalar_eq spot)

end Migration
end Scorecard

import Mathlib.Data.List.Forall2
import Scorecard.CardChanges
import Scorecard.Proofs.MarkedLists
import Scorecard.Proofs.NumberEquality

/-!
# Changes seen from the other side

Two cards are compared there and back. Every marker of the one comparison has its mirror image in the other, down to the
fields of actions: what changed from one value to another changed back, what was added was deleted, and what was left
out is left out (`changes_mirrored`). Lists are gone through in different ways for deletions and additions, so their
markers correspond up to the order of the groups.
-/

namespace Scorecard

variable {α γ : Type}

/-! ## Fields -/

/-- A marker and its mirror image. An unchanged value shows its new side, so the two sides may differ where equality
    allows it, as the two zeros do. -/
inductive Marker.Mirrors [BEq α] (nested : γ → γ → Prop) : Marker α γ → Marker α γ → Prop where
  | unchanged {v w : α} : (v == w) = true → Mirrors nested (.unchanged v) (.unchanged w)
  | added (v : α) : Mirrors nested (.added v) (.deleted v)
  | deleted (v : α) : Mirrors nested (.deleted v) (.added v)
  | changed (v w : α) : Mirrors nested (.changed v w) (.changed w v)
  | contentChanged {c d : γ} : nested c d → Mirrors nested (.contentChanged c) (.contentChanged d)

/-- The marker of a field and its mirror image; a field that is left out is left out on both sides. -/
def MirroredField [BEq α] (there back : Option (PlainMarker α)) : Prop := Option.Rel (Marker.Mirrors Eq) there back

section Fields

variable [BEq α] [PartialEquivBEq α]

theorem mirrors_between (old new : α) :
    Marker.Mirrors Eq (PlainMarker.between old new) (PlainMarker.between new old) := by
  unfold PlainMarker.between
  rw [BEq.comm (a := new)]
  split
  · next same => exact .unchanged (BEq.symm same)
  · exact .changed old new

theorem mirrored_marker? (emission : Emission) (old new : α) :
    MirroredField (emission.marker? old new) (emission.marker? new old) := by
  cases emission with
  | always => exact .some (mirrors_between old new)
  | omitUnchanged =>
    unfold Emission.marker?
    dsimp only
    rw [BEq.comm (a := new)]
    split
    · exact .none
    · exact .some (mirrors_between old new)

end Fields

/-! ## Lists -/

/-- The markers of two lists in groups: what the new list lost in the order of the old one, what changed inside, and
    what it gained in the order of the new one. -/
def Grouped (old new : List α) (inOrder : List γ → Prop) (ms : List (Marker α γ)) : Prop :=
  ∃ (lost : List α) (changed : List γ) (gained : List α),
    ms = lost.map .deleted ++ changed.map .contentChanged ++ gained.map .added ∧
    lost.Sublist old ∧ inOrder changed ∧ gained.Sublist new

/-- Each marker there has its mirror image back, and the other way round: one to one, in whatever order. -/
def Correspond [BEq α] (nested : γ → γ → Prop) (there back : List (Marker α γ)) : Prop :=
  ∃ order, order.Perm back ∧ List.Forall₂ (Marker.Mirrors nested) there order

/-- The markers of two lists of plain values and their mirror images. -/
structure MirroredValues [BEq α] (old new : List α) (there back : List (PlainMarker α)) : Prop where
  correspond : Correspond Eq there back
  groupsThere : Grouped old new (· = []) there
  groupsBack : Grouped new old (· = []) back

/-- The markers of two lists of identified members and their mirror images. Nested changes are those of the first
    members with one id, and follow the order of the list on the new side. -/
structure MirroredMembers [BEq α] [HasId α] [HasId γ] (nested : α → α → γ → γ → Prop) (old new : List α)
    (there back : List (Marker α γ)) : Prop where
  correspond : Correspond (fun c d => ∃ o x, firstWithId (HasId.id c) old = some o ∧
    firstWithId (HasId.id c) new = some x ∧ nested o x c d) there back
  groupsThere : Grouped old new (fun cs => (cs.map HasId.id).Sublist (new.map HasId.id)) there
  groupsBack : Grouped new old (fun cs => (cs.map HasId.id).Sublist (old.map HasId.id)) back

/-- Two lists that are made from one list are related if what is made from each member is. -/
theorem forall₂_maps {β : Type} {R : β → γ → Prop} {f : α → β} {g : α → γ} {xs : List α}
    (each : ∀ x ∈ xs, R (f x) (g x)) : List.Forall₂ R (xs.map f) (xs.map g) := by
  rw [List.forall₂_map_left_iff, List.forall₂_map_right_iff]
  exact List.forall₂_same.mpr each

/-- Groups correspond if the lost and the gained members change places and the nested changes correspond. -/
theorem correspond_groups [BEq α] {nested : γ → γ → Prop} (lost gained : List α) {changed changed' order : List γ}
    (rearranged : order.Perm changed') (mirrored : List.Forall₂ nested changed order) :
    Correspond nested (lost.map .deleted ++ changed.map .contentChanged ++ gained.map .added)
      (gained.map .deleted ++ changed'.map .contentChanged ++ lost.map .added) := by
  -- What is added on the way back comes first here, facing what is deleted on the way there.
  refine ⟨lost.map .added ++ order.map .contentChanged ++ gained.map .deleted, ?_, ?_⟩
  · rw [List.append_assoc (gained.map _)]
    refine List.perm_append_comm.trans (List.Perm.append_left _ ?_)
    exact List.perm_append_comm.trans ((rearranged.map _).append_right _)
  · refine List.rel_append (List.rel_append ?_ ?_) ?_
    · exact forall₂_maps fun v _ => .deleted v
    · rw [List.forall₂_map_left_iff, List.forall₂_map_right_iff]
      exact mirrored.imp fun _ _ => .contentChanged
    · exact forall₂_maps fun v _ => .added v

theorem valueMarkers_mirrored [BEq α] [LawfulBEq α] (old new : List α) :
    MirroredValues old new (valueMarkers old new) (valueMarkers new old) := by
  have grouped (xs ys : List α) : Grouped xs ys (· = []) (valueMarkers xs ys) := by
    refine ⟨lacking xs ys, [], lacking ys xs, ?_, lacking_sublist xs ys, rfl, lacking_sublist ys xs⟩
    rw [valueMarkers_eq, List.map_nil, List.append_nil]
  refine ⟨?_, grouped old new, grouped new old⟩
  have inside : List.Forall₂ Eq ([] : List Unit) [] := .nil
  have crossed := correspond_groups (lacking old new) (lacking new old) (List.Perm.refl []) inside
  simpa only [valueMarkers_eq, List.map_nil, List.append_nil] using crossed

example : valueMarkers ["a", "b", "a"] ["c", "b", "c"] = [.deleted "a", .added "c"] ∧
    valueMarkers ["c", "b", "c"] ["a", "b", "a"] = [.deleted "c", .added "a"] :=
  ⟨rfl, rfl⟩

section Members

variable [BEq α] [HasId α]

/-- The nested changes in the order of the new list. -/
def nestedChanges (content : α → α → γ) (old new : List α) : List γ :=
  (alterations old new).map fun p => content p.1 p.2

theorem memberMarkers_eq (content : α → α → γ) (old new : List α) : memberMarkers old new content =
    (deletions old new).map .deleted ++ (nestedChanges content old new).map .contentChanged ++
      (deletions new old).map .added := by
  rw [memberMarkers_groups, nestedChanges, List.map_map]
  rfl

variable [HasId γ] {nested : α → α → γ → γ → Prop} (content : α → α → γ)

theorem grouped_memberMarkers (ids : ∀ o x, HasId.id (content o x) = HasId.id x) (old new : List α) :
    Grouped old new (fun cs => (cs.map HasId.id).Sublist (new.map HasId.id)) (memberMarkers old new content) := by
  refine ⟨deletions old new, nestedChanges content old new, deletions new old, memberMarkers_eq content old new,
    deletions_sublist old new, ?_, deletions_sublist new old⟩
  have named : (nestedChanges content old new).map HasId.id =
      ((alterations old new).map Prod.snd).map HasId.id := by
    simp only [nestedChanges, List.map_map]
    exact List.map_congr_left fun p _ => ids p.1 p.2
  show List.Sublist _ _
  rw [named]
  exact ((alterations_sublist old new).trans (firstMembers_sublist new)).map _

/-- The comparison of two lists of members is mirrored if that of two members with one id is. -/
theorem memberMarkers_mirrored [PartialEquivBEq α] (ids : ∀ o x, HasId.id (content o x) = HasId.id x)
    (each : ∀ o x, HasId.id o = HasId.id x → nested o x (content o x) (content x o)) (old new : List α) :
    MirroredMembers nested old new (memberMarkers old new content) (memberMarkers new old content) := by
  refine ⟨?_, grouped_memberMarkers content ids old new, grouped_memberMarkers content ids new old⟩
  -- The way back in the order of the way there, so that the nested changes face each other.
  have rearranged : ((alterations old new).map fun p => content p.2 p.1).Perm (nestedChanges content new old) := by
    have swapped := (alterations_swap old new).map fun p => content p.1 p.2
    rw [List.map_map] at swapped
    exact swapped.symm
  have mirrored : List.Forall₂ (fun c d => ∃ o x, firstWithId (HasId.id c) old = some o ∧
      firstWithId (HasId.id c) new = some x ∧ nested o x c d)
      (nestedChanges content old new) ((alterations old new).map fun p => content p.2 p.1) := by
    refine forall₂_maps ?_
    rintro ⟨o, x⟩ altered
    obtain ⟨after, before, -⟩ := (mem_alterations old new o x).mp altered
    rw [ids]
    exact ⟨o, x, before, after, each o x (id_of_firstWithId before)⟩
  rw [memberMarkers_eq, memberMarkers_eq]
  exact correspond_groups (deletions old new) (deletions new old) rearranged mirrored

end Members

/-! ## Records

Changes are mirrored field by field, and nested changes for the same two members.
-/

structure RiskChanges.Mirrors (there back : RiskChanges) : Prop where
  summary : MirroredField there.summary back.summary
  probability : Marker.Mirrors Eq there.probability back.probability
  consequence : Marker.Mirrors Eq there.consequence back.consequence

theorem Risk.marker_mirrored (old new : Risk) :
    Marker.Mirrors RiskChanges.Mirrors (old.marker new) (new.marker old) :=
  .contentChanged ⟨mirrored_marker? .omitUnchanged _ _, mirrors_between _ _, mirrors_between _ _⟩

namespace Third

structure ActionChanges.Mirrors (there back : ActionChanges) : Prop where
  id : there.id = back.id
  title : MirroredField there.title back.title
  description : MirroredField there.description back.description
  url : MirroredField there.url back.url
  status : MirroredField there.status back.status
  owner : MirroredField there.owner back.owner
  deadline : MirroredField there.deadline back.deadline

structure ScenarioChanges.Mirrors (old new : Scenario) (there back : ScenarioChanges) : Prop where
  id : there.id = back.id
  title : MirroredField there.title back.title
  description : MirroredField there.description back.description
  url : MirroredField there.url back.url
  threatActors : MirroredValues old.threatActors new.threatActors there.threatActors back.threatActors
  vulnerabilities :
    MirroredValues old.vulnerabilities new.vulnerabilities there.vulnerabilities back.vulnerabilities
  risk : Marker.Mirrors RiskChanges.Mirrors there.risk back.risk
  remainingRisk : Marker.Mirrors RiskChanges.Mirrors there.remainingRisk back.remainingRisk
  existingActions : MirroredField there.existingActions back.existingActions
  actions : MirroredMembers (fun _ _ => ActionChanges.Mirrors) old.actions new.actions there.actions back.actions

structure CardChanges.Mirrors (old new : Card) (there back : CardChanges) : Prop where
  title : MirroredField there.title back.title
  scope : MirroredField there.scope back.scope
  valuations : MirroredValues old.valuations new.valuations there.valuations back.valuations
  scenarios : MirroredMembers ScenarioChanges.Mirrors old.scenarios new.scenarios there.scenarios back.scenarios

theorem Action.mirrored (old new : Action) (ids : old.id = new.id) :
    (old.changes new).Mirrors (new.changes old) where
  id := ids.symm
  title := mirrored_marker? emission old.title new.title
  description := mirrored_marker? emission old.description new.description
  url := mirrored_marker? emission old.url new.url
  status := mirrored_marker? emission old.status new.status
  owner := mirrored_marker? emission old.owner new.owner
  deadline := mirrored_marker? emission old.deadline new.deadline

theorem Scenario.mirrored (old new : Scenario) (ids : old.id = new.id) :
    ScenarioChanges.Mirrors old new (old.changes new) (new.changes old) where
  id := ids.symm
  title := mirrored_marker? emission old.title new.title
  description := mirrored_marker? emission old.description new.description
  url := mirrored_marker? emission old.url new.url
  threatActors := valueMarkers_mirrored _ _
  vulnerabilities := valueMarkers_mirrored _ _
  risk := Risk.marker_mirrored _ _
  remainingRisk := Risk.marker_mirrored _ _
  existingActions := mirrored_marker? emission old.existingActions new.existingActions
  actions := memberMarkers_mirrored Action.changes (fun _ _ => rfl) Action.mirrored old.actions new.actions

theorem Card.mirrored (old new : Card) : CardChanges.Mirrors old new (old.changes new) (new.changes old) where
  title := mirrored_marker? emission old.title new.title
  scope := mirrored_marker? emission old.scope new.scope
  valuations := valueMarkers_mirrored _ _
  scenarios :=
    memberMarkers_mirrored Scenario.changes (fun _ _ => rfl) Scenario.mirrored old.scenarios new.scenarios

end Third

namespace Fourth

structure ActionChanges.Mirrors (there back : ActionChanges) : Prop where
  id : there.id = back.id
  title : MirroredField there.title back.title
  description : MirroredField there.description back.description
  url : MirroredField there.url back.url
  status : MirroredField there.status back.status
  lastUpdated : MirroredField there.lastUpdated back.lastUpdated

structure ScenarioChanges.Mirrors (old new : Scenario) (there back : ScenarioChanges) : Prop where
  id : there.id = back.id
  title : MirroredField there.title back.title
  description : MirroredField there.description back.description
  url : MirroredField there.url back.url
  threatActors : MirroredValues old.threatActors new.threatActors there.threatActors back.threatActors
  vulnerabilities :
    MirroredValues old.vulnerabilities new.vulnerabilities there.vulnerabilities back.vulnerabilities
  risk : Marker.Mirrors RiskChanges.Mirrors there.risk back.risk
  remainingRisk : Marker.Mirrors RiskChanges.Mirrors there.remainingRisk back.remainingRisk
  actions : MirroredMembers (fun _ _ => ActionChanges.Mirrors) old.actions new.actions there.actions back.actions

structure CardChanges.Mirrors (old new : Card) (there back : CardChanges) : Prop where
  title : MirroredField there.title back.title
  scope : MirroredField there.scope back.scope
  valuations : MirroredValues old.valuations new.valuations there.valuations back.valuations
  scenarios : MirroredMembers ScenarioChanges.Mirrors old.scenarios new.scenarios there.scenarios back.scenarios

theorem Action.mirrored (old new : Action) (ids : old.id = new.id) :
    (old.changes new).Mirrors (new.changes old) where
  id := ids.symm
  title := mirrored_marker? emission old.title new.title
  description := mirrored_marker? emission old.description new.description
  url := mirrored_marker? emission old.url new.url
  status := mirrored_marker? emission old.status new.status
  lastUpdated := mirrored_marker? emission old.lastUpdated new.lastUpdated

theorem Scenario.mirrored (old new : Scenario) (ids : old.id = new.id) :
    ScenarioChanges.Mirrors old new (old.changes new) (new.changes old) where
  id := ids.symm
  title := mirrored_marker? emission old.title new.title
  description := mirrored_marker? emission old.description new.description
  url := mirrored_marker? emission old.url new.url
  threatActors := valueMarkers_mirrored _ _
  vulnerabilities := valueMarkers_mirrored _ _
  risk := Risk.marker_mirrored _ _
  remainingRisk := Risk.marker_mirrored _ _
  actions := memberMarkers_mirrored Action.changes (fun _ _ => rfl) Action.mirrored old.actions new.actions

theorem Card.mirrored (old new : Card) : CardChanges.Mirrors old new (old.changes new) (new.changes old) where
  title := mirrored_marker? emission old.title new.title
  scope := mirrored_marker? emission old.scope new.scope
  valuations := valueMarkers_mirrored _ _
  scenarios :=
    memberMarkers_mirrored Scenario.changes (fun _ _ => rfl) Scenario.mirrored old.scenarios new.scenarios

end Fourth

/-- Swapping the sides mirrors the comparison, in either generation and whatever the numbers of the risks are: a number
    that is none is changed on either side. -/
theorem changes_mirrored :
    (∀ old new : Third.Card, Third.CardChanges.Mirrors old new (old.changes new) (new.changes old)) ∧
    ∀ old new : Fourth.Card, Fourth.CardChanges.Mirrors old new (old.changes new) (new.changes old) :=
  ⟨Third.Card.mirrored, Fourth.Card.mirrored⟩

end Scorecard

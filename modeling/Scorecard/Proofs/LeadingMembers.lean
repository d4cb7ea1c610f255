import Mathlib.Data.List.FinRange
import Scorecard.Proofs.MarkedLists

/-!
# Exactly what is marked in a list of members

Of the members of a list that share an id only the one at the leading place of the id counts. What there is to find
between two lists is said here by places alone (`findings`): a loss for each leading place of the old list whose id
the new list lacks, an alteration for each leading place of the new list that faces a different member of the old one,
and a gain for each leading place of the new list whose id the old list lacks. These are the markers, in this order
(`memberMarkers_exact`), and no two of them are about one id.
-/

namespace Scorecard

variable {α γ : Type} [HasId α]

/-! ## Leading places -/

/-- The places at which an id occurs for the first time, in ascending order. -/
def leadingPlaces (xs : List α) : List (Fin xs.length) :=
  (List.finRange xs.length).filter fun i => ∀ j < i, HasId.id (xs.get j) ≠ HasId.id (xs.get i)

/-- Behind a first member those places lead that lead in the rest and have another id. -/
theorem leadingPlaces_cons (x : α) (rest : List α) : leadingPlaces (x :: rest) =
    0 :: ((leadingPlaces rest).filter fun i => HasId.id (rest.get i) ≠ HasId.id x).map Fin.succ := by
  have leads (i : Fin rest.length) :
      (∀ j < i.succ, HasId.id ((x :: rest).get j) ≠ HasId.id ((x :: rest).get i.succ)) ↔
        HasId.id (rest.get i) ≠ HasId.id x ∧ ∀ j < i, HasId.id (rest.get j) ≠ HasId.id (rest.get i) := by
    rw [Fin.forall_fin_succ]
    simp [ne_comm]
  show (List.finRange (rest.length + 1)).filter _ = _
  rw [List.finRange_succ, List.filter_cons, if_pos (by simp), List.filter_map, leadingPlaces, List.filter_filter]
  refine congrArg (fun places => 0 :: List.map Fin.succ places) (List.filter_congr fun i _ => ?_)
  simp only [Function.comp_apply, ← Bool.decide_and]
  exact decide_eq_decide.mpr (leads i)

/-- The members at the leading places are those that no earlier one shares the id with. -/
theorem map_leadingPlaces (xs : List α) : (leadingPlaces xs).map xs.get = firstMembers xs := by
  induction xs with
  | nil => rfl
  | cons x rest ih =>
    rw [leadingPlaces_cons, firstMembers, ← ih, List.filter_map, List.map_cons, List.map_map]
    refine congrArg (x :: ·) (congrArg _ (List.filter_congr fun i _ => ?_))
    simp [bne, beq_eq_decide]

/-- A member is found by its id exactly if it stands at a leading place. -/
theorem firstWithId_eq_some_iff (id : String) (xs : List α) (x : α) :
    firstWithId id xs = some x ↔ ∃ i ∈ leadingPlaces xs, xs.get i = x ∧ HasId.id x = id := by
  have leads : x ∈ firstMembers xs ↔ ∃ i ∈ leadingPlaces xs, xs.get i = x := by
    rw [← map_leadingPlaces, List.mem_map]
  constructor
  · intro first
    have known := id_of_firstWithId first
    subst known
    obtain ⟨i, lead, here⟩ := leads.mp ((mem_firstMembers xs x).mpr first)
    exact ⟨i, lead, here, rfl⟩
  · rintro ⟨i, lead, here, rfl⟩
    exact (mem_firstMembers xs x).mp (leads.mpr ⟨i, lead, here⟩)

theorem nodup_ids_firstMembers (xs : List α) : ((firstMembers xs).map HasId.id).Nodup := by
  induction xs with
  | nil => exact List.nodup_nil
  | cons x rest ih =>
    rw [firstMembers, List.map_cons, List.nodup_cons]
    refine ⟨fun again => ?_, ih.sublist (List.filter_sublist.map _)⟩
    obtain ⟨y, here, same⟩ := List.mem_map.mp again
    simp [same] at here

/-- Of the first members at most one has a given id. -/
theorem firstMembers_withId (xs : List α) (id : String) :
    (firstMembers xs).filter (fun o => HasId.id o = id) = (firstWithId id xs).toList := by
  induction xs with
  | nil => rfl
  | cons x rest ih =>
    rw [firstMembers, firstWithId_cons, List.filter_cons, List.filter_filter]
    by_cases same : HasId.id x = id
    · subst same
      have others : (firstMembers rest).filter
          (fun y => decide (HasId.id y = HasId.id x) && HasId.id y != HasId.id x) = [] := by simp
      simp [others]
    · have kept : (firstMembers rest).filter (fun y => decide (HasId.id y = id) && HasId.id y != HasId.id x) =
          (firstMembers rest).filter fun y => HasId.id y = id := by
        refine List.filter_congr fun y _ => ?_
        by_cases known : HasId.id y = id <;> simp [known, Ne.symm same]
      simp [same, kept, ih]

/-- The leading places of a list with an id that another list lacks. -/
def unmatchedPlaces (xs other : List α) : List (Fin xs.length) :=
  (leadingPlaces xs).filter fun i => ∀ y ∈ other, HasId.id y ≠ HasId.id (xs.get i)

theorem deletions_eq (old new : List α) : deletions old new = (unmatchedPlaces old new).map old.get := by
  rw [deletions, ← map_leadingPlaces, List.filter_map, unmatchedPlaces]
  refine congrArg _ (List.filter_congr fun i _ => ?_)
  rw [Bool.eq_iff_iff]
  simp [firstWithId]

theorem id_mem_deletions (old new : List α) (id : String) :
    id ∈ (deletions old new).map HasId.id ↔ (∃ o, firstWithId id old = some o) ∧ firstWithId id new = none := by
  rw [List.mem_map]
  constructor
  · rintro ⟨o, lost, rfl⟩
    obtain ⟨found, missing⟩ := (mem_deletions old new o).mp lost
    exact ⟨⟨o, found⟩, missing⟩
  · rintro ⟨⟨o, found⟩, missing⟩
    have known := id_of_firstWithId found
    subst known
    exact ⟨o, (mem_deletions old new o).mpr ⟨found, missing⟩, rfl⟩

/-! ## Findings -/

/-- What there is to say about one id: a member that only one of two lists has, or two members that differ. -/
inductive Finding (α : Type) where
  | lost (x : α)
  | altered (o x : α)
  | gained (x : α)

/-- The id that a finding is about. -/
def Finding.id : Finding α → String
  | lost x => HasId.id x
  | altered _ x => HasId.id x
  | gained x => HasId.id x

/-- The marker of a finding. -/
def Finding.marker (content : α → α → γ) : Finding α → Marker α γ
  | lost x => .deleted x
  | altered o x => .contentChanged (content o x)
  | gained x => .added x

variable [BEq α]

/-- The leading places of the old list that a place of the new one faces: those with its id and another member. -/
def facingPlaces (old new : List α) (i : Fin new.length) : List (Fin old.length) :=
  (leadingPlaces old).filter fun j =>
    HasId.id (old.get j) = HasId.id (new.get i) ∧ (old.get j == new.get i) = false

/-- The findings about two lists. -/
def findings (old new : List α) : List (Finding α) :=
  (unmatchedPlaces old new).map (fun i => .lost (old.get i)) ++
    (leadingPlaces new).flatMap (fun i => (facingPlaces old new i).map fun j => .altered (old.get j) (new.get i)) ++
    (unmatchedPlaces new old).map fun i => .gained (new.get i)

/-- A member of the new list is altered if the first member of the old one with its id differs from it. -/
theorem alteration_eq (old : List α) (x : α) :
    (match firstWithId (HasId.id x) old with
      | some previous => if previous == x then none else some (previous, x)
      | none => none).toList =
    ((firstMembers old).filter fun o => HasId.id o = HasId.id x ∧ (o == x) = false).map fun o => (o, x) := by
  have picked : ((firstMembers old).filter fun o => HasId.id o = HasId.id x ∧ (o == x) = false) =
      (firstWithId (HasId.id x) old).toList.filter fun o => (o == x) = false := by
    rw [← firstMembers_withId, List.filter_filter]
    refine List.filter_congr fun o _ => ?_
    rw [Bool.decide_and, Bool.and_comm]
  rw [picked]
  cases firstWithId (HasId.id x) old with
  | none => rfl
  | some previous => by_cases same : (previous == x) = true <;> simp [same]

theorem alterations_eq (old new : List α) : (alterations old new).map (fun p => Finding.altered p.1 p.2) =
    (leadingPlaces new).flatMap fun i =>
      (facingPlaces old new i).map fun j => .altered (old.get j) (new.get i) := by
  rw [alterations, List.filterMap_eq_flatMap_toList, List.map_flatMap, ← map_leadingPlaces, List.flatMap_map]
  refine List.flatMap_congr fun i _ => ?_
  refine (congrArg (List.map _) (alteration_eq old (new.get i))).trans ?_
  rw [← map_leadingPlaces, List.filter_map, List.map_map, List.map_map]
  rfl

theorem memberMarkers_findings (old new : List α) (content : α → α → γ) :
    memberMarkers old new content = (findings old new).map (Finding.marker content) := by
  rw [memberMarkers_groups, additions, deletions_eq, deletions_eq, findings, ← alterations_eq]
  simp only [List.map_append, List.map_map]
  rfl

/-! ## One finding for each id -/

theorem id_mem_alterations (old new : List α) (id : String) :
    id ∈ ((alterations old new).map Prod.snd).map HasId.id ↔
      ∃ o x, firstWithId id old = some o ∧ firstWithId id new = some x ∧ (o == x) = false := by
  rw [List.map_map, List.mem_map]
  constructor
  · rintro ⟨⟨o, x⟩, altered, rfl⟩
    obtain ⟨first, found, differs⟩ := (mem_alterations old new o x).mp altered
    exact ⟨o, x, found, first, differs⟩
  · rintro ⟨o, x, found, first, differs⟩
    have known := id_of_firstWithId first
    subst known
    exact ⟨(o, x), (mem_alterations old new o x).mpr ⟨first, found, differs⟩, rfl⟩

/-- The ids that findings are about, group by group. -/
theorem ids_findings (old new : List α) : (findings old new).map Finding.id =
    (deletions old new).map HasId.id ++ ((alterations old new).map Prod.snd).map HasId.id ++
      (deletions new old).map HasId.id := by
  rw [findings, ← alterations_eq, deletions_eq, deletions_eq]
  simp only [List.map_append, List.map_map]
  rfl

/-- No two findings are about one id: within a group since only first members take part, and across the groups since
    they differ in which of the lists have the id. -/
theorem nodup_ids_findings (old new : List α) : ((findings old new).map Finding.id).Nodup := by
  have lost : ((deletions old new).map HasId.id).Nodup :=
    (nodup_ids_firstMembers old).sublist (List.filter_sublist.map _)
  have altered : (((alterations old new).map Prod.snd).map HasId.id).Nodup :=
    (nodup_ids_firstMembers new).sublist ((alterations_sublist old new).map _)
  have gained : ((deletions new old).map HasId.id).Nodup :=
    (nodup_ids_firstMembers new).sublist (List.filter_sublist.map _)
  rw [ids_findings, List.nodup_append', List.nodup_append']
  refine ⟨⟨lost, altered, ?_⟩, gained, ?_⟩
  · intro id left right
    obtain ⟨-, missing⟩ := (id_mem_deletions old new id).mp left
    obtain ⟨o, x, -, first, -⟩ := (id_mem_alterations old new id).mp right
    cases missing.symm.trans first
  · intro id left right
    obtain ⟨-, missing⟩ := (id_mem_deletions new old id).mp right
    rcases List.mem_append.mp left with left | left
    · obtain ⟨⟨o, found⟩, -⟩ := (id_mem_deletions old new id).mp left
      cases missing.symm.trans found
    · obtain ⟨o, x, found, -, -⟩ := (id_mem_alterations old new id).mp left
      cases missing.symm.trans found

/-- Both lists have the id, and the first members with it are equal. -/
def AgreeAt (old new : List α) (id : String) : Prop :=
  ∃ i ∈ leadingPlaces old, ∃ j ∈ leadingPlaces new,
    HasId.id (old.get i) = id ∧ HasId.id (new.get j) = id ∧ (old.get i == new.get j) = true

theorem agreeAt_iff (old new : List α) (id : String) : AgreeAt old new id ↔
    ∃ o x, firstWithId id old = some o ∧ firstWithId id new = some x ∧ (o == x) = true := by
  simp only [firstWithId_eq_some_iff]
  constructor
  · rintro ⟨i, left, j, right, known, known', same⟩
    exact ⟨_, _, ⟨i, left, rfl, known⟩, ⟨j, right, rfl, known'⟩, same⟩
  · rintro ⟨_, _, ⟨i, left, rfl, known⟩, ⟨j, right, rfl, known'⟩, same⟩
    exact ⟨i, left, j, right, known, known', same⟩

/-- An id of one of the lists has no finding exactly if the first members with it are equal. -/
theorem not_mem_ids_findings (old new : List α) {id : String} (known : ∃ x ∈ old ++ new, HasId.id x = id) :
    id ∉ (findings old new).map Finding.id ↔ AgreeAt old new id := by
  have listed : (firstWithId id old).isSome = true ∨ (firstWithId id new).isSome = true := by
    rw [isSome_firstWithId, isSome_firstWithId]
    obtain ⟨x, here, named⟩ := known
    exact (List.mem_append.mp here).imp (fun left => ⟨x, left, named⟩) fun right => ⟨x, right, named⟩
  rw [ids_findings, agreeAt_iff, List.mem_append, List.mem_append, id_mem_deletions, id_mem_alterations,
    id_mem_deletions]
  cases left : firstWithId id old <;> cases right : firstWithId id new <;> simp [left, right] at listed ⊢

/-- The markers of two lists of members, whatever ids repeat in them: they are those of the findings, in this order,
    and every id of the lists has at most one finding, and none exactly if its first members are equal. -/
theorem memberMarkers_exact (old new : List α) (content : α → α → γ) :
    memberMarkers old new content = (findings old new).map (Finding.marker content) ∧
      ((findings old new).map Finding.id).Nodup ∧
      ∀ id, (∃ x ∈ old ++ new, HasId.id x = id) → (id ∉ (findings old new).map Finding.id ↔ AgreeAt old new id) :=
  ⟨memberMarkers_findings old new content, nodup_ids_findings old new, fun _ => not_mem_ids_findings old new⟩

/-- Ids repeat on both sides, with other members behind the first ones; the first members with "a" are equal. -/
theorem memberMarkers_exact_repeated :
    letI : HasId (String × Nat) := ⟨Prod.fst⟩
    let old := [("a", 1), ("d", 1), ("b", 1), ("a", 2), ("d", 2)]
    let new := [("c", 1), ("b", 2), ("a", 1), ("c", 2), ("b", 1)]
    memberMarkers old new Prod.mk = [.deleted ("d", 1), .contentChanged (("b", 1), ("b", 2)), .added ("c", 1)] ∧
      (∃ x ∈ old ++ new, HasId.id x = "a") ∧ "a" ∉ (findings old new).map Finding.id := by
  let _ : HasId (String × Nat) := ⟨Prod.fst⟩
  intro old new
  obtain ⟨markers, -, silent⟩ := memberMarkers_exact old new Prod.mk
  have known : ∃ x ∈ old ++ new, HasId.id x = "a" := ⟨("a", 1), List.mem_cons_self, rfl⟩
  have agree : AgreeAt old new "a" := ⟨0, by decide +kernel, 2, by decide +kernel, rfl, rfl, rfl⟩
  exact ⟨markers.trans rfl, known, (silent "a" known).mpr agree⟩

end Scorecard

import Mathlib.Data.List.Induction
import Scorecard.Proofs.MarkedLists

/-!
# Values in the order of their first occurrences

A list from which repetitions are left out has its values in the order in which they first occur
(`eraseDups_ordered`). So are the values reported that one of two lists lacks: first what the new list lacks, in the
order of the old one, and then what the old list lacks, in the order of the new one (`valueMarkers_exact`).
-/

namespace Scorecard

variable {α β : Type} [BEq α] [LawfulBEq α] [BEq β] [LawfulBEq β]

/-! ## Lists whose repetitions are left out -/

theorem eraseDups_concat (seen : List α) (x : α) :
    (seen ++ [x]).eraseDups = if x ∈ seen then seen.eraseDups else seen.eraseDups ++ [x] := by
  rw [List.eraseDups_append]
  by_cases known : x ∈ seen <;> simp [List.removeAll, known, List.eraseDups_cons]

/-- The values that are left stand in the order of their first occurrences. The induction is from the back, where the
    next value comes in. -/
theorem eraseDups_ordered (xs : List α) : xs.eraseDups.Pairwise fun x y => xs.idxOf x < xs.idxOf y := by
  induction xs using List.reverseRecOn with
  | nil => simp
  | append_singleton seen v ih =>
    have placed {x : α} (here : x ∈ seen.eraseDups) : (seen ++ [v]).idxOf x = seen.idxOf x :=
      List.idxOf_append_of_mem (List.mem_eraseDups.mp here)
    have kept : seen.eraseDups.Pairwise fun x y => (seen ++ [v]).idxOf x < (seen ++ [v]).idxOf y := by
      refine ih.imp_of_mem fun left right before => ?_
      rwa [placed left, placed right]
    rw [eraseDups_concat]
    split
    case isTrue => exact kept
    case isFalse fresh =>
      refine List.pairwise_append.mpr ⟨kept, List.pairwise_singleton _ _, ?_⟩
      intro x here y last
      obtain rfl := List.mem_singleton.mp last
      have before := List.idxOf_lt_length_of_mem (List.mem_eraseDups.mp here)
      rw [placed here, List.idxOf_append_of_notMem fresh]
      omega

theorem nodup_eraseDups (xs : List α) : xs.eraseDups.Nodup :=
  (eraseDups_ordered xs).imp fun {x y} before (same : x = y) => absurd (congrArg xs.idxOf same) (Nat.ne_of_lt before)

theorem eraseDups_eq_self_iff (xs : List α) : xs.eraseDups = xs ↔ xs.Nodup := by
  constructor
  · intro same
    rw [← same]
    exact nodup_eraseDups xs
  · intro distinct
    induction xs with
    | nil => rfl
    | cons x rest ih =>
      obtain ⟨fresh, distinct⟩ := List.nodup_cons.mp distinct
      have others : (rest.filter fun y => !y == x) = rest := by
        refine List.filter_eq_self.mpr fun y here => ?_
        have other : y ≠ x := fun same => fresh (same ▸ here)
        simpa using other
      rw [List.eraseDups_cons, others, ih distinct]

theorem eraseDups_map {f : α → β} {xs : List α} (injective : ∀ x ∈ xs, ∀ y ∈ xs, f x = f y → x = y) :
    (xs.map f).eraseDups = xs.eraseDups.map f := by
  induction xs using List.reverseRecOn with
  | nil => simp
  | append_singleton seen v ih =>
    have known : f v ∈ seen.map f ↔ v ∈ seen := by
      refine ⟨fun listed => ?_, List.mem_map_of_mem⟩
      obtain ⟨x, here, same⟩ := List.mem_map.mp listed
      exact injective x (by simp [here]) v (by simp) same ▸ here
    have before := ih fun x here y there => injective x (by simp [here]) y (by simp [there])
    rw [List.map_append, List.map_singleton, eraseDups_concat, eraseDups_concat, before]
    by_cases listed : v ∈ seen <;> simp [known, listed]

theorem eraseDups_filter (p : α → Bool) (xs : List α) : (xs.filter p).eraseDups = xs.eraseDups.filter p := by
  induction xs using List.reverseRecOn with
  | nil => simp
  | append_singleton seen v ih =>
    rw [List.filter_append, List.filter_cons, List.filter_nil, eraseDups_concat]
    by_cases kept : p v = true
    · rw [if_pos kept, eraseDups_concat, ih]
      by_cases known : v ∈ seen <;> simp [known, kept]
    · rw [if_neg kept, List.append_nil, ih]
      by_cases known : v ∈ seen <;> simp [known, kept]

/-! ## Values that one of two lists lacks -/

/-- The values of a list that another one lacks, each once and in the order of their first occurrences. -/
structure IsLacking (xs other values : List α) : Prop where
  members : ∀ v, v ∈ values ↔ v ∈ xs ∧ v ∉ other
  distinct : values.Nodup
  ordered : values.Pairwise fun v w => xs.idxOf v < xs.idxOf w

theorem isLacking_lacking (xs other : List α) : IsLacking xs other (lacking xs other) := by
  refine ⟨mem_lacking xs other, nodup_eraseDups _, ?_⟩
  rw [lacking, eraseDups_filter]
  exact (eraseDups_ordered xs).filter _

omit [LawfulBEq α] in
/-- There is only one list of these values: the members tell what is in it, and the order tells where. -/
theorem IsLacking.unique {xs other one two : List α} (left : IsLacking xs other one)
    (right : IsLacking xs other two) : one = two := by
  have perm : one.Perm two := by
    refine (List.perm_ext_iff_of_nodup left.distinct right.distinct).mpr fun v => ?_
    rw [left.members, right.members]
  refine perm.eq_of_pairwise ?_ left.ordered right.ordered
  intro v w _ _ before after
  omega

/-- The markers of two lists are what each of them lacks of the other, the old list first. There are none exactly if
    the lists have the same members, and the old list without what is marked as deleted and with what is marked as
    added has the members of the new one. -/
theorem valueMarkers_exact (old new : List α) :
    (∀ ms, valueMarkers old new = ms ↔ ∃ lost gained, IsLacking old new lost ∧ IsLacking new old gained ∧
        ms = lost.map .deleted ++ gained.map .added) ∧
      (valueMarkers old new = [] ↔ SameMembers old new) ∧
      ∀ v, v ∈ new ↔ (v ∈ old ∧ .deleted v ∉ valueMarkers old new) ∨ .added v ∈ valueMarkers old new := by
  refine ⟨fun ms => ⟨?_, ?_⟩, valueMarkers_eq_nil_iff old new, fun v => ?_⟩
  · rintro rfl
    exact ⟨_, _, isLacking_lacking old new, isLacking_lacking new old, valueMarkers_eq old new⟩
  · rintro ⟨lost, gained, left, right, rfl⟩
    rw [valueMarkers_eq, left.unique (isLacking_lacking old new), right.unique (isLacking_lacking new old)]
  · by_cases known : v ∈ old <;> simp [mem_valueMarkers, known]

/-- Values repeat on both sides, also those that both lists have. -/
theorem valueMarkers_exact_repeated :
    let old := ["a", "b", "a", "c", "b"]
    let new := ["d", "c", "e", "d", "c"]
    valueMarkers old new = [.deleted "a", .deleted "b", .added "d", .added "e"] ∧ ¬ SameMembers old new := by
  intro old new
  obtain ⟨only, silent, -⟩ := valueMarkers_exact old new
  have lost : IsLacking old new ["a", "b"] := ⟨by simp [old, new]; grind, by decide, by decide⟩
  have gained : IsLacking new old ["d", "e"] := ⟨by simp [old, new]; grind, by decide, by decide⟩
  have markers := (only _).mpr ⟨_, _, lost, gained, rfl⟩
  refine ⟨markers, fun same => ?_⟩
  cases markers.symm.trans (silent.mpr same)

end Scorecard

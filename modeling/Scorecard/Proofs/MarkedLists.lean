import Mathlib.Data.List.Nodup
import Scorecard.Proofs.KeyedMembers

/-!
# What the markers of a list tell

Compared with the same old list, two new lists that are marked alike have the same members: plain values
by membership (`sameMembers_of_valueMarkers`), identified members by the first one with each id
(`sameById_of_memberMarkers`). What a marker says is what its list of origin has and the other list
lacks, so the proofs begin with which markers there are.
-/

namespace Scorecard

variable {α β γ : Type}

/-! ## Lists that are equal member by member -/

section Equal

variable [BEq α]

/-- Each member of a list has an equal one in an equal list. -/
theorem exists_mem_of_beq {xs ys : List α} (same : (xs == ys) = true) {x : α} (here : x ∈ xs) :
    ∃ y ∈ ys, (x == y) = true := by
  induction xs generalizing ys with
  | nil => cases here
  | cons first rest ih =>
    cases ys with
    | nil => cases same
    | cons y later =>
      rw [List.cons_beq_cons, Bool.and_eq_true] at same
      rcases List.mem_cons.mp here with rfl | here
      · exact ⟨y, List.mem_cons_self, same.1⟩
      · obtain ⟨y, there, equal⟩ := ih same.2 here
        exact ⟨y, List.mem_cons_of_mem _ there, equal⟩

/-- What equal members have in common equal lists have in common. -/
theorem map_eq_of_beq {f : α → β} (common : ∀ x y, (x == y) = true → f x = f y) {xs ys : List α}
    (same : (xs == ys) = true) : xs.map f = ys.map f := by
  induction xs generalizing ys with
  | nil =>
    cases ys with
    | nil => rfl
    | cons => cases same
  | cons x rest ih =>
    cases ys with
    | nil => cases same
    | cons y later =>
      rw [List.cons_beq_cons, Bool.and_eq_true] at same
      rw [List.map_cons, List.map_cons, common x y same.1, ih same.2]

variable [BEq γ] {ms ns : List (Marker α γ)}

theorem exists_added_of_beq (same : (ms == ns) = true) {x : α} (here : .added x ∈ ms) :
    ∃ y, .added y ∈ ns ∧ (x == y) = true := by
  obtain ⟨n, there, equal⟩ := exists_mem_of_beq same here
  cases n with
  | added y => exact ⟨y, there, equal⟩
  | _ => cases equal

theorem exists_contentChanged_of_beq (same : (ms == ns) = true) {c : γ} (here : .contentChanged c ∈ ms) :
    ∃ d, .contentChanged d ∈ ns ∧ (c == d) = true := by
  obtain ⟨n, there, equal⟩ := exists_mem_of_beq same here
  cases n with
  | contentChanged d => exact ⟨d, there, equal⟩
  | _ => cases equal

end Equal

/-! ## Plain values -/

/-- The same members, in whatever order and however often. -/
def SameMembers (xs ys : List α) : Prop := ∀ x, x ∈ xs ↔ x ∈ ys

section Values

variable [BEq α] {mark : α → PlainMarker α} {other : List α}

/-- The values that another list lacks, each where it first occurs. -/
def lacking (xs other : List α) : List α := (xs.filter fun v => !other.contains v).eraseDups

theorem eraseDups_sublist (xs : List α) : xs.eraseDups.Sublist xs := by
  match xs with
  | [] => simp
  | x :: rest =>
    rw [List.eraseDups_cons]
    exact ((eraseDups_sublist (rest.filter fun y => !y == x)).trans List.filter_sublist).cons_cons x
termination_by xs.length
decreasing_by exact Nat.lt_succ_of_le (List.length_filter_le _ _)

theorem lacking_sublist (xs other : List α) : (lacking xs other).Sublist xs :=
  (eraseDups_sublist _).trans List.filter_sublist

/-- What a loop over a list has to report after what was reported before it. -/
def Reported.fresh (r : Reported α) (xs other : List α) : List α :=
  (xs.filter fun v => !other.contains v && !r.values.contains v).eraseDups

/-- A value that is reported is not fresh any more. -/
theorem fresh_enter {r : Reported α} {v : α} (new : (!other.contains v && !r.values.contains v) = true) (rest : List α) :
    r.fresh (v :: rest) other = v :: (r.enter mark other v).fresh rest other := by
  have reported (w : α) : (!other.contains w && !(r.enter mark other v).values.contains w) =
      (!(w == v) && (!other.contains w && !r.values.contains w)) := by
    rw [Reported.enter, if_pos new, List.contains_append, Bool.not_or, ← Bool.and_assoc, Bool.and_comm]
    simp
  rw [Reported.fresh, List.filter_cons, if_pos new, List.eraseDups_cons, List.filter_filter, Reported.fresh]
  simp only [reported]

/-- A loop reports each value once. The induction is on the list: a reported value joins those that the rest of the
    loop passes over. -/
theorem foldl_enter (xs : List α) (r : Reported α) : xs.foldl (Reported.enter mark other) r =
    ⟨r.values ++ r.fresh xs other, r.markers ++ (r.fresh xs other).map mark⟩ := by
  induction xs generalizing r with
  | nil => simp [Reported.fresh]
  | cons v rest ih =>
    rw [List.foldl_cons, ih]
    by_cases new : (!other.contains v && !r.values.contains v) = true
    · rw [fresh_enter new rest, Reported.enter, if_pos new]
      simp
    · have same : r.enter mark other v = r := by rw [Reported.enter, if_neg new]
      have passed : r.fresh (v :: rest) other = r.fresh rest other := by
        rw [Reported.fresh, List.filter_cons, if_neg new, Reported.fresh]
      rw [same, passed]

variable [LawfulBEq α]

theorem mem_lacking (xs other : List α) (v : α) : v ∈ lacking xs other ↔ v ∈ xs ∧ v ∉ other := by
  simp [lacking, List.mem_eraseDups]

/-- The comparison of two lists by membership: the deletions in the order of the old list, and then the additions in
    the order of the new one. -/
theorem valueMarkers_eq (old new : List α) :
    valueMarkers old new = (lacking old new).map .deleted ++ (lacking new old).map .added := by
  have gained : (new.filter fun v => !old.contains v && !(lacking old new).contains v) =
      new.filter fun v => !old.contains v := by
    refine List.filter_congr fun v _ => ?_
    by_cases known : v ∈ old <;> simp [known, mem_lacking]
  have lost : (Reported.fresh ⟨[], []⟩ old new : List α) = lacking old new := by simp [Reported.fresh, lacking]
  rw [valueMarkers, foldl_enter, foldl_enter, lost]
  simp only [List.nil_append, Reported.fresh, gained]
  rfl

theorem mem_valueMarkers (old new : List α) (m : PlainMarker α) :
    m ∈ valueMarkers old new ↔
      (∃ v ∈ old, v ∉ new ∧ m = .deleted v) ∨ (∃ v ∈ new, v ∉ old ∧ m = .added v) := by
  simp only [valueMarkers_eq, List.mem_append, List.mem_map, mem_lacking, and_assoc, eq_comm]

/-- There are no markers exactly if the lists have the same members. -/
theorem valueMarkers_eq_nil_iff (old new : List α) : valueMarkers old new = [] ↔ SameMembers old new := by
  rw [valueMarkers_eq, List.append_eq_nil_iff, List.map_eq_nil_iff, List.map_eq_nil_iff,
    List.eq_nil_iff_forall_not_mem, List.eq_nil_iff_forall_not_mem]
  simp only [mem_lacking, not_and, not_not, SameMembers]
  exact forall_and.symm.trans (forall_congr' fun v => iff_def.symm)

/-- A value is in the new list if it is marked as added, or if it is in the old list and not marked as
    deleted. -/
theorem mem_new_iff (old new : List α) (v : α) :
    v ∈ new ↔ if v ∈ old then .deleted v ∉ valueMarkers old new else .added v ∈ valueMarkers old new := by
  by_cases known : v ∈ old <;> simp [mem_valueMarkers, known]

/-- The markers and the old list tell the members of the new one. -/
theorem sameMembers_of_valueMarkers {old one two : List α}
    (same : (valueMarkers old one == valueMarkers old two) = true) : SameMembers one two := by
  intro v
  rw [mem_new_iff old one, mem_new_iff old two, eq_of_beq same]

end Values

/-! ## Identified members -/

section Members

variable [HasId α]

theorem id_of_firstWithId {id : String} {xs : List α} {x : α} (first : firstWithId id xs = some x) :
    HasId.id x = id := by
  simpa using List.find?_some first

theorem isSome_firstWithId (id : String) (xs : List α) :
    (firstWithId id xs).isSome = true ↔ ∃ x ∈ xs, HasId.id x = id := by
  simp [firstWithId]

theorem firstWithId_cons (id : String) (x : α) (rest : List α) :
    firstWithId id (x :: rest) = if HasId.id x = id then some x else firstWithId id rest := by
  by_cases same : HasId.id x = id <;> simp [firstWithId, same]

/-- The members of which no earlier one has the id are those that are found by their ids. -/
theorem mem_firstMembers (xs : List α) (x : α) :
    x ∈ firstMembers xs ↔ firstWithId (HasId.id x) xs = some x := by
  induction xs with
  | nil => simp [firstMembers, firstWithId]
  | cons y rest ih =>
    rw [firstMembers, List.mem_cons, List.mem_filter, ih, firstWithId_cons]
    by_cases same : HasId.id y = HasId.id x
    · simp [same, eq_comm]
    · have other : x ≠ y := fun equal => same (equal ▸ rfl)
      simp [same, other, Ne.symm same]

theorem nodup_firstMembers (xs : List α) : (firstMembers xs).Nodup := by
  induction xs with
  | nil => exact List.nodup_nil
  | cons x rest ih =>
    rw [firstMembers, List.nodup_cons]
    exact ⟨fun again => by simp at again, ih.filter _⟩

theorem firstMembers_sublist (xs : List α) : (firstMembers xs).Sublist xs := by
  induction xs with
  | nil => exact .refl _
  | cons x rest ih => exact (List.filter_sublist.trans ih).cons_cons x

/-- Deletions come in the order of the old list, and so additions in the order of the new one. -/
theorem deletions_sublist (old new : List α) : (deletions old new).Sublist old :=
  List.filter_sublist.trans (firstMembers_sublist old)

theorem mem_deletions (old new : List α) (x : α) :
    x ∈ deletions old new ↔
      firstWithId (HasId.id x) old = some x ∧ firstWithId (HasId.id x) new = none := by
  rw [deletions, List.mem_filter, mem_firstMembers, Option.isNone_iff_eq_none]

theorem mem_alterations [BEq α] (old new : List α) (o x : α) :
    (o, x) ∈ alterations old new ↔
      firstWithId (HasId.id x) new = some x ∧ firstWithId (HasId.id x) old = some o ∧ (o == x) = false := by
  rw [alterations, List.mem_filterMap]
  constructor
  · rintro ⟨y, first, altered⟩
    split at altered
    · rename_i previous found
      split at altered
      · cases altered
      · rename_i differs
        cases altered
        exact ⟨(mem_firstMembers new x).mp first, found, by simpa using differs⟩
    · cases altered
  · rintro ⟨first, found, differs⟩
    exact ⟨x, (mem_firstMembers new x).mpr first, by simp [found, differs]⟩

theorem alterations_sublist [BEq α] (old new : List α) :
    ((alterations old new).map Prod.snd).Sublist (firstMembers new) := by
  unfold alterations
  induction firstMembers new with
  | nil => exact .refl _
  | cons x rest ih =>
    rw [List.filterMap_cons]
    split
    · exact ih.cons x
    · next pair altered =>
      split at altered
      · split at altered
        · cases altered
        · cases altered
          exact ih.cons_cons x
      · cases altered

theorem nodup_alterations [BEq α] (old new : List α) : (alterations old new).Nodup :=
  ((nodup_firstMembers new).sublist (alterations_sublist old new)).of_map

theorem mem_alterations_swap [BEq α] [PartialEquivBEq α] (old new : List α) (o x : α) :
    (x, o) ∈ alterations new old ↔ (o, x) ∈ alterations old new := by
  rw [mem_alterations, mem_alterations, BEq.comm]
  constructor
  · rintro ⟨before, after, differs⟩
    have ids := id_of_firstWithId after
    rw [← ids] at before after
    exact ⟨after, before, differs⟩
  · rintro ⟨after, before, differs⟩
    have ids := id_of_firstWithId before
    rw [← ids] at before after
    exact ⟨before, after, differs⟩

/-- Seen from the other side the same pairs are altered, in the order of the other list. -/
theorem alterations_swap [BEq α] [PartialEquivBEq α] (old new : List α) :
    (alterations new old).Perm ((alterations old new).map Prod.swap) := by
  have swap_injective : Function.Injective (Prod.swap : α × α → α × α) :=
    Function.LeftInverse.injective Prod.swap_swap
  have swapped := (nodup_alterations old new).map swap_injective
  refine (List.perm_ext_iff_of_nodup (nodup_alterations new old) swapped).mpr ?_
  rintro ⟨x, o⟩
  rw [mem_alterations_swap, List.mem_map]
  constructor
  · intro altered
    exact ⟨(o, x), altered, rfl⟩
  · rintro ⟨⟨o', x'⟩, altered, same⟩
    cases same
    exact altered

variable [BEq α] {content : α → α → γ}

theorem added_mem_memberMarkers (old new : List α) (x : α) :
    .added x ∈ memberMarkers old new content ↔
      firstWithId (HasId.id x) new = some x ∧ firstWithId (HasId.id x) old = none := by
  simp [memberMarkers_groups, additions, mem_deletions]

theorem deleted_mem_memberMarkers (old new : List α) (x : α) :
    .deleted x ∈ memberMarkers old new content ↔
      firstWithId (HasId.id x) old = some x ∧ firstWithId (HasId.id x) new = none := by
  simp [memberMarkers_groups, mem_deletions]

theorem contentChanged_mem_memberMarkers (old new : List α) (c : γ) :
    .contentChanged c ∈ memberMarkers old new content ↔
      ∃ o x, (firstWithId (HasId.id x) new = some x ∧ firstWithId (HasId.id x) old = some o ∧
        (o == x) = false) ∧ content o x = c := by
  simp [memberMarkers_groups, mem_alterations]

/-- A marker with the ids of the members and of the nested changes in their place. -/
def Marker.outline [HasId γ] : Marker α γ → Marker String String
  | .unchanged x => .unchanged (HasId.id x)
  | .added x => .added (HasId.id x)
  | .deleted x => .deleted (HasId.id x)
  | .changed x y => .changed (HasId.id x) (HasId.id y)
  | .contentChanged c => .contentChanged (HasId.id c)

/-- What the nested changes have to tell for the markers to tell the list: the id of the member, and
    together with the old member, the new one as far as the relation goes. -/
structure Tells [HasId γ] [BEq γ] (content : α → α → γ) (related : α → α → Prop) : Prop where
  id_of_beq {x y : α} : (x == y) = true → HasId.id x = HasId.id y
  content_id (old new : α) : HasId.id (content old new) = HasId.id new
  id_of_content_beq {c d : γ} : (c == d) = true → HasId.id c = HasId.id d
  of_beq {x y : α} : (x == y) = true → related x y
  of_content {old x y : α} : (content old x == content old y) = true → related x y

/-- Two lists with the same ids, and for each id the first members with it are related. -/
structure SameById (related : α → α → Prop) (xs ys : List α) : Prop where
  ids : ∀ id, (∃ x ∈ xs, HasId.id x = id) ↔ ∃ y ∈ ys, HasId.id y = id
  first : ∀ id x y, firstWithId id xs = some x → firstWithId id ys = some y → related x y

section Outlines

variable [HasId γ] {related : α → α → Prop} {old one two new : List α}

/-- An id is marked as added if only the new list has it. -/
theorem added_mem_outlines (id : String) :
    .added id ∈ (memberMarkers old new content).map Marker.outline ↔
      (firstWithId id old).isSome = false ∧ (firstWithId id new).isSome = true := by
  rw [List.mem_map, Option.isSome_eq_false_iff, Option.isNone_iff_eq_none, Option.isSome_iff_exists]
  constructor
  · rintro ⟨m, here, outline⟩
    cases m with
    | added x =>
      cases outline
      obtain ⟨first, lacking⟩ := (added_mem_memberMarkers old new x).mp here
      exact ⟨lacking, x, first⟩
    | _ => cases outline
  · rintro ⟨lacking, x, first⟩
    have known := id_of_firstWithId first
    subst known
    exact ⟨.added x, (added_mem_memberMarkers old new x).mpr ⟨first, lacking⟩, rfl⟩

/-- An id is marked as deleted if only the old list has it. -/
theorem deleted_mem_outlines (id : String) :
    .deleted id ∈ (memberMarkers old new content).map Marker.outline ↔
      (firstWithId id old).isSome = true ∧ (firstWithId id new).isSome = false := by
  rw [List.mem_map, Option.isSome_eq_false_iff, Option.isNone_iff_eq_none, Option.isSome_iff_exists]
  constructor
  · rintro ⟨m, here, outline⟩
    cases m with
    | deleted x =>
      cases outline
      obtain ⟨first, lacking⟩ := (deleted_mem_memberMarkers old new x).mp here
      exact ⟨⟨x, first⟩, lacking⟩
    | _ => cases outline
  · rintro ⟨⟨x, first⟩, lacking⟩
    have known := id_of_firstWithId first
    subst known
    exact ⟨.deleted x, (deleted_mem_memberMarkers old new x).mpr ⟨first, lacking⟩, rfl⟩

/-- Marked in the same way, both new lists have the same ids. -/
theorem isSome_of_outlines
    (same : (memberMarkers old one content).map Marker.outline = (memberMarkers old two content).map Marker.outline)
    (id : String) : (firstWithId id one).isSome = (firstWithId id two).isSome := by
  have added : .added id ∈ (memberMarkers old one content).map Marker.outline ↔
      .added id ∈ (memberMarkers old two content).map Marker.outline := by rw [same]
  have deleted : .deleted id ∈ (memberMarkers old one content).map Marker.outline ↔
      .deleted id ∈ (memberMarkers old two content).map Marker.outline := by rw [same]
  rw [added_mem_outlines, added_mem_outlines] at added
  rw [deleted_mem_outlines, deleted_mem_outlines] at deleted
  cases known : (firstWithId id old).isSome with
  | false => exact Bool.eq_iff_iff.mpr (by simpa [known] using added)
  | true =>
    cases left : (firstWithId id one).isSome <;> cases right : (firstWithId id two).isSome <;>
      simp [known, left, right] at deleted ⊢

variable [BEq γ]

theorem Marker.outline_of_beq (tells : Tells content related) {m n : Marker α γ}
    (same : (m == n) = true) : m.outline = n.outline := by
  cases m <;> cases n <;> try cases same
  · exact congrArg Marker.unchanged (tells.id_of_beq same)
  · exact congrArg Marker.added (tells.id_of_beq same)
  · exact congrArg Marker.deleted (tells.id_of_beq same)
  · have both := Bool.and_eq_true_iff.mp same
    rw [outline, outline, tells.id_of_beq both.1, tells.id_of_beq both.2]
  · exact congrArg Marker.contentChanged (tells.id_of_content_beq same)

/-- An id is marked as changed if the first members with it differ. -/
theorem contentChanged_mem_outlines (tells : Tells content related) (id : String) :
    .contentChanged id ∈ (memberMarkers old new content).map Marker.outline ↔
      ∃ o x, firstWithId id old = some o ∧ firstWithId id new = some x ∧ (o == x) = false := by
  rw [List.mem_map]
  constructor
  · rintro ⟨m, here, outline⟩
    cases m with
    | contentChanged c =>
      obtain ⟨o, x, ⟨first, found, differs⟩, rfl⟩ := (contentChanged_mem_memberMarkers old new c).mp here
      cases outline
      rw [tells.content_id]
      exact ⟨o, x, found, first, differs⟩
    | _ => cases outline
  · rintro ⟨o, x, found, first, differs⟩
    have known := id_of_firstWithId first
    subst known
    refine ⟨.contentChanged (content o x), ?_, congrArg _ (tells.content_id o x)⟩
    exact (contentChanged_mem_memberMarkers old new _).mpr ⟨o, x, ⟨first, found, differs⟩, rfl⟩

/-- The markers and the old list tell the new one up to order and repetition. The first members with an id
    are found in the marker about it: as such if it was added, by the nested changes if it was changed,
    and as the old member if there is no marker. -/
theorem sameById_of_memberMarkers [PartialEquivBEq α] (tells : Tells content related)
    (same : (memberMarkers old one content == memberMarkers old two content) = true) :
    SameById related one two := by
  have outlines := map_eq_of_beq (fun _ _ => Marker.outline_of_beq tells) same
  refine ⟨?_, ?_⟩
  · intro id
    rw [← isSome_firstWithId, ← isSome_firstWithId, isSome_of_outlines outlines]
  · intro id x y inOne inTwo
    have known := id_of_firstWithId inOne
    subst known
    cases found : firstWithId (HasId.id x) old with
    | none =>
      have marked : .added x ∈ memberMarkers old one content :=
        (added_mem_memberMarkers old one x).mpr ⟨inOne, found⟩
      obtain ⟨z, there, equal⟩ := exists_added_of_beq same marked
      have first := ((added_mem_memberMarkers old two z).mp there).1
      rw [← tells.id_of_beq equal, inTwo] at first
      cases first
      exact tells.of_beq equal
    | some o =>
      have altered : .contentChanged (HasId.id x) ∈ (memberMarkers old one content).map Marker.outline ↔
          .contentChanged (HasId.id x) ∈ (memberMarkers old two content).map Marker.outline := by rw [outlines]
      rw [contentChanged_mem_outlines tells, contentChanged_mem_outlines tells] at altered
      simp only [found, inOne, inTwo, Option.some.injEq] at altered
      cases differs : o == x with
      | true =>
        have unaltered : (o == y) = true := by simpa [differs] using altered
        exact tells.of_beq (BEq.trans (BEq.symm differs) unaltered)
      | false =>
        have marked : .contentChanged (content o x) ∈ memberMarkers old one content :=
          (contentChanged_mem_memberMarkers old one _).mpr ⟨o, x, ⟨inOne, found, differs⟩, rfl⟩
        obtain ⟨d, there, equal⟩ := exists_contentChanged_of_beq same marked
        obtain ⟨previous, z, ⟨first, known, -⟩, rfl⟩ := (contentChanged_mem_memberMarkers old two d).mp there
        have ids := tells.id_of_content_beq equal
        rw [tells.content_id, tells.content_id] at ids
        rw [← ids, inTwo] at first
        rw [← ids, found] at known
        cases first
        cases known
        exact tells.of_content equal

end Outlines

end Members
end Scorecard

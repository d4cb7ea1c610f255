import Scorecard.Marker

/-!
# Members by their ids

The comparison of two lists of identified members goes by two indexes and gathers what it finds in a loop over the
new list. An index finds the first member with an id (`MemberIndex.find?_ofList`) and refers to the members whose id
no earlier member has (`MemberIndex.firstOccurrences_ofList`). So the comparison gives three groups, which are said
here by the two lists alone (`memberMarkers_groups`).
-/

namespace Scorecard

variable {α γ : Type} [HasId α]

/-- The first member with an id. -/
def firstWithId (id : String) (xs : List α) : Option α :=
  xs.find? fun x => HasId.id x == id

/-- The members whose id no earlier member has. -/
def firstMembers : List α → List α
  | [] => []
  | x :: rest => x :: (firstMembers rest).filter fun y => HasId.id y != HasId.id x

/-- The members that only the old list has. -/
def deletions (old new : List α) : List α :=
  (firstMembers old).filter fun x => (firstWithId (HasId.id x) new).isNone

/-- The members that only the new list has. -/
def additions (old new : List α) : List α := deletions new old

/-- The pairs of members that share an id and differ, in the order of the new list. -/
def alterations [BEq α] (old new : List α) : List (α × α) :=
  (firstMembers new).filterMap fun x =>
    match firstWithId (HasId.id x) old with
    | some previous => if previous == x then none else some (previous, x)
    | none => none

/-! ## Indexes -/

namespace MemberIndex

variable (index : MemberIndex α) (id : String)

theorem find?_enter (item : α × Nat) :
    (index.enter item).find? id = (index.find? id).or (if HasId.id item.1 = id then some item else none) := by
  unfold enter
  split
  case isTrue taken =>
    by_cases same : HasId.id item.1 = id
    · rw [same] at taken
      rw [Option.or_of_isSome taken]
    · rw [if_neg same, Option.or_none]
  case isFalse =>
    by_cases same : HasId.id item.1 = id
    · simp [find?, List.lookup_append, same]
    · simp [find?, List.lookup_append, List.lookup_cons, beq_false_of_ne (Ne.symm same), same]

/-- What was entered first is found. -/
theorem find?_foldl_enter (items : List (α × Nat)) : (items.foldl enter index).find? id =
    (index.find? id).or (items.find? fun item => HasId.id item.1 == id) := by
  induction items generalizing index with
  | nil => simp
  | cons item rest ih =>
    rw [List.foldl_cons, ih, find?_enter, Option.or_assoc]
    by_cases same : HasId.id item.1 = id <;> simp [same]

theorem find?_zipIdx (xs : List α) : (ofList xs).find? id = xs.zipIdx.find? fun item => HasId.id item.1 == id :=
  find?_foldl_enter ⟨[]⟩ id xs.zipIdx

/-- The index of a list finds the first member with an id. -/
theorem find?_ofList (xs : List α) : ((ofList xs).find? id).map Prod.fst = firstWithId id xs := by
  have member := List.find?_map (f := Prod.fst) (p := fun x => HasId.id x == id) (l := xs.zipIdx)
  rw [List.zipIdx_map_fst] at member
  rw [find?_zipIdx, firstWithId, member]
  rfl

/-- The members that are found at their own places are those whose id no earlier member has. The induction is on the
    list, wherever its places begin: behind a first member no member with its id is found any more. -/
theorem filter_zipIdx (xs : List α) (start : Nat) : ((xs.zipIdx start).filter fun item =>
      ((xs.zipIdx start).find? fun first => HasId.id first.1 == HasId.id item.1).any fun first =>
        first.2 == item.2).map Prod.fst = firstMembers xs := by
  induction xs generalizing start with
  | nil => rfl
  | cons x rest ih =>
    have behind : ∀ item ∈ rest.zipIdx (start + 1),
        (((x, start) :: rest.zipIdx (start + 1)).find? fun first => HasId.id first.1 == HasId.id item.1).any
          (fun first => first.2 == item.2) =
        (HasId.id item.1 != HasId.id x &&
          ((rest.zipIdx (start + 1)).find? fun first => HasId.id first.1 == HasId.id item.1).any
            fun first => first.2 == item.2) := by
      intro item here
      have later : start ≠ item.2 := Nat.ne_of_lt (List.le_snd_of_mem_zipIdx here)
      by_cases same : HasId.id x = HasId.id item.1
      · simp [same, later]
      · simp [same, Ne.symm same]
    rw [firstMembers, ← ih (start + 1), List.zipIdx_cons, List.filter_cons, if_pos (by simp), List.filter_congr behind,
      List.map_cons, List.filter_map, List.filter_filter]
    rfl

theorem firstOccurrences_ofList (xs : List α) : (ofList xs).firstOccurrences xs = firstMembers xs := by
  simp only [firstOccurrences, find?_zipIdx, filter_zipIdx]

end MemberIndex

/-! ## The comparison -/

/-- The loop adds to the two lists, in its own order, the members that the index lacks and those that it holds
    differently. -/
theorem foldl_gathered [BEq α] (old xs : List α) (content : α → α → γ) (found : Gathered α γ) :
    xs.foldl (Gathered.enter (.ofList old) content) found =
      ⟨found.changed ++ (xs.filterMap fun x =>
          match firstWithId (HasId.id x) old with
          | some previous => if previous == x then none else some (previous, x)
          | none => none).map (fun p => .contentChanged (content p.1 p.2)),
        found.added ++ (xs.filter fun x => (firstWithId (HasId.id x) old).isNone).map .added⟩ := by
  induction xs generalizing found with
  | nil => simp
  | cons x rest ih =>
    rw [List.foldl_cons, ih]
    have known := MemberIndex.find?_ofList (HasId.id x) old
    cases looked : (MemberIndex.ofList old).find? (HasId.id x) with
    | none =>
      rw [looked, Option.map_none] at known
      simp [Gathered.enter, looked, ← known]
    | some previous =>
      rw [looked, Option.map_some] at known
      by_cases same : (previous.1 == x) = true <;> simp [Gathered.enter, looked, ← known, same]

/-- The comparison gives the deletions, then the alterations, then the additions. -/
theorem memberMarkers_groups [BEq α] (old new : List α) (content : α → α → γ) : memberMarkers old new content =
    (deletions old new).map .deleted ++
      (alterations old new).map (fun p => .contentChanged (content p.1 p.2)) ++
      (additions old new).map .added := by
  have lacks (x : α) : ((MemberIndex.ofList new).find? (HasId.id x)).isNone =
      (firstWithId (HasId.id x) new).isNone := by
    rw [← MemberIndex.find?_ofList, Option.isNone_map]
  simp only [memberMarkers, MemberIndex.firstOccurrences_ofList, foldl_gathered, lacks, List.nil_append]
  rfl

end Scorecard

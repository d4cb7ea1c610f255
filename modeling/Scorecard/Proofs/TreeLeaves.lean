import Scorecard.PathComparison
import Scorecard.Proofs.AlikeTrees

/-!
# The leaves of a tree

Flattening lists each leaf of a tree once, under the path that leads to it (`mem_leavesAt`,
`nodup_leavesAt`). Every tree has a leaf (`exists_leaf`), so where a tree branches its leaves tell how.
-/

namespace Scorecard.Value

/-- A path leads to a leaf. -/
def HasLeaf (v : Value) (p : Path) (leaf : Value) : Prop := descend? p v = some leaf ∧ leaf.isLeaf = true

theorem descend_cons (step : PathStep) (rest : Path) (v : Value) :
    descend? (step :: rest) v = (child? step v).bind (descend? rest) := rfl

theorem hasLeaf_nil {v leaf : Value} : v.HasLeaf [] leaf ↔ v = leaf ∧ v.isLeaf = true := by
  constructor
  · rintro ⟨found, isLeaf⟩
    cases found
    exact ⟨rfl, isLeaf⟩
  · rintro ⟨rfl, isLeaf⟩
    exact ⟨rfl, isLeaf⟩

theorem hasLeaf_cons {v leaf : Value} {step : PathStep} {rest : Path} :
    v.HasLeaf (step :: rest) leaf ↔ ∃ c, child? step v = some c ∧ c.HasLeaf rest leaf := by
  simp only [HasLeaf, descend_cons, Option.bind_eq_some_iff]
  exact ⟨fun ⟨⟨c, found, reached⟩, isLeaf⟩ => ⟨c, found, reached, isLeaf⟩,
    fun ⟨c, found, reached, isLeaf⟩ => ⟨⟨c, found, reached⟩, isLeaf⟩⟩

/-- A leaf has no children. -/
theorem child_of_isLeaf {v : Value} (isLeaf : v.isLeaf = true) (step : PathStep) : child? step v = none := by
  cases v with
  | list items =>
    rw [isLeaf_list.mp isLeaf]
    cases step <;> rfl
  | object es =>
    rw [isLeaf_object.mp isLeaf]
    cases step <;> rfl
  | _ => cases step <;> rfl

/-- What is no leaf has a child. -/
theorem exists_child {v : Value} (branches : v.isLeaf = false) : ∃ step c, child? step v = some c := by
  cases v with
  | list items =>
    cases items with
    | nil => cases branches
    | cons first rest => exact ⟨.index 0, first, rfl⟩
  | object es =>
    cases es with
    | nil => cases branches
    | cons e rest => exact ⟨.key e.1, e.2, if_pos rfl⟩
  | _ => cases branches

/-- Every tree has a leaf. -/
theorem exists_leaf (v : Value) : ∃ p leaf, v.HasLeaf p leaf := by
  induction v using child_induction with
  | up v ih =>
    cases kind : v.isLeaf with
    | true => exact ⟨[], v, hasLeaf_nil.mpr ⟨rfl, kind⟩⟩
    | false =>
      obtain ⟨step, c, found⟩ := exists_child kind
      obtain ⟨p, leaf, here⟩ := ih step c found
      exact ⟨step :: p, leaf, hasLeaf_cons.mpr ⟨c, found, here⟩⟩

/-! ## What flattening lists -/

theorem mem_itemLeaves (path : Path) (start : Nat) (items : List Value) (x : Path × Value) :
    x ∈ itemLeaves path start items ↔
      ∃ i v, items[i]? = some v ∧ x ∈ leavesAt (path ++ [.index (start + i)]) v := by
  induction items generalizing start with
  | nil => simp [itemLeaves]
  | cons first rest ih =>
    rw [itemLeaves, List.mem_append, ih]
    constructor
    · rintro (here | ⟨i, v, found, here⟩)
      · exact ⟨0, first, rfl, here⟩
      · refine ⟨i + 1, v, found, ?_⟩
        rwa [show start + (i + 1) = start + 1 + i by omega]
    · rintro ⟨i, v, found, here⟩
      cases i with
      | zero =>
        cases found
        exact .inl here
      | succ i =>
        refine .inr ⟨i, v, found, ?_⟩
        rwa [show start + 1 + i = start + (i + 1) by omega]

theorem mem_entryLeaves (path : Path) (es : List (String × Value)) (x : Path × Value) :
    x ∈ entryLeaves path es ↔ ∃ k v, (k, v) ∈ es ∧ x ∈ leavesAt (path ++ [.key k]) v := by
  induction es with
  | nil => simp [entryLeaves]
  | cons e rest ih =>
    obtain ⟨k, v⟩ := e
    rw [entryLeaves, List.mem_append, ih]
    constructor
    · rintro (here | ⟨l, w, there, here⟩)
      · exact ⟨k, v, List.mem_cons_self, here⟩
      · exact ⟨l, w, List.mem_cons_of_mem _ there, here⟩
    · rintro ⟨l, w, there, here⟩
      rcases List.mem_cons.mp there with same | later
      · cases same
        exact .inl here
      · exact .inr ⟨l, w, later, here⟩

/-- The leaves below the children of a tree. -/
def childLeaves (path : Path) : Value → List (Path × Value)
  | .list items => itemLeaves path 0 items
  | .object es => entryLeaves path es
  | _ => []

theorem mem_childLeaves {v : Value} (keyed : v.Keyed) (path : Path) (x : Path × Value) :
    x ∈ childLeaves path v ↔ ∃ step c, child? step v = some c ∧ x ∈ leavesAt (path ++ [step]) c := by
  cases v with
  | list items =>
    rw [childLeaves, mem_itemLeaves]
    constructor
    · rintro ⟨i, v, found, here⟩
      exact ⟨.index i, v, found, by rwa [Nat.zero_add] at here⟩
    · rintro ⟨step, c, found, here⟩
      cases step with
      | key => cases found
      | index i => exact ⟨i, c, found, by rwa [Nat.zero_add]⟩
  | object es =>
    rw [childLeaves, mem_entryLeaves]
    constructor
    · rintro ⟨k, v, there, here⟩
      exact ⟨.key k, v, (lookup_eq_some_iff keyed.1 k v).mpr there, here⟩
    · rintro ⟨step, c, found, here⟩
      cases step with
      | key k => exact ⟨k, c, mem_of_lookup found, here⟩
      | index => cases found
  | _ =>
    refine iff_of_false List.not_mem_nil ?_
    rintro ⟨step, c, found, -⟩
    cases step <;> cases found

theorem leavesAt_of_isLeaf {v : Value} (isLeaf : v.isLeaf = true) (path : Path) :
    leavesAt path v = [(path, v)] := by
  cases v with
  | list items =>
    rw [isLeaf_list.mp isLeaf]
    rfl
  | object es =>
    rw [isLeaf_object.mp isLeaf]
    rfl
  | _ => rfl

theorem leavesAt_of_branch {v : Value} (branches : v.isLeaf = false) (path : Path) :
    leavesAt path v = childLeaves path v := by
  cases v with
  | list items =>
    cases items with
    | nil => cases branches
    | cons first rest => rfl
  | object es =>
    cases es with
    | nil => cases branches
    | cons e rest => rfl
  | _ => cases branches

theorem leaves_of_isObject {v : Value} (isObject : v.isObject = true) : v.leaves = childLeaves [] v := by
  cases v with
  | object => rfl
  | _ => cases isObject

/-- Flattening lists the leaves of a tree with the paths that lead to them. -/
theorem mem_leavesAt {v : Value} (keyed : v.Keyed) (path p : Path) (leaf : Value) :
    (p, leaf) ∈ leavesAt path v ↔ ∃ rest, p = path ++ rest ∧ v.HasLeaf rest leaf := by
  -- The path so far grows by a step for each child, so it is general in the induction.
  induction v using child_induction generalizing path with
  | up v ih =>
    cases kind : v.isLeaf with
    | true =>
      rw [leavesAt_of_isLeaf kind, List.mem_singleton, Prod.mk.injEq]
      constructor
      · rintro ⟨rfl, rfl⟩
        exact ⟨[], by simp, hasLeaf_nil.mpr ⟨rfl, kind⟩⟩
      · rintro ⟨rest, rfl, here⟩
        cases rest with
        | nil => exact ⟨by simp, (hasLeaf_nil.mp here).1.symm⟩
        | cons step rest =>
          obtain ⟨c, found, -⟩ := hasLeaf_cons.mp here
          cases (child_of_isLeaf kind step).symm.trans found
    | false =>
      rw [leavesAt_of_branch kind, mem_childLeaves keyed]
      constructor
      · rintro ⟨step, c, found, here⟩
        obtain ⟨rest, rfl, leads⟩ := (ih step c found (keyed.child found) _).mp here
        exact ⟨step :: rest, by simp, hasLeaf_cons.mpr ⟨c, found, leads⟩⟩
      · rintro ⟨rest, rfl, here⟩
        cases rest with
        | nil => cases kind.symm.trans (hasLeaf_nil.mp here).2
        | cons step rest =>
          obtain ⟨c, found, leads⟩ := hasLeaf_cons.mp here
          exact ⟨step, c, found, (ih step c found (keyed.child found) _).mpr ⟨rest, by simp, leads⟩⟩

/-- An object is flattened into the leaves below it. -/
theorem mem_leaves {v : Value} (keyed : v.Keyed) (isObject : v.isObject = true) (p : Path) (leaf : Value) :
    (p, leaf) ∈ v.leaves ↔ p ≠ [] ∧ v.HasLeaf p leaf := by
  rw [leaves_of_isObject isObject, mem_childLeaves keyed]
  constructor
  · rintro ⟨step, c, found, here⟩
    obtain ⟨rest, rfl, leads⟩ := (mem_leavesAt (keyed.child found) _ _ _).mp here
    exact ⟨by simp, hasLeaf_cons.mpr ⟨c, found, leads⟩⟩
  · rintro ⟨below, here⟩
    obtain ⟨step, rest, rfl⟩ := List.exists_cons_of_ne_nil below
    obtain ⟨c, found, leads⟩ := hasLeaf_cons.mp here
    exact ⟨step, c, found, (mem_leavesAt (keyed.child found) _ _ _).mpr ⟨rest, rfl, leads⟩⟩

/-! ## No path is listed twice -/

theorem path_of_mem_leavesAt {v : Value} (keyed : v.Keyed) {path p : Path}
    (here : p ∈ (leavesAt path v).map Prod.fst) : ∃ rest, p = path ++ rest := by
  obtain ⟨⟨q, leaf⟩, listed, rfl⟩ := List.mem_map.mp here
  obtain ⟨rest, equal, -⟩ := (mem_leavesAt keyed path q leaf).mp listed
  exact ⟨rest, equal⟩

/-- Below different steps the paths differ. -/
theorem append_step_ne {path p q : Path} {one two : PathStep} (other : one ≠ two) :
    path ++ [one] ++ p ≠ path ++ [two] ++ q := by
  intro same
  simp only [List.append_assoc, List.append_cancel_left_eq, List.singleton_append, List.cons.injEq] at same
  exact other same.1

theorem nodup_itemLeaves {items : List Value} (keyed : KeyedItems items)
    (each : ∀ v ∈ items, ∀ path, ((leavesAt path v).map Prod.fst).Nodup) (path : Path) (start : Nat) :
    ((itemLeaves path start items).map Prod.fst).Nodup := by
  induction items generalizing start with
  | nil => exact List.nodup_nil
  | cons first rest ih =>
    rw [itemLeaves, List.map_append, List.nodup_append]
    refine ⟨each first List.mem_cons_self _,
      ih keyed.2 (fun v there => each v (List.mem_cons_of_mem _ there)) (start + 1), ?_⟩
    intro p inFirst q inRest
    obtain ⟨more, rfl⟩ := path_of_mem_leavesAt keyed.1 inFirst
    obtain ⟨⟨q, leaf⟩, listed, rfl⟩ := List.mem_map.mp inRest
    obtain ⟨i, v, found, here⟩ := (mem_itemLeaves _ _ _ _).mp listed
    obtain ⟨further, rfl, -⟩ := (mem_leavesAt (keyedItems_iff.mp keyed.2 v (List.mem_of_getElem? found)) _ _ _).mp here
    refine append_step_ne ?_
    simp only [ne_eq, PathStep.index.injEq]
    omega

theorem nodup_entryLeaves {es : List (String × Value)} (nodup : (es.map Prod.fst).Nodup)
    (keyed : KeyedEntries es) (each : ∀ e ∈ es, ∀ path, ((leavesAt path e.2).map Prod.fst).Nodup)
    (path : Path) : ((entryLeaves path es).map Prod.fst).Nodup := by
  induction es with
  | nil => exact List.nodup_nil
  | cons e rest ih =>
    obtain ⟨k, v⟩ := e
    rw [List.map_cons, List.nodup_cons] at nodup
    rw [entryLeaves, List.map_append, List.nodup_append]
    refine ⟨each (k, v) List.mem_cons_self _,
      ih nodup.2 keyed.2 (fun e there => each e (List.mem_cons_of_mem _ there)), ?_⟩
    intro p inFirst q inRest
    obtain ⟨more, rfl⟩ := path_of_mem_leavesAt keyed.1 inFirst
    obtain ⟨⟨q, leaf⟩, listed, rfl⟩ := List.mem_map.mp inRest
    obtain ⟨l, w, there, here⟩ := (mem_entryLeaves _ _ _).mp listed
    obtain ⟨further, rfl, -⟩ := (mem_leavesAt (keyedEntries_iff.mp keyed.2 (l, w) there) _ _ _).mp here
    refine append_step_ne ?_
    rw [ne_eq, PathStep.key.injEq]
    rintro rfl
    exact nodup.1 (List.mem_map.mpr ⟨_, there, rfl⟩)

theorem nodup_childLeaves {v : Value} (keyed : v.Keyed)
    (each : ∀ step c, child? step v = some c → ∀ path, ((leavesAt path c).map Prod.fst).Nodup) (path : Path) :
    ((childLeaves path v).map Prod.fst).Nodup := by
  cases v with
  | list items =>
    refine nodup_itemLeaves keyed ?_ path 0
    intro v here
    obtain ⟨i, found⟩ := List.mem_iff_getElem?.mp here
    exact each (.index i) v found
  | object es =>
    refine nodup_entryLeaves keyed.1 keyed.2 ?_ path
    intro e here
    exact each (.key e.1) e.2 ((lookup_eq_some_iff keyed.1 e.1 e.2).mpr here)
  | _ => exact List.nodup_nil

theorem nodup_leavesAt {v : Value} (keyed : v.Keyed) (path : Path) : ((leavesAt path v).map Prod.fst).Nodup := by
  induction v using child_induction generalizing path with
  | up v ih =>
    cases kind : v.isLeaf with
    | true =>
      rw [leavesAt_of_isLeaf kind]
      simp
    | false =>
      rw [leavesAt_of_branch kind]
      exact nodup_childLeaves keyed (fun step c found => ih step c found (keyed.child found)) path

theorem nodup_leaves {v : Value} (keyed : v.Keyed) (isObject : v.isObject = true) :
    (v.leaves.map Prod.fst).Nodup := by
  rw [leaves_of_isObject isObject]
  exact nodup_childLeaves keyed (fun step c found => nodup_leavesAt (keyed.child found)) []

end Scorecard.Value

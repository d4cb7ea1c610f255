import Mathlib.Data.List.Nodup
import Scorecard.Proofs.LeafTexts
import Scorecard.Proofs.RenderedPaths
import Scorecard.Proofs.TreeLeaves

/-!
# A flattened tree as a map

What an object is flattened to is a map from rendered paths to texts (`mem_leafTexts`), ascending by path
and without a path twice. Two such maps are compared path by path: the comparison finds where they disagree
(`partitions_ofLeaves`), and nothing exactly if they have the same members (`ofLeaves_isEmpty_iff`), which makes them
the same list (`leafTexts_eq_iff`).
-/

namespace Scorecard

namespace Value

/-- The text of the leaf that a path leads to. -/
def textAt? (p : Path) (v : Value) : Option String :=
  ((descend? p v).filter isLeaf).map Json.leafText

theorem textAt_eq_some_iff {p : Path} {v : Value} {text : String} :
    textAt? p v = some text ↔ ∃ leaf, v.HasLeaf p leaf ∧ Json.leafText leaf = text := by
  simp [textAt?, HasLeaf, Option.filter_eq_some_iff]

theorem textAt_nil (v : Value) : textAt? [] v = if v.isLeaf then some (Json.leafText v) else none := by
  cases kind : v.isLeaf <;> simp [textAt?, descend?, Option.filter, kind]

theorem textAt_cons (step : PathStep) (rest : Path) (v : Value) :
    textAt? (step :: rest) v = (child? step v).bind (textAt? rest) := by
  unfold textAt?
  rw [descend_cons]
  cases child? step v <;> rfl

/-! ## The list of texts -/

variable {v w : Value}

theorem mem_leafTexts (keyed : v.Keyed) (isObject : v.isObject = true) (x : String × String) :
    x ∈ v.leafTexts ↔ ∃ p : Path, p ≠ [] ∧ x.1 = p.render ∧ textAt? p v = some x.2 := by
  obtain ⟨path, text⟩ := x
  rw [leafTexts, List.mem_mergeSort, List.mem_map]
  constructor
  · rintro ⟨⟨p, leaf⟩, listed, same⟩
    cases same
    obtain ⟨below, here⟩ := (mem_leaves keyed isObject p leaf).mp listed
    exact ⟨p, below, rfl, textAt_eq_some_iff.mpr ⟨leaf, here, rfl⟩⟩
  · rintro ⟨p, below, rfl, found⟩
    obtain ⟨leaf, here, rfl⟩ := textAt_eq_some_iff.mp found
    exact ⟨(p, leaf), (mem_leaves keyed isObject p leaf).mpr ⟨below, here⟩, rfl⟩

/-- Different leaves have different paths, and different paths different texts. -/
theorem nodup_leafTexts (keyed : v.Keyed) (isObject : v.isObject = true) : (v.leafTexts.map Prod.fst).Nodup := by
  have sorted : (v.leafTexts.map Prod.fst).Perm ((v.leaves.map Prod.fst).map Path.render) := by
    rw [leafTexts]
    refine ((List.mergeSort_perm _ _).map Prod.fst).trans ?_
    rw [List.map_map, List.map_map]
    exact .refl _
  refine sorted.nodup_iff.mpr (List.Nodup.map_on ?_ (nodup_leaves keyed isObject))
  have below : ∀ p ∈ v.leaves.map Prod.fst, p ≠ [] := by
    intro p here
    obtain ⟨⟨q, leaf⟩, listed, rfl⟩ := List.mem_map.mp here
    exact ((mem_leaves keyed isObject q leaf).mp listed).1
  intro p one q two same
  exact Path.render_inj (below p one) (below q two) same

theorem ascending_leafTexts (v : Value) : v.leafTexts.Pairwise fun a b => a.1 ≤ b.1 := by
  let le (a b : String × String) : Bool := decide (a.1 ≤ b.1)
  have transitive : ∀ a b c, le a b = true → le b c = true → le a c = true := fun a b c first second =>
    decide_eq_true (String.le_trans (of_decide_eq_true first) (of_decide_eq_true second))
  have total : ∀ a b, (le a b || le b a) = true := fun a b => by simpa [le] using String.le_total a.1 b.1
  have sorted : v.leafTexts.Pairwise fun a b => le a b = true := List.pairwise_mergeSort transitive total _
  exact sorted.imp of_decide_eq_true

/-- Lists of texts with the same members are the same. -/
theorem leafTexts_eq_iff (keyed : v.Keyed) (keyed' : w.Keyed) (isObject : v.isObject = true)
    (isObject' : w.isObject = true) : v.leafTexts = w.leafTexts ↔ ∀ x, x ∈ v.leafTexts ↔ x ∈ w.leafTexts := by
  refine ⟨fun same x => by rw [same], fun same => ?_⟩
  have left := nodup_leafTexts keyed isObject
  have right := nodup_leafTexts keyed' isObject'
  have perm : v.leafTexts.Perm w.leafTexts := (List.perm_ext_iff_of_nodup left.of_map right.of_map).mpr same
  refine perm.eq_of_pairwise ?_ (ascending_leafTexts v) (ascending_leafTexts w)
  intro a b here there below above
  exact List.inj_on_of_nodup_map left here ((same b).mpr there) (String.le_antisymm below above)

end Value

/-! ## Comparing maps -/

theorem leafAt_eq_some_iff {leaves : List (String × String)} (nodup : (leaves.map Prod.fst).Nodup)
    (path text : String) : leafAt path leaves = some text ↔ (path, text) ∈ leaves := by
  unfold leafAt
  rw [Option.map_eq_some_iff]
  constructor
  · rintro ⟨⟨p, t⟩, found, rfl⟩
    have same := List.find?_some found
    rw [beq_iff_eq] at same
    exact same ▸ List.mem_of_find?_eq_some found
  · intro here
    cases found : leaves.find? fun leaf => leaf.1 == path with
    | none => exact absurd (List.find?_eq_none.mp found _ here) (by simp)
    | some leaf =>
      have same := List.find?_some found
      rw [beq_iff_eq] at same
      have equal := List.inj_on_of_nodup_map nodup (List.mem_of_find?_eq_some found) here same
      exact ⟨leaf, rfl, by rw [equal]⟩

namespace PathComparison

/-- All that a comparison reports. -/
def reported (d : PathComparison) : List String := d.onlyInBase ++ d.onlyInHead ++ d.differing

theorem length_reported (d : PathComparison) : d.reported.length = d.size := by
  simp [reported, size, Nat.add_assoc]

/-- A comparison lists the paths at which two maps disagree: those that only the one has, those that only the other has,
    and those under which they have different texts. -/
structure Partitions (d : PathComparison) (base head : String → Option String) : Prop where
  onlyInBase : ∀ path, path ∈ d.onlyInBase ↔ (∃ text, base path = some text) ∧ head path = none
  onlyInHead : ∀ path, path ∈ d.onlyInHead ↔ (∃ text, head path = some text) ∧ base path = none
  differing : ∀ path, path ∈ d.differing ↔
    ∃ text other, base path = some text ∧ head path = some other ∧ text ≠ other

theorem Partitions.mem_reported {d : PathComparison} {base head : String → Option String}
    (parts : d.Partitions base head) (path : String) : path ∈ d.reported ↔ base path ≠ head path := by
  simp only [reported, List.mem_append, parts.onlyInBase, parts.onlyInHead, parts.differing]
  cases base path <;> cases head path <;> simp

/-- The paths of the leaves that a loop over a flattened tree picks. -/
theorem mem_picked {leaves : List (String × String)} (nodup : (leaves.map Prod.fst).Nodup)
    (pick : String × String → Bool) (path : String) : path ∈ (leaves.filter pick).map Prod.fst ↔
      ∃ text, leafAt path leaves = some text ∧ pick (path, text) = true := by
  simp only [leafAt_eq_some_iff nodup]
  simp

section Leaves

variable {base head : List (String × String)} (nodup : (base.map Prod.fst).Nodup)
  (nodup' : (head.map Prod.fst).Nodup)

include nodup nodup'

/-- The loops over two flattened trees find where they disagree. -/
theorem partitions_ofLeaves :
    (ofLeaves base head).Partitions (fun path => leafAt path base) fun path => leafAt path head := by
  refine ⟨fun path => ?_, fun path => ?_, fun path => ?_⟩
  · rw [ofLeaves, mem_picked nodup]
    simp
  · rw [ofLeaves, mem_picked nodup']
    simp
  · rw [ofLeaves, mem_picked nodup]
    refine exists_congr fun text => ?_
    cases leafAt path head <;> simp [ne_comm (a := text)]

/-- Nothing is reported exactly if both maps have the same members. -/
theorem ofLeaves_isEmpty_iff : (ofLeaves base head).isEmpty = true ↔ ∀ x, x ∈ base ↔ x ∈ head := by
  have silent : (ofLeaves base head).isEmpty = true ↔ ∀ path, path ∉ (ofLeaves base head).reported := by
    rw [← List.eq_nil_iff_forall_not_mem]
    simp [isEmpty, reported, and_assoc]
  simp only [silent, (partitions_ofLeaves nodup nodup').mem_reported, not_not]
  constructor
  · rintro same ⟨path, text⟩
    rw [← leafAt_eq_some_iff nodup, ← leafAt_eq_some_iff nodup', same]
  · intro same path
    ext text
    rw [leafAt_eq_some_iff nodup, leafAt_eq_some_iff nodup', same]

end Leaves

end PathComparison
end Scorecard

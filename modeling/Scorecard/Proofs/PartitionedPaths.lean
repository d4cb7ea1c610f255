import Mathlib.Data.Set.Card
import Scorecard.Proofs.LeafMap

/-!
# Where two flattened trees disagree

What a comparison reports are the paths under which the two flattened trees do not have the same text, or do not
both have one (`mem_reported_iff`). Its three lists part them by the sides that have a text, and each of them ascends
strictly, which leaves no choice (`Partitions.unique`). Seen from the other side the lists therefore are the same, with
the first two exchanged (`ofValues_partitions`).
-/

namespace Scorecard

/-! ## Flattened trees as maps -/

namespace Value

/-- The text that a tree is flattened to under a path. -/
def flatText? (v : Value) (path : String) : Option String := leafAt path v.leafTexts

/-- The map of the texts of the leaves below the root, under the rendered paths that lead to them. -/
def FlattensTo (v : Value) (texts : String → Option String) : Prop :=
  ∀ path text, texts path = some text ↔ ∃ p : Path, p ≠ [] ∧ path = p.render ∧ textAt? p v = some text

theorem flattensTo_flatText {v : Value} (keyed : v.Keyed) (isObject : v.isObject = true) :
    v.FlattensTo v.flatText? := by
  intro path text
  rw [flatText?, leafAt_eq_some_iff (nodup_leafTexts keyed isObject), mem_leafTexts keyed isObject]

/-- Paths are told apart by their texts, so the text under a path is that of the leaf that it leads to. -/
theorem flatText_render {v : Value} (keyed : v.Keyed) (isObject : v.isObject = true) {p : Path} (below : p ≠ []) :
    v.flatText? p.render = textAt? p v := by
  ext text
  rw [flattensTo_flatText keyed isObject]
  constructor
  · rintro ⟨q, below', same, here⟩
    rwa [Path.render_inj below below' same]
  · intro here
    exact ⟨p, below, rfl, here⟩

/-- No path stands twice among the texts, so their order is strict. -/
theorem strictlyAscending_leafTexts {v : Value} (keyed : v.Keyed) (isObject : v.isObject = true) :
    v.leafTexts.Pairwise fun a b => a.1 < b.1 := by
  have distinct : v.leafTexts.Pairwise fun a b => a.1 ≠ b.1 := List.pairwise_map.mp (nodup_leafTexts keyed isObject)
  refine (ascending_leafTexts v).imp₂ ?_ distinct
  intro a b before other
  exact Std.lt_of_le_of_ne before other

end Value

namespace PathComparison

/-! ## Comparisons of maps -/

/-- Each list ascends strictly, in the order of code points. -/
structure IsAscending (d : PathComparison) : Prop where
  onlyInBase : d.onlyInBase.Pairwise (· < ·)
  onlyInHead : d.onlyInHead.Pairwise (· < ·)
  differing : d.differing.Pairwise (· < ·)

theorem IsAscending.swap {d : PathComparison} (ascending : d.IsAscending) :
    IsAscending ⟨d.onlyInHead, d.onlyInBase, d.differing⟩ :=
  ⟨ascending.onlyInHead, ascending.onlyInBase, ascending.differing⟩

namespace Partitions

variable {d e : PathComparison} {base head : String → Option String}

theorem swap (parts : d.Partitions base head) :
    Partitions ⟨d.onlyInHead, d.onlyInBase, d.differing⟩ head base := by
  refine ⟨parts.onlyInHead, parts.onlyInBase, fun path => ?_⟩
  rw [parts.differing]
  constructor
  · rintro ⟨text, other, left, right, differ⟩
    exact ⟨other, text, right, left, differ.symm⟩
  · rintro ⟨other, text, right, left, differ⟩
    exact ⟨text, other, left, right, differ.symm⟩

/-- Strictly ascending lists with the same members are the same, so the maps leave one comparison only. -/
theorem unique (one : d.Partitions base head) (two : e.Partitions base head) (ascending : d.IsAscending)
    (ascending' : e.IsAscending) : d = e := by
  have onlyInBase : d.onlyInBase = e.onlyInBase :=
    ascending.onlyInBase.eq_of_mem_iff ascending'.onlyInBase fun path => by rw [one.onlyInBase, two.onlyInBase]
  have onlyInHead : d.onlyInHead = e.onlyInHead :=
    ascending.onlyInHead.eq_of_mem_iff ascending'.onlyInHead fun path => by rw [one.onlyInHead, two.onlyInHead]
  have differing : d.differing = e.differing :=
    ascending.differing.eq_of_mem_iff ascending'.differing fun path => by rw [one.differing, two.differing]
  cases d
  cases e
  simp_all

theorem disjoint (parts : d.Partitions base head) :
    d.onlyInBase.Disjoint d.onlyInHead ∧ d.onlyInBase.Disjoint d.differing ∧ d.onlyInHead.Disjoint d.differing := by
  refine ⟨?_, ?_, ?_⟩ <;> intro path left right <;>
    simp only [parts.onlyInBase, parts.onlyInHead, parts.differing] at left right <;> grind

theorem nodup_reported (parts : d.Partitions base head) (ascending : d.IsAscending) : d.reported.Nodup := by
  obtain ⟨base_head, base_differing, head_differing⟩ := parts.disjoint
  rw [reported, List.nodup_append', List.nodup_append', List.disjoint_append_left]
  exact ⟨⟨ascending.onlyInBase.nodup, ascending.onlyInHead.nodup, base_head⟩, ascending.differing.nodup,
    base_differing, head_differing⟩

/-- As many paths are reported as there are paths at which the maps disagree. -/
theorem encard_eq_size (parts : d.Partitions base head) (ascending : d.IsAscending) :
    {path | base path ≠ head path}.encard = d.size := by
  have listed : {path | base path ≠ head path} = (d.reported.toFinset : Set String) := by
    ext path
    simp [parts.mem_reported]
  rw [listed, Set.encard_coe_eq_coe_finsetCard, List.toFinset_card_of_nodup (parts.nodup_reported ascending),
    length_reported]

end Partitions

/-- Maps that differ in the text under one path only. -/
theorem partitions_single {base head : String → Option String} {path text other : String}
    (left : base path = some text) (right : head path = some other) (differ : text ≠ other)
    (elsewhere : ∀ q, q ≠ path → base q = head q) : Partitions ⟨[], [], [path]⟩ base head := by
  have both : ∀ q, base q = none ↔ head q = none := by
    intro q
    by_cases same : q = path
    · simp [same, left, right]
    · rw [elsewhere q same]
  refine ⟨fun q => ?_, fun q => ?_, fun q => ?_⟩
  · rw [← both]
    cases base q <;> simp
  · rw [both]
    cases head q <;> simp
  · by_cases same : q = path
    · simp [same, left, right, differ]
    · rw [elsewhere q same]
      cases head q <;> simp [same]

/-! ## Comparisons of trees -/

variable {base head : Value}

theorem ofValues_objects (isObject : base.isObject = true) (isObject' : head.isObject = true) :
    ofValues base head = .ok (ofLeaves base.leafTexts head.leafTexts) := by
  simp [ofValues, isObject, isObject']

theorem partitions_leafTexts (keyed : base.Keyed) (keyed' : head.Keyed) (isObject : base.isObject = true)
    (isObject' : head.isObject = true) :
    (ofLeaves base.leafTexts head.leafTexts).Partitions base.flatText? head.flatText? :=
  partitions_ofLeaves (Value.nodup_leafTexts keyed isObject) (Value.nodup_leafTexts keyed' isObject')

theorem ascending_ofLeaves (keyed : base.Keyed) (keyed' : head.Keyed) (isObject : base.isObject = true)
    (isObject' : head.isObject = true) : (ofLeaves base.leafTexts head.leafTexts).IsAscending := by
  have left := Value.strictlyAscending_leafTexts keyed isObject
  have right := Value.strictlyAscending_leafTexts keyed' isObject'
  exact ⟨List.pairwise_map.mpr (left.filter _), List.pairwise_map.mpr (right.filter _),
    List.pairwise_map.mpr (left.filter _)⟩

/-- The paths that are reported lead to different leaves of the two trees, or to a leaf of one of them only. -/
theorem mem_reported_iff (keyed : base.Keyed) (keyed' : head.Keyed) (isObject : base.isObject = true)
    (isObject' : head.isObject = true) (path : String) : path ∈ (ofLeaves base.leafTexts head.leafTexts).reported ↔
      ∃ p : Path, p ≠ [] ∧ path = p.render ∧ Value.textAt? p base ≠ Value.textAt? p head := by
  rw [(partitions_leafTexts keyed keyed' isObject isObject').mem_reported]
  constructor
  · intro differ
    have shown : ∃ p : Path, p ≠ [] ∧ path = p.render := by
      cases left : base.flatText? path with
      | some text =>
        obtain ⟨p, below, same, -⟩ := (Value.flattensTo_flatText keyed isObject path text).mp left
        exact ⟨p, below, same⟩
      | none =>
        obtain ⟨text, right⟩ := Option.ne_none_iff_exists'.mp fun none => differ (left.trans none.symm)
        obtain ⟨p, below, same, -⟩ := (Value.flattensTo_flatText keyed' isObject' path text).mp right
        exact ⟨p, below, same⟩
    obtain ⟨p, below, rfl⟩ := shown
    rw [Value.flatText_render keyed isObject below, Value.flatText_render keyed' isObject' below] at differ
    exact ⟨p, below, rfl, differ⟩
  · rintro ⟨p, below, rfl, differ⟩
    rwa [Value.flatText_render keyed isObject below, Value.flatText_render keyed' isObject' below]

/-- Two objects can always be compared. The comparison parts the paths at which the two disagree as flattened trees,
    reports as many paths as there are such and none twice, and from the other side reports the same with the sides
    exchanged. A tree that is no object is refused, the base first. -/
theorem ofValues_partitions (base head : Value) :
    (base.Keyed → head.Keyed → base.isObject = true → head.isObject = true →
      base.FlattensTo base.flatText? ∧ head.FlattensTo head.flatText? ∧
      ∃ d, ofValues base head = .ok d ∧ d.Partitions base.flatText? head.flatText? ∧ d.IsAscending ∧
        d.onlyInBase.Disjoint d.onlyInHead ∧ d.onlyInBase.Disjoint d.differing ∧ d.onlyInHead.Disjoint d.differing ∧
        {path | base.flatText? path ≠ head.flatText? path}.encard = d.size ∧
        ofValues head base = .ok ⟨d.onlyInHead, d.onlyInBase, d.differing⟩) ∧
    (base.isObject = false →
      ofValues base head = .error (.notComparable "base: top-level value is not an object")) ∧
    (base.isObject = true → head.isObject = false →
      ofValues base head = .error (.notComparable "head: top-level value is not an object")) := by
  refine ⟨fun keyed keyed' isObject isObject' => ?_, fun kind => ?_, fun kind kind' => ?_⟩
  · have parts := partitions_leafTexts keyed keyed' isObject isObject'
    have ascending := ascending_ofLeaves keyed keyed' isObject isObject'
    have swapped := partitions_leafTexts keyed' keyed isObject' isObject
    have ascending' := ascending_ofLeaves keyed' keyed isObject' isObject
    obtain ⟨sides, base_differing, head_differing⟩ := parts.disjoint
    refine ⟨Value.flattensTo_flatText keyed isObject, Value.flattensTo_flatText keyed' isObject', _,
      ofValues_objects isObject isObject', parts, ascending, sides, base_differing, head_differing,
      parts.encard_eq_size ascending, ?_⟩
    rw [ofValues_objects isObject' isObject, swapped.unique parts.swap ascending' ascending.swap]
  · simp only [ofValues, kind]
    rfl
  · simp only [ofValues, kind, kind']
    rfl

/-- A key within a key, a key with a dot, and a key of digits with a list. -/
def filed : Value := .object [("a", .object [("b", .text "x")]), ("a.b", .null), ("7", .list [.bool true])]

/-- The first key has an empty object, the second another scalar, and the list another item. -/
def refiled : Value := .object [("a", .object []), ("a.b", .bool false), ("7", .list [.bool true, .text "y"])]

theorem ofValues_partitions_filed :
    filed.Keyed ∧ refiled.Keyed ∧ filed.isObject = true ∧ refiled.isObject = true ∧
      (∃ d, ofValues filed refiled = .ok d ∧ "a.b" ∈ d.onlyInBase ∧ "a" ∈ d.onlyInHead ∧ "a\\.b" ∈ d.differing ∧
        "\\7.0" ∉ d.reported ∧ ofValues refiled filed = .ok ⟨d.onlyInHead, d.onlyInBase, d.differing⟩) ∧
      ofValues .null .null = .error (.notComparable "base: top-level value is not an object") ∧
      ofValues filed (.list []) = .error (.notComparable "head: top-level value is not an object") := by
  have keyed : filed.Keyed := by simp [filed, Value.Keyed, Value.KeyedEntries, Value.KeyedItems]
  have keyed' : refiled.Keyed := by simp [refiled, Value.Keyed, Value.KeyedEntries, Value.KeyedItems]
  have nested : Path.render [.key "a", .key "b"] = "a.b" := by decide +kernel
  have outer : Path.render [.key "a"] = "a" := by decide +kernel
  have dotted : Path.render [.key "a.b"] = "a\\.b" := by decide +kernel
  have item : Path.render [.key "7", .index 0] = "\\7.0" := by decide +kernel
  obtain ⟨-, -, d, compared, parts, -, -, -, -, -, swapped⟩ :=
    (ofValues_partitions filed refiled).1 keyed keyed' rfl rfl
  refine ⟨keyed, keyed', rfl, rfl, ⟨d, compared, ?_, ?_, ?_, ?_, swapped⟩,
    (ofValues_partitions .null .null).2.1 rfl, (ofValues_partitions filed (.list [])).2.2 rfl rfl⟩
  · rw [parts.onlyInBase, ← nested, Value.flatText_render keyed rfl (by simp),
      Value.flatText_render keyed' rfl (by simp)]
    exact ⟨⟨_, rfl⟩, rfl⟩
  · rw [parts.onlyInHead, ← outer, Value.flatText_render keyed rfl (by simp),
      Value.flatText_render keyed' rfl (by simp)]
    exact ⟨⟨_, rfl⟩, rfl⟩
  · rw [parts.differing, ← dotted, Value.flatText_render keyed rfl (by simp),
      Value.flatText_render keyed' rfl (by simp)]
    exact ⟨"null", "false", rfl, rfl, by decide⟩
  · rw [parts.mem_reported, ← item, Value.flatText_render keyed rfl (by simp),
      Value.flatText_render keyed' rfl (by simp), not_not]
    rfl

end PathComparison
end Scorecard

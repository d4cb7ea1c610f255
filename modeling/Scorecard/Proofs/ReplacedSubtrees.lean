import Scorecard.Proofs.PartitionedPaths

/-!
# Replaced subtrees

Replacing a subtree changes what is found below its place and nothing elsewhere (`textAt_below`, `textAt_elsewhere`).
So a comparison with the tree as it was reports only paths that continue the path to that place, and these are told
from all others by their texts (`ofValues_replaced`).
-/

namespace Scorecard

namespace Value

/-! ## Trees in order -/

theorem orderedItems_iff {items : List Value} : OrderedItems items ↔ ∀ v ∈ items, v.Ordered := by
  induction items with
  | nil => simp [OrderedItems]
  | cons v rest ih => simp [OrderedItems, ih]

theorem orderedEntries_iff {es : List (String × Value)} : OrderedEntries es ↔ ∀ e ∈ es, e.2.Ordered := by
  induction es with
  | nil => simp [OrderedEntries]
  | cons e rest ih =>
    obtain ⟨k, v⟩ := e
    simp [OrderedEntries, ih]

theorem Ordered.child (step : PathStep) {v c : Value} (ordered : v.Ordered) (found : child? step v = some c) :
    c.Ordered := by
  cases step with
  | key name =>
    cases v with
    | object es => exact orderedEntries_iff.mp ordered.2 _ (mem_of_lookup found)
    | _ => cases found
  | index place =>
    cases v with
    | list items => exact orderedItems_iff.mp ordered _ (List.mem_of_getElem? found)
    | _ => cases found

/-- Keys that ascend strictly do not repeat. -/
theorem Ordered.keyed {v : Value} (ordered : v.Ordered) : v.Keyed := by
  induction v using child_induction with
  | up v ih =>
    cases v with
    | list items =>
      refine keyedItems_iff.mpr fun v here => ?_
      obtain ⟨i, found⟩ := List.mem_iff_getElem?.mp here
      exact ih (.index i) v found (ordered.child (.index i) found)
    | object es =>
      have distinct : (es.map Prod.fst).Nodup := (List.pairwise_map.mpr ordered.1).nodup
      refine ⟨distinct, keyedEntries_iff.mpr fun e here => ?_⟩
      have found := (lookup_eq_some_iff distinct e.1 e.2).mpr here
      exact ih (.key e.1) e.2 found (ordered.child (.key e.1) found)
    | _ => trivial

theorem mem_put {key : String} {v : Value} {es : List (String × Value)} {e : String × Value}
    (here : e ∈ put key v es) : e = (key, v) ∨ e ∈ es := by
  induction es with
  | nil => simpa [put] using here
  | cons first rest ih =>
    obtain ⟨k, w⟩ := first
    rw [put] at here
    split at here
    · simpa using here
    · split at here
      · grind
      · grind

/-- An entry comes between the smaller and the greater keys. -/
theorem pairwise_put (key : String) (v : Value) {es : List (String × Value)}
    (ascending : es.Pairwise fun a b => a.1 < b.1) : (put key v es).Pairwise fun a b => a.1 < b.1 := by
  induction es with
  | nil => simp [put]
  | cons first rest ih =>
    obtain ⟨k, w⟩ := first
    obtain ⟨least, later⟩ := List.pairwise_cons.mp ascending
    rw [put]
    split
    case isTrue before =>
      refine List.pairwise_cons.mpr ⟨fun e here => ?_, ascending⟩
      rcases List.mem_cons.mp here with rfl | here
      · exact before
      · exact String.lt_trans before (least e here)
    case isFalse notBefore =>
      split
      case isTrue same => exact List.pairwise_cons.mpr ⟨same ▸ least, later⟩
      case isFalse other =>
        refine List.pairwise_cons.mpr ⟨fun e here => ?_, ih later⟩
        rcases mem_put here with rfl | here
        · exact Std.lt_of_le_of_ne (String.not_lt.mp notBefore) (Ne.symm other)
        · exact least e here

theorem Ordered.replaceAt {new : Value} (replacement : new.Ordered) (location : Path) {v : Value}
    (ordered : v.Ordered) : (replaceAt location new v).Ordered := by
  induction location generalizing v with
  | nil => exact replacement
  | cons step rest ih =>
    cases step with
    | key name =>
      cases v with
      | object es =>
        rw [Value.replaceAt]
        split
        · next c found =>
          refine ⟨pairwise_put _ _ ordered.1, orderedEntries_iff.mpr fun e here => ?_⟩
          rcases mem_put here with rfl | here
          · exact ih (ordered.child (.key name) found)
          · exact orderedEntries_iff.mp ordered.2 e here
        · exact ordered
      | _ => exact ordered
    | index place =>
      cases v with
      | list items =>
        rw [Value.replaceAt]
        split
        · next c found =>
          refine orderedItems_iff.mpr fun w here => ?_
          rcases List.mem_or_eq_of_mem_set here with here | rfl
          · exact orderedItems_iff.mp ordered w here
          · exact ih (ordered.child (.index place) found)
        · exact ordered
      | _ => exact ordered

/-! ## What a replacement changes -/

theorem replaceAt_of_none {step : PathStep} {v : Value} (nowhere : child? step v = none) (rest : Path) (new : Value) :
    replaceAt (step :: rest) new v = v := by
  cases step with
  | key name =>
    cases v with
    | object es =>
      have missing : lookup name es = none := nowhere
      simp [replaceAt, missing]
    | _ => rfl
  | index place =>
    cases v with
    | list items =>
      have missing : items[place]? = none := nowhere
      simp only [replaceAt, missing]
    | _ => rfl

/-- One step below the root a replacement goes on in one child and leaves the others as they are. -/
theorem child_replaceAt (s step : PathStep) (rest : Path) (new v : Value) :
    child? s (replaceAt (step :: rest) new v) =
      if s = step then (child? step v).map (replaceAt rest new) else child? s v := by
  cases found : child? step v with
  | none =>
    rw [replaceAt_of_none found]
    by_cases same : s = step <;> simp [same, found]
  | some c =>
    cases step with
    | key name =>
      cases v with
      | object es =>
        have there : lookup name es = some c := found
        rw [replaceAt, there]
        cases s with
        | key k => by_cases same : name = k <;> simp [child?, lookup_put, same, eq_comm (a := k)]
        | index i => simp [child?]
      | _ => cases found
    | index place =>
      cases v with
      | list items =>
        have there : items[place]? = some c := found
        have inside := (List.getElem?_eq_some_iff.mp there).1
        rw [replaceAt, there]
        cases s with
        | key k => simp [child?]
        | index i => by_cases same : i = place <;> simp [child?, same, inside, eq_comm (a := place)]
      | _ => cases found

theorem isObject_replaceAt {location : Path} (below : location ≠ []) (new v : Value) :
    (replaceAt location new v).isObject = v.isObject := by
  obtain ⟨step, rest, rfl⟩ := List.exists_cons_of_ne_nil below
  cases step <;> cases v <;> simp only [replaceAt] <;> split <;> rfl

theorem descend_replaceAt {location : Path} {base old : Value} (found : descend? location base = some old)
    (new : Value) : descend? location (replaceAt location new base) = some new := by
  induction location generalizing base with
  | nil => rfl
  | cons step rest ih =>
    rw [descend_cons] at found ⊢
    obtain ⟨c, here, below⟩ := Option.bind_eq_some_iff.mp found
    rw [child_replaceAt, if_pos rfl, here, Option.map_some, Option.bind_some]
    exact ih below

theorem textAt_append (p q : Path) (v : Value) : textAt? (p ++ q) v = (descend? p v).bind (textAt? q) := by
  induction p generalizing v with
  | nil => rfl
  | cons step rest ih =>
    rw [List.cons_append, textAt_cons, descend_cons, Option.bind_assoc]
    exact Option.bind_congr fun c _ => ih c

theorem textAt_below {location : Path} {base old : Value} (found : descend? location base = some old) (new : Value)
    (q : Path) : textAt? (location ++ q) (replaceAt location new base) = textAt? q new := by
  rw [textAt_append, descend_replaceAt found, Option.bind_some]

theorem isLeaf_of_child {step : PathStep} {v c : Value} (found : child? step v = some c) : v.isLeaf = false := by
  refine Bool.eq_false_iff.mpr fun isLeaf => ?_
  cases (child_of_isLeaf isLeaf step).symm.trans found

/-- A path that does not continue the path to the place leads to the same leaf as before. The trees above the place
    branch before and after, and so show nothing themselves. -/
theorem textAt_elsewhere {location p : Path} {base old : Value} (found : descend? location base = some old)
    (new : Value) (elsewhere : ¬ location <+: p) : textAt? p (replaceAt location new base) = textAt? p base := by
  induction location generalizing base p with
  | nil => exact absurd List.nil_prefix elsewhere
  | cons step rest ih =>
    obtain ⟨c, here, below⟩ := Option.bind_eq_some_iff.mp (descend_cons step rest base ▸ found)
    cases p with
    | nil =>
      have there : child? step (replaceAt (step :: rest) new base) = some (replaceAt rest new c) := by
        rw [child_replaceAt, if_pos rfl, here, Option.map_some]
      rw [textAt_nil, textAt_nil, isLeaf_of_child here, isLeaf_of_child there]
      rfl
    | cons s q =>
      rw [textAt_cons, textAt_cons, child_replaceAt]
      by_cases same : s = step
      · subst same
        have further : ¬ rest <+: q := fun continued => elsewhere ((List.prefix_cons_inj s).mpr continued)
        rw [if_pos rfl, here, Option.map_some, Option.bind_some, Option.bind_some]
        exact ih below further
      · rw [if_neg same]

/-- A leaf shows at its own place and nowhere below it. -/
theorem textAt_of_isLeaf {v : Value} (isLeaf : v.isLeaf = true) (q : Path) :
    textAt? q v = if q = [] then some (Json.leafText v) else none := by
  cases q with
  | nil => rw [textAt_nil, if_pos isLeaf, if_pos rfl]
  | cons s q => rw [textAt_cons, child_of_isLeaf isLeaf, if_neg (by simp)]; rfl

end Value

namespace PathComparison

open Value

/-! ## What the comparison with the tree as it was reports -/

section Replaced

variable {base old new : Value} {location : Path} (ordered : base.Ordered) (ordered' : new.Ordered)
  (isObject : base.isObject = true) (below : location ≠ []) (found : descend? location base = some old)

include ordered ordered' isObject below found

/-- A path that is reported continues the path to the place, by a path to what differs in the two subtrees. -/
theorem exists_of_reported {path : String}
    (reported : path ∈ (ofLeaves base.leafTexts (replaceAt location new base).leafTexts).reported) :
    ∃ q, path = Path.render (location ++ q) ∧ textAt? q old ≠ textAt? q new := by
  have isObject' := (isObject_replaceAt below new base).trans isObject
  obtain ⟨p, -, rfl, differ⟩ :=
    (mem_reported_iff ordered.keyed (ordered'.replaceAt location ordered).keyed isObject isObject' path).mp reported
  by_cases continues : location <+: p
  · obtain ⟨q, rfl⟩ := continues
    rw [textAt_append, textAt_below found, found] at differ
    exact ⟨q, rfl, differ⟩
  · exact absurd (textAt_elsewhere found new continues).symm differ

theorem ofLeaves_replaced_leaf (leaf : old.isLeaf = true) (leaf' : new.isLeaf = true)
    (differ : Json.leafText old ≠ Json.leafText new) :
    ofLeaves base.leafTexts (replaceAt location new base).leafTexts = ⟨[], [], [location.render]⟩ := by
  have isObject' := (isObject_replaceAt below new base).trans isObject
  have keyed' := (ordered'.replaceAt location ordered).keyed
  have parts := partitions_leafTexts ordered.keyed keyed' isObject isObject'
  have ascending := ascending_ofLeaves ordered.keyed keyed' isObject isObject'
  have before := textAt_append location [] base
  rw [List.append_nil, found, Option.bind_some, textAt_of_isLeaf leaf, if_pos rfl,
    ← flatText_render ordered.keyed isObject below] at before
  have after := textAt_below found new []
  rw [List.append_nil, textAt_of_isLeaf leaf', if_pos rfl,
    ← flatText_render keyed' isObject' below] at after
  refine parts.unique (partitions_single before after differ fun path other => ?_) ascending (by constructor <;> simp)
  by_contra differs
  have reported := (parts.mem_reported path).mpr differs
  obtain ⟨q, rfl, apart⟩ := exists_of_reported ordered ordered' isObject below found reported
  rw [textAt_of_isLeaf leaf, textAt_of_isLeaf leaf'] at apart
  by_cases root : q = []
  · simp [root] at other
  · simp [root] at apart

end Replaced

/-- A tree in order is compared with itself after the subtree at a place below the root was replaced. What is
    reported is the path to the place or continues it behind a dot. A path that leads elsewhere is not reported, and
    its text does not look like that of one that could be. A leaf in place of another one with another text is a
    single difference. -/
theorem ofValues_replaced {base old new : Value} {location : Path} (ordered : base.Ordered) (ordered' : new.Ordered)
    (isObject : base.isObject = true) (below : location ≠ []) (found : descend? location base = some old) :
    ∃ d, ofValues base (replaceAt location new base) = .ok d ∧
      (∀ path ∈ d.reported, path = location.render ∨ ∃ rest, path = location.render ++ "." ++ rest) ∧
      (∀ p : Path, p ≠ [] → ¬ location <+: p → p.render ∉ d.reported ∧ p.render ≠ location.render ∧
        ∀ rest, p.render ≠ location.render ++ "." ++ rest) ∧
      (old.isLeaf = true → new.isLeaf = true → Json.leafText old ≠ Json.leafText new →
        d = ⟨[], [], [location.render]⟩) := by
  refine ⟨_, ofValues_objects isObject ((isObject_replaceAt below new base).trans isObject), fun path reported => ?_,
    fun p under elsewhere => ?_, ofLeaves_replaced_leaf ordered ordered' isObject below found⟩
  · obtain ⟨q, rfl, -⟩ := exists_of_reported ordered ordered' isObject below found reported
    exact (Path.encloses_render_iff below (by simp [below])).mpr (List.prefix_append location q)
  · have outside : ¬ location.Encloses p.render := fun enclosed =>
      elsewhere ((Path.encloses_render_iff below under).mp enclosed)
    obtain ⟨other, further⟩ := not_or.mp outside
    refine ⟨fun reported => ?_, other, fun rest same => further ⟨rest, same⟩⟩
    obtain ⟨q, same, -⟩ := exists_of_reported ordered ordered' isObject below found reported
    exact elsewhere (Path.render_inj under (by simp [below]) same ▸ List.prefix_append location q)

/-- Keys that look like parts of the path to an item. -/
def nearMisses : Value :=
  .object [("", .list [.text "x"]),
    ("a", .object [("", .list [.null, .text "x"]), (".", .null), ("1", .null)]),
    ("a.", .object [("1", .text "x")]),
    ("a..1", .text "x")]

/-- The place of the item. -/
def missed : Path := [.key "a", .key "", .index 1]

/-- The item is replaced by another text, and by an object. -/
theorem ofValues_replaced_nearMisses :
    nearMisses.Ordered ∧ (Value.text "y").Ordered ∧ (Value.object [("y", .null)]).Ordered ∧
      descend? missed nearMisses = some (.text "x") ∧ missed.render = "a..1" ∧
      ofValues nearMisses (replaceAt missed (.text "y") nearMisses) = .ok ⟨[], [], ["a..1"]⟩ ∧
      ∃ d, ofValues nearMisses (replaceAt missed (.object [("y", .null)]) nearMisses) = .ok d ∧
        (∀ path ∈ d.reported, path = "a..1" ∨ ∃ rest, path = "a..1" ++ "." ++ rest) ∧
        Path.render [.key "a..1"] ∉ d.reported := by
  have rendered : missed.render = "a..1" := by decide +kernel
  have ordered : nearMisses.Ordered := by
    simp only [nearMisses, Value.Ordered, Value.OrderedEntries, Value.OrderedItems, and_true]
    decide
  have below : missed ≠ [] := by decide
  have found : descend? missed nearMisses = some (.text "x") := rfl
  have text : (Value.text "y").Ordered := trivial
  have object : (Value.object [("y", .null)]).Ordered := by simp [Value.Ordered, Value.OrderedEntries]
  obtain ⟨d, compared, -, -, single⟩ := ofValues_replaced ordered text rfl below found
  obtain ⟨e, compared', inside, outside, -⟩ := ofValues_replaced ordered object rfl below found
  rw [single rfl rfl (by decide), rendered] at compared
  rw [rendered] at inside
  exact ⟨ordered, text, object, found, rendered, compared, e, compared', inside, (outside _ (by decide) (by decide)).1⟩

end PathComparison
end Scorecard

import Scorecard.Path

/-!
# Trees that are the same

Two trees are alike if they have the same scalars at the same places, the order of keys aside
(`Value.Alike`). Numbers are alike if they are of one kind and are written alike, so `1` and `1.0` differ,
and so do the two zeros. An object is taken to have each key once (`Value.Keyed`). What holds of a tree if
it holds of its children holds of every tree (`child_induction`).
-/

namespace Scorecard

/-- Numbers of one kind that are written alike. -/
def Number.Alike : Number → Number → Prop
  | .integer i _, .integer j _ => i = j
  | .double x _, .double y _ => x.toText = y.toText
  | .integer _ _, .double _ _ => False
  | .double _ _, .integer _ _ => False

namespace Value

/-- The same tree: lists item by item, objects key by key whatever the order of their keys. -/
inductive Alike : Value → Value → Prop where
  | null : Alike .null .null
  | bool (b : Bool) : Alike (.bool b) (.bool b)
  | number {m n : Number} : m.Alike n → Alike (.number m) (.number n)
  | text (s : String) : Alike (.text s) (.text s)
  | list {xs ys : List Value} : xs.length = ys.length →
    (∀ (i : Nat) (v w : Value), xs[i]? = some v → ys[i]? = some w → Alike v w) → Alike (.list xs) (.list ys)
  | object {es fs : List (String × Value)} : (∀ k, (lookup k es).isSome = (lookup k fs).isSome) →
    (∀ (k : String) (v w : Value), lookup k es = some v → lookup k fs = some w → Alike v w) →
    Alike (.object es) (.object fs)

mutual

/-- No object of the tree has a key twice. -/
def Keyed : Value → Prop
  | .list items => KeyedItems items
  | .object entries => (entries.map Prod.fst).Nodup ∧ KeyedEntries entries
  | _ => True

def KeyedItems : List Value → Prop
  | [] => True
  | v :: rest => Keyed v ∧ KeyedItems rest

def KeyedEntries : List (String × Value) → Prop
  | [] => True
  | (_, v) :: rest => Keyed v ∧ KeyedEntries rest

end

/-- A tree that is flattened no further: a scalar, or an empty list or object. -/
def isLeaf : Value → Bool
  | .list (_ :: _) => false
  | .object (_ :: _) => false
  | _ => true

theorem isLeaf_list {items : List Value} : (list items).isLeaf = true ↔ items = [] := by
  cases items <;> simp [isLeaf]

theorem isLeaf_object {es : List (String × Value)} : (object es).isLeaf = true ↔ es = [] := by
  cases es <;> simp [isLeaf]

/-! ## Children -/

theorem mem_of_lookup {key : String} {es : List (String × Value)} {v : Value} (found : lookup key es = some v) :
    (key, v) ∈ es := by
  induction es with
  | nil => cases found
  | cons e rest ih =>
    obtain ⟨k, w⟩ := e
    rw [lookup] at found
    split at found
    · next same =>
      cases found
      exact same ▸ List.mem_cons_self
    · exact List.mem_cons_of_mem _ (ih found)

/-- Where no key stands twice every entry is found under its key. -/
theorem lookup_eq_some_iff {es : List (String × Value)} (nodup : (es.map Prod.fst).Nodup) (key : String)
    (v : Value) : lookup key es = some v ↔ (key, v) ∈ es := by
  refine ⟨mem_of_lookup, ?_⟩
  induction es with
  | nil => intro here; cases here
  | cons e rest ih =>
    obtain ⟨k, w⟩ := e
    rw [List.map_cons, List.nodup_cons] at nodup
    intro here
    rw [lookup]
    rcases List.mem_cons.mp here with same | later
    · cases same
      exact if_pos rfl
    · have other : k ≠ key := by
        rintro rfl
        exact nodup.1 (List.mem_map.mpr ⟨_, later, rfl⟩)
      rw [if_neg other]
      exact ih nodup.2 later

/-- What is entered under a key is found there, and under other keys what was there before. -/
theorem lookup_put (key k : String) (v : Value) (es : List (String × Value)) :
    lookup key (put k v es) = if k = key then some v else lookup key es := by
  induction es with
  | nil => rfl
  | cons e rest ih =>
    obtain ⟨l, w⟩ := e
    rw [put]
    -- The entry goes in front of a greater key, in place of its own, or further back.
    split
    · rfl
    · split
      · next same =>
        subst same
        simp only [lookup]
        split <;> rfl
      · next other =>
        rw [lookup, ih, lookup]
        by_cases here : l = key
        · have elsewhere : k ≠ key := fun same => other (same.trans here.symm)
          rw [if_pos here, if_neg elsewhere, if_pos here]
        · rw [if_neg here, if_neg here]

theorem sizeOf_child {step : PathStep} {v c : Value} (found : child? step v = some c) : sizeOf c < sizeOf v := by
  cases step with
  | key name =>
    cases v with
    | object es =>
      have smaller := List.sizeOf_lt_of_mem (mem_of_lookup found)
      simp only [Prod.mk.sizeOf_spec] at smaller
      simp only [object.sizeOf_spec]
      omega
    | _ => cases found
  | index place =>
    cases v with
    | list items =>
      have smaller := List.sizeOf_lt_of_mem (List.mem_of_getElem? found)
      simp only [list.sizeOf_spec]
      omega
    | _ => cases found

/-- What holds of a tree as soon as it holds of its children holds of every tree. -/
theorem child_induction {holds : Value → Prop}
    (up : ∀ v, (∀ step c, child? step v = some c → holds c) → holds v) (v : Value) : holds v :=
  up v fun _ c found =>
    have := sizeOf_child found
    child_induction up c
termination_by v

theorem keyedItems_iff {items : List Value} : KeyedItems items ↔ ∀ v ∈ items, v.Keyed := by
  induction items with
  | nil => simp [KeyedItems]
  | cons v rest ih => simp [KeyedItems, ih]

theorem keyedEntries_iff {es : List (String × Value)} : KeyedEntries es ↔ ∀ e ∈ es, e.2.Keyed := by
  induction es with
  | nil => simp [KeyedEntries]
  | cons e rest ih =>
    obtain ⟨k, v⟩ := e
    simp [KeyedEntries, ih]

theorem Keyed.child {step : PathStep} {v c : Value} (keyed : v.Keyed) (found : child? step v = some c) :
    c.Keyed := by
  cases step with
  | key name =>
    cases v with
    | object es => exact keyedEntries_iff.mp keyed.2 _ (mem_of_lookup found)
    | _ => cases found
  | index place =>
    cases v with
    | list items => exact keyedItems_iff.mp keyed _ (List.mem_of_getElem? found)
    | _ => cases found

end Value
end Scorecard

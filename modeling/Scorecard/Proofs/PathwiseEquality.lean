import Scorecard.Proofs.LeafMap

/-!
# A pathwise comparison finds every difference

Trees that are the same have the same text at every path (`textAt_eq_of_alike`), and the texts below a
tree tell the tree, step by step down to the leaves (`alike_of_textAt_eq`). Since below the root each path
has a text of its own, the pathwise comparison of two objects finds nothing exactly if they are the
same tree (`ofValues_isEmpty_iff_alike`).
-/

namespace Scorecard

namespace Value

/-! ## From trees to texts -/

theorem Alike.isLeaf_eq {v w : Value} (alike : v.Alike w) : v.isLeaf = w.isLeaf := by
  cases alike with
  | null | bool | number | text => rfl
  | list lengths =>
    rw [Bool.eq_iff_iff, isLeaf_list, isLeaf_list, ← List.length_eq_zero_iff, ← List.length_eq_zero_iff, lengths]
  | @object es fs keys =>
    have empty (es : List (String × Value)) : es = [] ↔ ∀ k, (lookup k es).isSome = false := by
      constructor
      · rintro rfl k
        rfl
      · intro none
        cases es with
        | nil => rfl
        | cons e rest => simpa [lookup] using none e.1
    rw [Bool.eq_iff_iff, isLeaf_object, isLeaf_object, empty, empty]
    exact forall_congr' fun k => by rw [keys k]

/-- What two options have in common if both are there or neither is, and equal ones go to one result. -/
theorem bind_eq_of_related {α β : Type} {one two : Option α} {f : α → Option β}
    (both : one.isSome = two.isSome) (related : ∀ a b, one = some a → two = some b → f a = f b) :
    one.bind f = two.bind f := by
  cases one with
  | none =>
    cases two with
    | none => rfl
    | some b => cases both
  | some a =>
    cases two with
    | none => cases both
    | some b => exact related a b rfl rfl

theorem isSome_item (items : List Value) (i : Nat) :
    (child? (.index i) (list items)).isSome = decide (i < items.length) := by
  show items[i]?.isSome = _
  by_cases inside : i < items.length <;> simp [inside]

/-- The same trees have the same texts at the same paths. The induction is on how they are the same, for
    all paths at once. -/
theorem textAt_eq_of_alike {v w : Value} (alike : v.Alike w) (p : Path) : textAt? p v = textAt? p w := by
  induction alike generalizing p with
  | null | bool | text => rfl
  | number same =>
    cases p with
    | nil =>
      have texts := (Number.toText_eq_iff _ _).mpr same
      exact congrArg some texts
    | cons step rest => cases step <;> rfl
  | @list xs ys lengths items ih =>
    cases p with
    | nil =>
      rw [textAt_nil, textAt_nil, (Alike.list lengths items).isLeaf_eq]
      rfl
    | cons step rest =>
      rw [textAt_cons, textAt_cons]
      cases step with
      | key name => rfl
      | index i =>
        refine bind_eq_of_related ?_ fun a b here there => ih i a b here there rest
        rw [isSome_item, isSome_item, lengths]
  | @object es fs keys entries ih =>
    cases p with
    | nil =>
      rw [textAt_nil, textAt_nil, (Alike.object keys entries).isLeaf_eq]
      rfl
    | cons step rest =>
      rw [textAt_cons, textAt_cons]
      cases step with
      | key name => exact bind_eq_of_related (keys name) fun a b here there => ih name a b here there rest
      | index i => rfl

/-! ## From texts to trees -/

variable {v w : Value}

theorem exists_textAt (v : Value) : ∃ p text, textAt? p v = some text := by
  obtain ⟨p, leaf, here⟩ := exists_leaf v
  exact ⟨p, Json.leafText leaf, textAt_eq_some_iff.mpr ⟨leaf, here, rfl⟩⟩

theorem child_of_textAt (same : ∀ p, p ≠ [] → textAt? p v = textAt? p w) {step : PathStep} {c : Value}
    (found : child? step v = some c) : (child? step w).isSome = true := by
  obtain ⟨p, text, here⟩ := exists_textAt c
  have below := same (step :: p) (List.cons_ne_nil _ _)
  rw [textAt_cons, textAt_cons, found, Option.bind_some, here] at below
  obtain ⟨d, there, -⟩ := Option.bind_eq_some_iff.mp below.symm
  rw [there]
  rfl

/-- With the same texts below, two trees have children under the same steps. -/
theorem isSome_child_of_textAt (same : ∀ p, p ≠ [] → textAt? p v = textAt? p w) (step : PathStep) :
    (child? step v).isSome = (child? step w).isSome := by
  rw [Bool.eq_iff_iff]
  constructor
  · intro here
    obtain ⟨c, found⟩ := Option.isSome_iff_exists.mp here
    exact child_of_textAt same found
  · intro there
    obtain ⟨c, found⟩ := Option.isSome_iff_exists.mp there
    exact child_of_textAt (fun p below => (same p below).symm) found

theorem textAt_child_eq (same : ∀ p, p ≠ [] → textAt? p v = textAt? p w) {step : PathStep} {c d : Value}
    (left : child? step v = some c) (right : child? step w = some d) (p : Path) : textAt? p c = textAt? p d := by
  have below := same (step :: p) (List.cons_ne_nil _ _)
  rwa [textAt_cons, textAt_cons, left, right] at below

/-- Objects are told by the texts below them, once their children are told by theirs. -/
theorem object_alike {es fs : List (String × Value)}
    (same : ∀ p, p ≠ [] → textAt? p (object es) = textAt? p (object fs))
    (children : ∀ step c d, child? step (object es) = some c → (∀ p, textAt? p c = textAt? p d) → c.Alike d) :
    (object es).Alike (object fs) := by
  refine .object (fun k => isSome_child_of_textAt same (.key k)) ?_
  intro k c d here there
  have here' : child? (.key k) (object es) = some c := here
  exact children (.key k) c d here' (textAt_child_eq same here' there)

theorem list_alike {xs ys : List Value} (same : ∀ p, p ≠ [] → textAt? p (list xs) = textAt? p (list ys))
    (children : ∀ step c d, child? step (list xs) = some c → (∀ p, textAt? p c = textAt? p d) → c.Alike d) :
    (list xs).Alike (list ys) := by
  refine .list ?_ ?_
  · have places : ∀ i, i < xs.length ↔ i < ys.length := by
      intro i
      have both := isSome_child_of_textAt same (.index i)
      rw [isSome_item, isSome_item] at both
      exact decide_eq_decide.mp both
    have below := places xs.length
    have above := places ys.length
    omega
  · intro i c d here there
    have here' : child? (.index i) (list xs) = some c := here
    exact children (.index i) c d here' (textAt_child_eq same here' there)

/-- Trees with the same text at every path are the same. A leaf shows at its own place, and a tree that
    branches shows by its children whether it is a list or an object. -/
theorem alike_of_textAt_eq (same : ∀ p, textAt? p v = textAt? p w) : v.Alike w := by
  induction v using child_induction generalizing w with
  | up v ih =>
    have root := same []
    rw [textAt_nil, textAt_nil] at root
    cases kind : v.isLeaf with
    | true =>
      cases kind' : w.isLeaf with
      | true =>
        simp only [kind, kind', if_true, Option.some.injEq] at root
        exact (Json.leafText_eq_iff kind kind').mp root
      | false => simp [kind, kind'] at root
    | false =>
      have kind' : w.isLeaf = false := by
        cases kind' : w.isLeaf with
        | true => simp [kind, kind'] at root
        | false => rfl
      have below : ∀ p, p ≠ [] → textAt? p v = textAt? p w := fun p _ => same p
      -- A list has children under indices only, an object under keys only, so one child shows the kind of both.
      obtain ⟨step, c, found⟩ := exists_child kind
      obtain ⟨d, there⟩ := Option.isSome_iff_exists.mp (child_of_textAt below found)
      have children : ∀ step c d, child? step v = some c → (∀ p, textAt? p c = textAt? p d) → c.Alike d :=
        fun step c d found texts => ih step c found texts
      cases v with
      | list xs =>
        cases w with
        | list ys => exact list_alike below children
        | object =>
          cases step with
          | key => cases found
          | index => cases there
        | _ => cases kind'
      | object es =>
        cases w with
        | object fs => exact object_alike below children
        | list =>
          cases step with
          | key => cases there
          | index => cases found
        | _ => cases kind'
      | _ => cases kind

/-- Two objects have the same texts below them exactly if they are the same tree. -/
theorem object_alike_iff (isObject : v.isObject = true) (isObject' : w.isObject = true) :
    v.Alike w ↔ ∀ p, p ≠ [] → textAt? p v = textAt? p w := by
  constructor
  · intro alike p _
    exact textAt_eq_of_alike alike p
  · intro same
    cases v with
    | object es =>
      cases w with
      | object fs => exact object_alike same fun _ _ _ _ texts => alike_of_textAt_eq texts
      | _ => cases isObject'
    | _ => cases isObject

/-- The lists of texts have the same members exactly if the objects are the same tree. This is where the
    paths have to be told apart by their texts. -/
theorem mem_leafTexts_iff_alike (keyed : v.Keyed) (keyed' : w.Keyed) (isObject : v.isObject = true)
    (isObject' : w.isObject = true) : (∀ x, x ∈ v.leafTexts ↔ x ∈ w.leafTexts) ↔ v.Alike w := by
  rw [object_alike_iff isObject isObject']
  constructor
  · intro same p below
    have texts : ∀ text, textAt? p v = some text ↔ textAt? p w = some text := by
      intro text
      have member := same (Path.render p, text)
      rw [mem_leafTexts keyed isObject, mem_leafTexts keyed' isObject'] at member
      constructor
      · intro here
        obtain ⟨q, under, equal, there⟩ := member.mp ⟨p, below, rfl, here⟩
        rwa [Path.render_inj below under equal]
      · intro there
        obtain ⟨q, under, equal, here⟩ := member.mpr ⟨p, below, rfl, there⟩
        rwa [Path.render_inj below under equal]
    exact Option.ext texts
  · intro same x
    rw [mem_leafTexts keyed isObject, mem_leafTexts keyed' isObject']
    refine exists_congr fun p => and_congr_right fun below => ?_
    rw [same p below]

end Value

namespace PathComparison

/-- Two objects can always be compared. Nothing is reported exactly if they are the same tree, and no two
    different trees are flattened to the same texts. -/
theorem ofValues_isEmpty_iff_alike {base head : Value} (keyed : base.Keyed) (keyed' : head.Keyed)
    (isObject : base.isObject = true) (isObject' : head.isObject = true) :
    ∃ d, ofValues base head = .ok d ∧ (d.isEmpty = true ↔ base.Alike head) ∧
      (base.leafTexts = head.leafTexts ↔ base.Alike head) := by
  refine ⟨ofLeaves base.leafTexts head.leafTexts, by simp [ofValues, isObject, isObject'], ?_, ?_⟩
  · rw [ofLeaves_isEmpty_iff (Value.nodup_leafTexts keyed isObject) (Value.nodup_leafTexts keyed' isObject')]
    exact Value.mem_leafTexts_iff_alike keyed keyed' isObject isObject'
  · rw [Value.leafTexts_eq_iff keyed keyed' isObject isObject']
    exact Value.mem_leafTexts_iff_alike keyed keyed' isObject isObject'

/-- An integer as a number of a tree. -/
def one : Number := .integer 1 (by decide)

/-- A key with a dot and a key of digits with an empty list. -/
def dotted : Value := .object [("a.b", .number one), ("7", .list [])]

/-- The same with the keys in another order. -/
def reordered : Value := .object [("7", .list []), ("a.b", .number one)]

/-- A key within a key in place of the dotted one. -/
def nested : Value := .object [("a", .object [("b", .number one)]), ("7", .list [])]

/-- The other order is the same tree, the nested keys are not. -/
theorem ofValues_isEmpty_iff_alike_dotted :
    (∃ d, ofValues dotted reordered = .ok d ∧ d.isEmpty = true ∧ dotted.Alike reordered) ∧
      ∃ d, ofValues dotted nested = .ok d ∧ d.isEmpty = false ∧ ¬ dotted.Alike nested := by
  have keyed : dotted.Keyed := by
    simp [dotted, Value.Keyed, Value.KeyedEntries, Value.KeyedItems]
  have keyed' : reordered.Keyed := by
    simp [reordered, Value.Keyed, Value.KeyedEntries, Value.KeyedItems]
  have keyed'' : nested.Keyed := by
    simp [nested, Value.Keyed, Value.KeyedEntries, Value.KeyedItems]
  have alike : dotted.Alike reordered := by
    refine .object (fun k => ?_) (fun k v w here there => ?_)
    · by_cases first : "a.b" = k <;> by_cases second : "7" = k <;> simp [Value.lookup, first, second]
    · by_cases first : "a.b" = k
      · subst first
        cases here
        cases there
        exact .number rfl
      · by_cases second : "7" = k
        · subst second
          cases here
          cases there
          exact .list rfl (by simp)
        · simp [Value.lookup, first, second] at here
  have different : ¬ dotted.Alike nested := by
    intro alike
    cases alike with
    | object keys => exact absurd (keys "a.b") (by decide)
  obtain ⟨d, compared, silent, -⟩ := ofValues_isEmpty_iff_alike keyed keyed' rfl rfl
  obtain ⟨e, compared', silent', -⟩ := ofValues_isEmpty_iff_alike keyed keyed'' rfl rfl
  exact ⟨⟨d, compared, silent.mpr alike, alike⟩,
    ⟨e, compared', Bool.eq_false_iff.mpr fun empty => different (silent'.mp empty), different⟩⟩

end PathComparison
end Scorecard

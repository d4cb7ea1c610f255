import Scorecard.Comparison
import Scorecard.Json.Writer
import Scorecard.Path

/-!
# Comparing trees path by path

A tree is flattened into the texts of its leaves under their paths, an empty list or object being a
leaf too. Two objects are compared as the maps that they flatten to; nothing here knows of versions
or ids, so a reordered list shows as differing indices.
-/

namespace Scorecard

namespace Value

mutual

/-- The leaves below a place that `path` leads to, with their paths. -/
def leavesAt (path : Path) : Value → List (Path × Value)
  | .list (v :: rest) => leavesAt (path ++ [.index 0]) v ++ itemLeaves path 1 rest
  | .object ((k, v) :: rest) => leavesAt (path ++ [.key k]) v ++ entryLeaves path rest
  | v => [(path, v)]

/-- The leaves of the items from an index on. -/
def itemLeaves (path : Path) (index : Nat) : List Value → List (Path × Value)
  | [] => []
  | v :: rest => leavesAt (path ++ [.index index]) v ++ itemLeaves path (index + 1) rest

/-- The leaves of entries. -/
def entryLeaves (path : Path) : List (String × Value) → List (Path × Value)
  | [] => []
  | (k, v) :: rest => leavesAt (path ++ [.key k]) v ++ entryLeaves path rest

end

/-- The leaves of a tree. A list or an object that is empty as a whole has none. -/
def leaves : Value → List (Path × Value)
  | .list items => itemLeaves [] 0 items
  | .object entries => entryLeaves [] entries
  | v => [([], v)]

/-- The texts of the leaves under their rendered paths, ascending by path. -/
def leafTexts (v : Value) : List (String × String) :=
  (v.leaves.map fun leaf => (leaf.1.render, Json.leafText leaf.2)).mergeSort
    fun a b => decide (a.1 ≤ b.1)

end Value

/-- The text under a path of a flattened tree. -/
def leafAt (path : String) (leaves : List (String × String)) : Option String :=
  (leaves.find? fun leaf => leaf.1 == path).map Prod.snd

/-- The paths at which two trees disagree. -/
structure PathComparison where
  onlyInBase : List String
  onlyInHead : List String
  differing : List String
  deriving DecidableEq

namespace PathComparison

def isEmpty (d : PathComparison) : Bool :=
  d.onlyInBase.isEmpty && d.onlyInHead.isEmpty && d.differing.isEmpty

/-- How many paths are reported. -/
def size (d : PathComparison) : Nat :=
  d.onlyInBase.length + d.onlyInHead.length + d.differing.length

/-- Compares two flattened trees. -/
def ofLeaves (base head : List (String × String)) : PathComparison where
  onlyInBase := (base.filter fun leaf => (leafAt leaf.1 head).isNone).map Prod.fst
  onlyInHead := (head.filter fun leaf => (leafAt leaf.1 base).isNone).map Prod.fst
  differing :=
    (base.filter fun leaf => (leafAt leaf.1 head).any fun other => other != leaf.2).map Prod.fst

/-- The refusal of a tree that is no object. -/
def notAnObject (side : String) : ComparisonError :=
  .notComparable (side ++ ": top-level value is not an object")

/-- Compares two trees, both of which have to be objects. -/
def ofValues (base head : Value) : Except ComparisonError PathComparison :=
  if !base.isObject then .error (notAnObject "base")
  else if !head.isObject then .error (notAnObject "head")
  else .ok (ofLeaves base.leafTexts head.leafTexts)

def toValue (d : PathComparison) : Value :=
  .object (Value.entry "onlyInBase" (.list (d.onlyInBase.map .text)) ++
    Value.entry "onlyInHead" (.list (d.onlyInHead.map .text)) ++
    Value.entry "differing" (.list (d.differing.map .text)))

end PathComparison
end Scorecard

import Scorecard.Value

/-!
# Paths into a tree

A path is a sequence of steps, each a key of an object or an index of a list. It is rendered with
dots between its steps. Dots and backslashes of a key take a backslash, and so does a key of digits
alone, which tells it from an index; therefore no two paths are rendered alike.
-/

namespace Scorecard

/-- One step into a tree. -/
inductive PathStep where
  | key (name : String)
  | index (place : Nat)
  deriving DecidableEq

/-- Steps from the root of a tree. -/
abbrev Path := List PathStep

namespace PathStep

/-- How a character of a key is rendered. -/
def escapeChar (c : Char) : List Char := if c = '\\' ∨ c = '.' then ['\\', c] else [c]

/-- A key of digits alone, which could be taken for an index. -/
def looksLikeIndex (name : List Char) : Bool := !name.isEmpty && name.all Char.isDigit

/-- How a key is rendered. -/
def renderKey (name : List Char) : List Char :=
  (if looksLikeIndex name then ['\\'] else []) ++ name.flatMap escapeChar

/-- How a step is rendered. -/
def render : PathStep → List Char
  | key name => renderKey name.toList
  | index place => Nat.toDigits 10 place

end PathStep

namespace Path

/-- The steps of a path with dots between them. -/
def renderChars : Path → List Char
  | [] => []
  | [step] => step.render
  | step :: rest => step.render ++ '.' :: renderChars rest

/-- The text of a path. -/
def render (p : Path) : String := String.ofList (renderChars p)

/-! A dot inside a key, a key of digits and an index are told apart. -/

example : render [.key "a.b", .key "7", .index 7] = "a\\.b.\\7.7" := by decide +kernel

end Path

namespace Value

/-- The subtree that a step leads to. -/
def child? : PathStep → Value → Option Value
  | .key name, .object entries => lookup name entries
  | .index place, .list items => items[place]?
  | _, _ => none

/-- The subtree that a path leads to. -/
def descend? : Path → Value → Option Value
  | [], v => some v
  | step :: rest, v => (child? step v).bind (descend? rest)

/-- The tree with the subtree that a path leads to replaced; where it leads nowhere nothing is. -/
def replaceAt : Path → Value → Value → Value
  | [], new, _ => new
  | .key name :: rest, new, .object entries =>
    match lookup name entries with
    | some v => .object (put name (replaceAt rest new v) entries)
    | none => .object entries
  | .index place :: rest, new, .list items =>
    match items[place]? with
    | some v => .list (items.set place (replaceAt rest new v))
    | none => .list items
  | _ :: _, _, v => v

end Value
end Scorecard

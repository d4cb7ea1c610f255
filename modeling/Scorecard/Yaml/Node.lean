import Scorecard.Yaml.Token

/-!
# Nodes

The tokens of a text form a document, a tree of scalars, sequences and mappings in which an alias
stands for a node with an anchor. Anchors are kept in slots: an anchor takes the slot whose number
is the count of anchor names in use, and an alias refers to the slot that its name took last. A
slot holds the node that took it last in the whole document.
-/

namespace Scorecard.Yaml

inductive Node where
  | scalar (text : String) (plain : Bool) (tag : Option Tag)
  | sequence (tag : Option Tag) (items : List Node)
  | mapping (tag : Option Tag) (entries : List (Node × Node))
  | alias (slot : Nat)

namespace Node

/-- The node that stands where none is written. -/
def empty : Node := .scalar "" true none

end Node

/-- The anchors of a document. -/
structure Anchors where
  /-- the slot that each name took last -/
  slots : List (String × Nat)
  /-- the number of the anchored node that each slot belongs to, the latest first -/
  owners : List (Nat × Nat)
  /-- the number of anchored nodes so far -/
  count : Nat
  /-- the anchored nodes by their numbers -/
  nodes : List (Nat × Node)

namespace Anchors

def none : Anchors := ⟨[], [], 0, []⟩

/-- The slot of a name. -/
def slot? (name : String) (a : Anchors) : Option Nat := a.slots.lookup name

/-- Takes a slot for a name. -/
def take (name : String) (a : Anchors) : Anchors :=
  let slot := a.slots.length
  { a with
    slots := (name, slot) :: a.slots.filter fun s => s.1 != name
    owners := (slot, a.count) :: a.owners
    count := a.count + 1 }

/-- The node that a slot holds. -/
def node? (slot : Nat) (a : Anchors) : Option Node :=
  (a.owners.lookup slot).bind fun n => a.nodes.lookup n

end Anchors

/-- The state of parsing: the tokens to come, the expansions of tag handles and the anchors. -/
structure Parse where
  tokens : List Token
  handles : List (String × Tag)
  anchors : Anchors

/-- Parses a part of a document. -/
abbrev Parsing := StateT Parse Option

namespace Parsing

/-- The token that comes next, if there is one. -/
def peek : Parsing (Option Token) := do return (← get).tokens.head?

def skip : Parsing Unit := modify fun s => { s with tokens := s.tokens.drop 1 }

/-- Passes over a token that has to come next. -/
def expect (t : Token) : Parsing Unit := do
  if (← peek) = some t then skip else failure

/-- The next token is one of these. -/
def isNext (ts : List Token) : Parsing Bool := do
  match ← peek with
  | some t => return ts.contains t
  | none => return false

/-- A tag with its handle expanded. -/
def expand (handle : String) (suffix : Tag) : Parsing Tag := do
  if handle = "" then return suffix.beforeZero
  match (← get).handles.lookup handle with
  | some expansion => return expansion.beforeZero ++ suffix.beforeZero
  | none => failure

/-- An anchor, if one comes next. -/
def anchor? : Parsing (Option String) := do
  match ← peek with
  | some (.anchor name) =>
    skip
    return some name
  | _ => return none

/-- A tag, if one comes next. -/
def tag? : Parsing (Option (String × Tag)) := do
  match ← peek with
  | some (.tag handle suffix) =>
    skip
    return some (handle, suffix)
  | _ => return none

/-- The anchor and the tag in front of a node, in either order. -/
def properties : Parsing (Option String × Option Tag) := do
  let anchor ← anchor?
  let tag ← tag?
  let anchor ← if anchor.isNone then anchor? else pure anchor
  match tag with
  | some (handle, suffix) => return (anchor, some (← expand handle suffix))
  | none => return (anchor, none)

/-- Takes a slot for the anchor of a node; the answer is the node's number. -/
def anchored (anchor : Option String) : Parsing (Option Nat) := do
  match anchor with
  | some name =>
    let number := (← get).anchors.count
    modify fun s => { s with anchors := s.anchors.take name }
    return some number
  | none => return none

/-- Enters an anchored node under its number. -/
def record (number : Option Nat) (node : Node) : Parsing Node := do
  match number with
  | some n =>
    modify fun s => { s with anchors := { s.anchors with nodes := (n, node) :: s.anchors.nodes } }
  | none => pure ()
  return node

/-- Tokens in front of which the key or the value of a block mapping is left out. -/
def mappingStops : List Token := [.key, .value, .blockEnd]

/-- Where a node stands. -/
structure Place where
  /-- block collections may start here -/
  block : Bool
  /-- dashes at the column of the mapping around may start a sequence here -/
  indentless : Bool

def inBlock : Place := ⟨true, false⟩
def inMapping : Place := ⟨true, true⟩
def inFlow : Place := ⟨false, false⟩

mutual

/-- A node. The first argument bounds the nested calls of all parsers below. -/
def node : Nat → Place → Parsing Node
  | 0, _ => failure
  | bound + 1, place => do
    match ← peek with
    | some (.alias name) =>
      skip
      match (← get).anchors.slot? name with
      | some slot => return .alias slot
      | none => failure
    | _ =>
      let (anchor, tag) ← properties
      let bare := anchor.isNone && tag.isNone
      match ← peek with
      | some (.scalar text plain) =>
        skip
        let number ← anchored anchor
        record number (.scalar text plain tag)
      | some .flowSequenceStart =>
        skip
        let number ← anchored anchor
        record number (.sequence tag (← flowItems bound true))
      | some .flowMappingStart =>
        skip
        let number ← anchored anchor
        record number (.mapping tag (← flowEntries bound true))
      | next =>
        if place.indentless && next = some .blockEntry then
          let number ← anchored anchor
          record number (.sequence tag (← indentlessItems bound))
        else if place.block && next = some .blockSequenceStart then
          skip
          let number ← anchored anchor
          record number (.sequence tag (← blockItems bound))
        else if place.block && next = some .blockMappingStart then
          skip
          let number ← anchored anchor
          record number (.mapping tag (← blockEntries bound))
        else if bare then failure
        else
          let number ← anchored anchor
          record number (.scalar "" true tag)

/-- A node, or the empty one in front of certain tokens. -/
def nodeUnless : Nat → Place → List Token → Parsing Node
  | 0, _, _ => failure
  | bound + 1, place, stops => do
    if ← isNext stops then return .empty else node bound place

/-- The items of a block sequence and its end. -/
def blockItems : Nat → Parsing (List Node)
  | 0 => failure
  | bound + 1 => do
    if ← isNext [.blockEnd] then
      skip
      return []
    else
      expect .blockEntry
      let item ← nodeUnless bound inBlock [.blockEntry, .blockEnd]
      return item :: (← blockItems bound)

/-- The items of a sequence whose dashes stand at the column of the mapping around. -/
def indentlessItems : Nat → Parsing (List Node)
  | 0 => failure
  | bound + 1 => do
    if ← isNext [.blockEntry] then
      skip
      let item ← nodeUnless bound inBlock (.blockEntry :: mappingStops)
      return item :: (← indentlessItems bound)
    else return []

/-- The entries of a block mapping and its end. -/
def blockEntries : Nat → Parsing (List (Node × Node))
  | 0 => failure
  | bound + 1 => do
    if ← isNext [.blockEnd] then
      skip
      return []
    else
      expect .key
      let key ← nodeUnless bound inMapping mappingStops
      let value ←
        if ← isNext [.value] then do
          skip
          nodeUnless bound inMapping mappingStops
        else pure .empty
      return (key, value) :: (← blockEntries bound)

/-- The items of a flow sequence and its end. -/
def flowItems : Nat → Bool → Parsing (List Node)
  | 0, _ => failure
  | bound + 1, first => do
    if !first && !(← isNext [.flowSequenceEnd]) then expect .flowEntry
    if ← isNext [.flowSequenceEnd] then
      skip
      return []
    else
      let item ←
        if ← isNext [.key] then do
          skip
          flowPair bound
        else node bound inFlow
      return item :: (← flowItems bound false)

/-- A mapping of one entry inside a flow sequence. Where its key is left out, the token in front of
    which it is left out is passed over. -/
def flowPair : Nat → Parsing Node
  | 0 => failure
  | bound + 1 => do
    let key ←
      if ← isNext [.value, .flowEntry, .flowSequenceEnd] then do
        skip
        pure .empty
      else node bound inFlow
    let value ←
      if ← isNext [.value] then do
        skip
        nodeUnless bound inFlow [.flowEntry, .flowSequenceEnd]
      else pure .empty
    return .mapping none [(key, value)]

/-- The entries of a flow mapping and its end. -/
def flowEntries : Nat → Bool → Parsing (List (Node × Node))
  | 0, _ => failure
  | bound + 1, first => do
    if !first && !(← isNext [.flowMappingEnd]) then expect .flowEntry
    if ← isNext [.flowMappingEnd] then
      skip
      return []
    else
      let entry ←
        if ← isNext [.key] then do
          skip
          let key ← nodeUnless bound inFlow [.value, .flowEntry, .flowMappingEnd]
          let value ←
            if ← isNext [.value] then do
              skip
              nodeUnless bound inFlow [.flowEntry, .flowMappingEnd]
            else pure .empty
          pure (key, value)
        else do
          let key ← node bound inFlow
          pure (key, .empty)
      return entry :: (← flowEntries bound false)

end

/-- The directives in front of a document: at most one version, 1.1 or 1.2, and every handle at most
    once. -/
def directives : Nat → Bool → Parsing Unit
  | 0, _ => failure
  | bound + 1, versioned => do
    match ← peek with
    | some (.versionDirective major minor) =>
      if versioned || major ≠ 1 || (minor ≠ 1 && minor ≠ 2) then failure
      skip
      directives bound true
    | some (.tagDirective handle expansion) =>
      if ((← get).handles.lookup handle).isSome then failure
      skip
      modify fun s => { s with handles := s.handles ++ [(handle, expansion)] }
      directives bound versioned
    | _ => return ()

/-- The handles that every document knows, unless it gives them another expansion. -/
def standardHandles : List (String × Tag) := [("!", [Tag.mark]), ("!!", Tag.standardSchema)]

def isDirective : Token → Bool
  | .versionDirective _ _ => true
  | .tagDirective _ _ => true
  | _ => false

/-- The root of the first document. -/
def root (bound : Nat) : Parsing Node := do
  let next ← peek
  if (next.map isDirective).getD false || next = some .documentStart then
    directives bound false
    modify fun s => { s with handles := s.handles ++ standardHandles }
    expect .documentStart
    match ← peek with
    | none => return .empty
    | some t =>
      if isDirective t || t = .documentStart || t = .documentEnd then return .empty
      else node bound inBlock
  else
    modify fun s => { s with handles := standardHandles }
    node bound inBlock

/-- The first document, which has to be the only one. -/
def onlyDocument (bound : Nat) : Parsing (Node × Anchors) := do
  let node ← root bound
  modify fun s => { s with tokens := s.tokens.dropWhile fun t => t = .documentEnd }
  match ← peek with
  | none => return (node, (← get).anchors)
  | some _ => failure

end Parsing

/-- The document that tokens form, with its anchors. No tokens form the empty document. -/
def document? (tokens : List Token) : Option (Node × Anchors) :=
  if tokens.isEmpty then some (.empty, .none)
  else (Parsing.onlyDocument (4 * tokens.length + 8)).run' ⟨tokens, [], .none⟩

end Scorecard.Yaml

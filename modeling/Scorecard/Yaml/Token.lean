import Scorecard.Yaml.Scalar
import Scorecard.Yaml.Tag

/-!
# Tokens

A YAML text as the sequence of its indicators, scalars and node properties. Where a block
collection begins and ends shows in the indentation, so the tokens for that are put in. A key needs
no indicator of its own: any node that may be one is remembered, and when the colon comes the token
for the key is put in before it. Such a key has to stand on the line of its colon, at most 1024
UTF-8 octets before it. Flow collections are refused once they are deeper than a tree may be.
-/

namespace Scorecard.Yaml

inductive Token where
  | versionDirective (major minor : Nat)
  | tagDirective (handle : String) (expansion : Tag)
  | documentStart
  | documentEnd
  | blockSequenceStart
  | blockMappingStart
  | blockEnd
  | flowSequenceStart
  | flowSequenceEnd
  | flowMappingStart
  | flowMappingEnd
  | blockEntry
  | flowEntry
  | key
  | value
  | alias (name : String)
  | anchor (name : String)
  | tag (handle : String) (suffix : Tag)
  | scalar (text : String) (plain : Bool)
  deriving DecidableEq

/-- A node that may turn out to be a key. -/
structure PossibleKey where
  /-- the number of tokens before it -/
  place : Nat
  /-- it stands where only a key can stand -/
  required : Bool
  mark : Mark

/-- The state of scanning. -/
structure Scan where
  rest : List Glyph
  /-- the tokens so far, the last first -/
  tokens : List Token
  count : Nat
  /-- the column of the innermost block collection, -1 outside of all -/
  indent : Int
  /-- the columns of the block collections around it -/
  outer : List Int
  /-- the possible key of each flow level, the innermost first; the last is that of block context -/
  keys : List (Option PossibleKey)
  /-- a key may start here -/
  keyAllowed : Bool

namespace Scan

def start (gs : List Glyph) : Scan := ⟨gs, [], 0, -1, [], [none], true⟩

/-- Inside a flow collection. -/
def inFlow (s : Scan) : Bool := 1 < s.keys.length

def column (s : Scan) : Int := (markOf s.rest).column

def push (t : Token) (s : Scan) : Scan := { s with tokens := t :: s.tokens, count := s.count + 1 }

/-- Puts a token in at a place. -/
def insertAt (place : Nat) (t : Token) (s : Scan) : Scan :=
  { s with tokens := s.tokens.insertIdx (s.count - place) t, count := s.count + 1 }

def skip (n : Nat) (s : Scan) : Scan := { s with rest := s.rest.drop n }

/-- Gives up the possible key of the innermost level, unless it is required. -/
def dropKey (s : Scan) : Option Scan :=
  match s.keys with
  | some key :: outer => if key.required then none else some { s with keys := none :: outer }
  | _ => some s

/-- Remembers that a key may start here. -/
def saveKey (s : Scan) : Option Scan :=
  if s.keyAllowed then do
    let required := !s.inFlow && s.indent == s.column
    let s ← s.dropKey
    return { s with keys := some ⟨s.count, required, markOf s.rest⟩ :: s.keys.drop 1 }
  else some s

/-- The key is out of reach from a place. -/
def isStale (key : PossibleKey) (here : Mark) : Bool :=
  key.mark.line < here.line || key.mark.index + 1024 < here.index

/-- Gives up all possible keys that are out of reach. -/
def dropStaleKeys (s : Scan) : Option Scan := do
  let here := markOf s.rest
  let keys ← s.keys.mapM fun
    | some key =>
      if isStale key here then (if key.required then none else some none) else some (some key)
    | none => some none
  return { s with keys := keys }

/-- Closes the block collections that a column lies outside of. -/
def unrollTo (column : Int) (s : Scan) : Scan :=
  if s.inFlow then s
  else
    let columns := s.indent :: s.outer
    let closed := (columns.takeWhile fun c => decide (column < c)).length
    match columns.drop closed with
    | c :: outer =>
      { s with
        tokens := List.replicate closed .blockEnd ++ s.tokens
        count := s.count + closed
        indent := c
        outer := outer }
    | [] => s

/-- Opens a block collection at a column, if it lies inside of the innermost one. -/
def rollTo (column : Int) (place : Nat) (t : Token) (s : Scan) : Scan :=
  if s.inFlow then s
  else if s.indent < column then
    { s.insertAt place t with indent := column, outer := s.indent :: s.outer }
  else s

/-! ## Between tokens -/

/-- Passes over blanks, comments and breaks. A break in block context allows a key; tabs count as
    blanks only where no key may start. -/
def gapFrom (flow : Bool) (keyAllowed comment : Bool) : List Glyph → List Glyph × Bool
  | [] => ([], keyAllowed)
  | g :: gs =>
    let c := g.char
    if isBreak c then gapFrom flow (keyAllowed || !flow) false gs
    else if c = endChar then (g :: gs, keyAllowed)
    else if comment then gapFrom flow keyAllowed true gs
    else if c = byteOrderMark && g.mark.column == 0 then gapFrom flow keyAllowed false gs
    else if c = ' ' || (c = '\t' && (flow || !keyAllowed)) then gapFrom flow keyAllowed false gs
    else if c = '#' then gapFrom flow keyAllowed true gs
    else (g :: gs, keyAllowed)

def skipGap (s : Scan) : Scan :=
  let (rest, keyAllowed) := gapFrom s.inFlow s.keyAllowed false s.rest
  { s with rest := rest, keyAllowed := keyAllowed }

/-! ## Directives, anchors and tags -/

/-- A run of digits, at most nine. -/
def smallNumber? (gs : List Glyph) : Option (Nat × List Glyph) :=
  match spanGlyphs Char.isDigit gs with
  | ([], _) => none
  | (ds, rest) => if ds.length ≤ 9 then some (digitsValue ds, rest) else none

/-- A character of a tag besides the escapes. -/
def isTagChar (c : Char) : Bool :=
  isWordChar c || c = ';' || c = '/' || c = '?' || c = ':' || c = '@' || c = '&' || c = '=' ||
    c = '+' || c = '$' || c = '.' || c = '!' || c = '~' || c = '*' || c = '\'' || c = '(' || c = ')'

/-- The value of the octet behind a percent sign. -/
def octet? (gs : List Glyph) : Option Nat := do
  if charAt 0 gs ≠ '%' then none
  let high ← Json.hexValue? (charAt 1 gs)
  let low ← Json.hexValue? (charAt 2 gs)
  return high * 16 + low

/-- How many octets follow the first one of a character. -/
def trailingCount? (n : Nat) : Option Nat :=
  if n < 0x80 then some 0
  else if n < 0xC0 then none
  else if n < 0xE0 then some 1
  else if n < 0xF0 then some 2
  else if n < 0xF8 then some 3
  else none

/-- So many octets behind the first one of a character, and the glyphs behind them. -/
def trailingOctets? : Nat → List Glyph → Option (Tag × List Glyph)
  | 0, gs => some ([], gs)
  | n + 1, gs => do
    let octet ← octet? gs
    if octet < 0x80 ∨ 0xC0 ≤ octet then none
    let (octets, gs) ← trailingOctets? n (gs.drop 3)
    return (UInt8.ofNat octet :: octets, gs)

/-- The octets of a tag, escapes resolved; `bound` is at least the number of characters. Escapes
    come in groups as long as their first octet demands. -/
def tagOctetsFrom (wide : Bool) : Nat → List Glyph → Option (Tag × List Glyph)
  | 0, gs => some ([], gs)
  | bound + 1, gs => do
    let c := charAt 0 gs
    if c = '%' then
      let first ← octet? gs
      let (trailing, gs) ← trailingOctets? (← trailingCount? first) (gs.drop 3)
      let (octets, gs) ← tagOctetsFrom wide bound gs
      return (UInt8.ofNat first :: trailing ++ octets, gs)
    else if isTagChar c || (wide && (c = ',' || c = '[' || c = ']')) then
      let (octets, gs) ← tagOctetsFrom wide bound (gs.drop 1)
      return (Tag.octet c :: octets, gs)
    else return ([], gs)

def tagOctets? (wide : Bool) (gs : List Glyph) : Option (Tag × List Glyph) :=
  tagOctetsFrom wide gs.length gs

/-- The handle of a tag: an exclamation mark, then word characters, then maybe another mark. -/
def tagHandle? (gs : List Glyph) : Option (List Char × List Glyph) :=
  if charAt 0 gs = '!' then
    let (word, gs) := spanGlyphs isWordChar (gs.drop 1)
    if charAt 0 gs = '!' then some ('!' :: word ++ ['!'], gs.drop 1) else some ('!' :: word, gs)
  else none

/-- The version behind the name of a directive. -/
def versionDirective? (gs : List Glyph) : Option (Token × List Glyph) := do
  let (major, gs) ← smallNumber? (skipBlanks gs)
  if charAt 0 gs ≠ '.' then none
  let (minor, gs) ← smallNumber? (gs.drop 1)
  return (.versionDirective major minor, gs)

/-- The handle and its expansion behind the name of a directive. -/
def tagDirective? (gs : List Glyph) : Option (Token × List Glyph) := do
  let (handle, gs) ← tagHandle? (skipBlanks gs)
  if handle ≠ ['!'] ∧ (handle.length < 2 ∨ handle.getLast? ≠ some '!') then none
  if !isBlank (charAt 0 gs) then none
  let (expansion, gs) ← tagOctets? true (skipBlanks gs)
  if expansion.isEmpty then none
  if !isBlankOrEnd (charAt 0 gs) then none
  return (.tagDirective (String.ofList handle) expansion, gs)

/-- A directive, which fills its line. -/
def directive? (gs : List Glyph) : Option (Token × List Glyph) := do
  let (name, gs) := spanGlyphs isWordChar (gs.drop 1)
  if !isBlankOrEnd (charAt 0 gs) then none
  let (token, gs) ←
    if name = ['Y', 'A', 'M', 'L'] then versionDirective? gs
    else if name = ['T', 'A', 'G'] then tagDirective? gs
    else none
  let gs ← restOfLine? gs
  return (token, gs)

/-- The name of an anchor or an alias. -/
def anchorName? (gs : List Glyph) : Option (String × List Glyph) :=
  let (name, gs) := spanGlyphs isWordChar (gs.drop 1)
  let c := charAt 0 gs
  if !name.isEmpty && (isBlankOrEnd c || c = '?' || c = ':' || c = ',' || c = ']' || c = '\x7d' ||
      c = '%' || c = '@' || c = Char.ofNat 96) then
    some (String.ofList name, gs)
  else none

/-- A tag: verbatim between angle brackets, or a handle and a suffix. The exclamation mark alone is
    a suffix without a handle. -/
def tagParts? (gs : List Glyph) : Option (List Char × Tag × List Glyph) :=
  if charAt 1 gs = '<' then do
    let (suffix, gs) ← tagOctets? true (gs.drop 2)
    if suffix.isEmpty ∨ charAt 0 gs ≠ '>' then none
    return ([], suffix, gs.drop 1)
  else do
    let (handle, gs) ← tagHandle? gs
    let (suffix, gs) ← tagOctets? false gs
    if 1 < handle.length ∧ handle.getLast? = some '!' then
      if suffix.isEmpty then none
      return (handle, suffix, gs)
    else
      let suffix := (handle.drop 1).map Tag.octet ++ suffix
      return (if (Tag.beforeZero suffix).isEmpty then ([], [Tag.mark], gs) else (['!'], suffix, gs))

def tag? (flow : Bool) (gs : List Glyph) : Option (Token × List Glyph) := do
  let (handle, suffix, gs) ← tagParts? gs
  if isBlankOrEnd (charAt 0 gs) || (flow && charAt 0 gs = ',') then
    return (.tag (String.ofList handle) suffix, gs)
  else none

/-! ## One token -/

/-- A token at column zero, outside of all block collections. -/
def atMargin (t : Token) (rest : List Glyph) (s : Scan) : Option Scan := do
  let s ← (s.unrollTo (-1)).dropKey
  return { s.push t with rest := rest, keyAllowed := false }

/-- A token that starts a node, which may be a key. -/
def atNode (t : Token) (rest : List Glyph) (s : Scan) : Option Scan := do
  let s ← s.saveKey
  return { s.push t with rest := rest, keyAllowed := false }

/-- The start of a flow collection, which may be a key as a whole. -/
def flowStart (t : Token) (s : Scan) : Option Scan := do
  if deepest < s.keys.length then none
  let s ← s.saveKey
  return { (s.push t).skip 1 with keys := none :: s.keys, keyAllowed := true }

/-- The end of a flow collection. -/
def flowEnd (t : Token) (s : Scan) : Option Scan := do
  let s ← s.dropKey
  let keys := if s.inFlow then s.keys.drop 1 else s.keys
  return { (s.push t).skip 1 with keys := keys, keyAllowed := false }

def flowEntry (s : Scan) : Option Scan := do
  let s ← s.dropKey
  return { (s.push .flowEntry).skip 1 with keyAllowed := true }

/-- A dash, which opens a block sequence at its column. -/
def blockEntry (s : Scan) : Option Scan := do
  if !s.inFlow && !s.keyAllowed then none
  let s ← (s.rollTo s.column s.count .blockSequenceStart).dropKey
  return { (s.push .blockEntry).skip 1 with keyAllowed := true }

/-- A question mark, which opens a block mapping at its column. -/
def keyIndicator (s : Scan) : Option Scan := do
  if !s.inFlow && !s.keyAllowed then none
  let s ← (s.rollTo s.column s.count .blockMappingStart).dropKey
  return { (s.push .key).skip 1 with keyAllowed := !s.inFlow }

/-- A colon. If a node before it may be a key it is one, and opens a block mapping at its column. -/
def valueIndicator (s : Scan) : Option Scan := do
  match s.keys with
  | some key :: outer =>
    let s := { s.insertAt key.place .key with keys := none :: outer }
    let s := s.rollTo key.mark.column key.place .blockMappingStart
    return { (s.push .value).skip 1 with keyAllowed := false }
  | _ =>
    if !s.inFlow && !s.keyAllowed then none
    let s := s.rollTo s.column s.count .blockMappingStart
    return { (s.push .value).skip 1 with keyAllowed := !s.inFlow }

/-- A scalar of several lines behind a bar or an angle bracket. -/
def blockScalar (literal : Bool) (s : Scan) : Option Scan := do
  let s ← s.dropKey
  let (chomping, increment, gs) ← blockHeader? (s.rest.drop 1)
  let indent := if increment = 0 then 0 else (max s.indent 0).toNat + increment
  let (cs, rest) ←
    blockFrom literal chomping (s.indent + 1).toNat indent (.indentation 0) .empty gs
  return { s.push (.scalar (String.ofList cs) false) with rest := rest, keyAllowed := true }

def quotedScalar (single : Bool) (s : Scan) : Option Scan := do
  let (cs, rest) ← quotedFrom single .text .empty [] (s.rest.drop 1)
  s.atNode (.scalar (String.ofList cs) false) rest

/-- A plain scalar; one that ends behind a break allows a key there. -/
def plainScalar (s : Scan) : Option Scan := do
  let p ← plainFrom s.inFlow (s.indent + 1).toNat false .empty [] s.rest
  let s ← s.atNode (.scalar (String.ofList p.chars) true) p.rest
  return { s with keyAllowed := p.broken }

/-- An indicator, with which no plain scalar starts. -/
def isIndicator (c : Char) : Bool :=
  isFlowIndicator c || c = '-' || c = '?' || c = ':' || c = '#' || c = '&' || c = '*' || c = '!' ||
    c = '|' || c = '>' || c = '\'' || c = '"' || c = '%' || c = '@' || c = Char.ofNat 96

/-- A plain scalar starts here. -/
def startsPlain (s : Scan) : Bool :=
  let c := charAt 0 s.rest
  let d := charAt 1 s.rest
  (!isBlankOrEnd c && !isIndicator c) || (c = '-' && !isBlank d) ||
    (!s.inFlow && (c = '?' || c = ':') && !isBlankOrEnd d)

/-- The token that starts here. -/
def token (s : Scan) : Option Scan :=
  let gs := s.rest
  let c := charAt 0 gs
  let d := charAt 1 gs
  let apart := s.inFlow || isBlankOrEnd d
  if (markOf gs).column == 0 && c = '%' then do
    let (t, rest) ← directive? gs
    s.atMargin t rest
  else if isTripleAt '-' gs then s.atMargin .documentStart (gs.drop 3)
  else if isTripleAt '.' gs then s.atMargin .documentEnd (gs.drop 3)
  else if c = '[' then s.flowStart .flowSequenceStart
  else if c = '\x7b' then s.flowStart .flowMappingStart
  else if c = ']' then s.flowEnd .flowSequenceEnd
  else if c = '\x7d' then s.flowEnd .flowMappingEnd
  else if c = ',' then s.flowEntry
  else if c = '-' && isBlankOrEnd d then s.blockEntry
  else if c = '?' && apart then s.keyIndicator
  else if c = ':' && apart then s.valueIndicator
  else if c = '*' then do
    let (name, rest) ← anchorName? gs
    s.atNode (.alias name) rest
  else if c = '&' then do
    let (name, rest) ← anchorName? gs
    s.atNode (.anchor name) rest
  else if c = '!' then do
    let (t, rest) ← tag? s.inFlow gs
    s.atNode t rest
  else if c = '|' && !s.inFlow then s.blockScalar true
  else if c = '>' && !s.inFlow then s.blockScalar false
  else if c = '\'' then s.quotedScalar true
  else if c = '"' then s.quotedScalar false
  else if s.startsPlain then s.plainScalar
  else none

/-- Scans to the end of the text. Each token takes a glyph, so the number of glyphs bounds the
    tokens that are found. -/
def run : Nat → Scan → Option (List Token)
  | 0, _ => none
  | bound + 1, s => do
    let s ← s.skipGap.dropStaleKeys
    let s := s.unrollTo s.column
    if charAt 0 s.rest = endChar then
      let s ← (s.unrollTo (-1)).dropKey
      return s.tokens.reverse
    else run bound (← s.token)

end Scan

/-- The tokens of a text. -/
def tokens? (gs : List Glyph) : Option (List Token) := (Scan.start gs).run (gs.length + 1)

end Scorecard.Yaml

import Scorecard.Json.Reader
import Scorecard.Yaml.Glyph

/-!
# Scalars as they stand in a text

Plain scalars, quoted scalars and block scalars, with their line folding: a single line break
between two lines counts as a blank, and of several the first is dropped. Each reader walks over
the glyphs once and gives back the characters of the scalar and the glyphs behind it.
-/

namespace Scorecard.Yaml

/-- The blanks and breaks since the last character of a scalar, the last ones first. Blanks count
    only up to the first break. -/
structure Gap where
  blanks : List Char
  broken : Bool
  firstBreak : Option Char
  breaks : List Char

namespace Gap

def empty : Gap := ⟨[], false, none, []⟩

/-- The gap behind an escaped line break. -/
def escaped : Gap := ⟨[], true, none, []⟩

def blank (g : Gap) (c : Char) : Gap := if g.broken then g else { g with blanks := c :: g.blanks }

def lineBreak (g : Gap) (c : Char) : Gap :=
  if g.broken then { g with breaks := c :: g.breaks } else ⟨[], true, some c, g.breaks⟩

/-- What the gap stands for: a line feed alone becomes a blank, and in front of further breaks it
    vanishes. -/
def folded (g : Gap) : List Char :=
  if g.broken then
    match g.firstBreak with
    | some '\n' => if g.breaks.isEmpty then [' '] else g.breaks.reverse
    | some c => c :: g.breaks.reverse
    | none => g.breaks.reverse
  else g.blanks.reverse

end Gap

/-! ## Plain scalars -/

/-- An indicator of flow collections. -/
def isFlowIndicator (c : Char) : Bool := c = ',' || c = '[' || c = ']' || c = '\x7b' || c = '\x7d'

/-- What a plain scalar leaves: its characters, whether it ends behind a line break, and the glyphs
    behind it. -/
structure PlainScalar where
  chars : List Char
  broken : Bool
  rest : List Glyph

/-- Walks over a plain scalar. `inGap` tells whether blanks are being passed over, `indent` is the
    column that a continuation line has to reach, and `seen` are the characters so far, the last
    first. -/
def plainFrom (flow : Bool) (indent : Nat) (inGap : Bool) (gap : Gap) (seen : List Char) :
    List Glyph → Option PlainScalar
  | [] => some ⟨seen.reverse, gap.broken, []⟩
  | g :: gs =>
    let stop : Option PlainScalar := some ⟨seen.reverse, gap.broken, g :: gs⟩
    let c := g.char
    if isBlank c then
      if gap.broken && g.mark.column < indent && c = '\t' then none
      else plainFrom flow indent true (gap.blank c) seen gs
    else if isBreak c then plainFrom flow indent true (gap.lineBreak c) seen gs
    else if inGap && !flow && g.mark.column < indent then stop
    else if inGap && (isDocumentIndicator (g :: gs) || c = '#') then stop
    else if c = endChar then stop
    else if flow && c = ':' && (isFlowIndicator (charAt 0 gs) || charAt 0 gs = '?') then none
    else if c = ':' && isBlankOrEnd (charAt 0 gs) then stop
    else if flow && isFlowIndicator c then stop
    else plainFrom flow indent false .empty (c :: (gap.folded.reverse ++ seen)) gs

/-! ## Quoted scalars -/

/-- What is being read inside quotes. -/
inductive QuotedMode where
  /-- characters of the scalar -/
  | text
  /-- blanks and breaks between them -/
  | gap
  /-- the character behind a backslash -/
  | escape
  /-- the digits of a character's number: how many are to come, and the number so far -/
  | code (digits : Nat) (value : Nat)

/-- The character that an escape of one letter stands for. -/
def escapedChar? (c : Char) : Option Char :=
  match c with
  | '0' => some (Char.ofNat 0)
  | 'a' => some (Char.ofNat 7)
  | 'b' => some (Char.ofNat 8)
  | 't' => some '\t'
  | '\t' => some '\t'
  | 'n' => some '\n'
  | 'v' => some (Char.ofNat 11)
  | 'f' => some (Char.ofNat 12)
  | 'r' => some '\r'
  | 'e' => some (Char.ofNat 27)
  | ' ' => some ' '
  | '"' => some '"'
  | '/' => some '/'
  | '\\' => some '\\'
  | 'N' => some (Char.ofNat 0x85)
  | '_' => some (Char.ofNat 0xA0)
  | 'L' => some (Char.ofNat 0x2028)
  | 'P' => some (Char.ofNat 0x2029)
  | _ => none

/-- How many digits the number behind an escape has. -/
def codeLength? (c : Char) : Option Nat :=
  if c = 'x' then some 2 else if c = 'u' then some 4 else if c = 'U' then some 8 else none

/-- Walks over a quoted scalar behind its opening quote. In single quotes a doubled quote stands for
    one; in double quotes a backslash escapes. No line inside may start or end a document. -/
def quotedFrom (single : Bool) (mode : QuotedMode) (gap : Gap) (seen : List Char) :
    List Glyph → Option (List Char × List Glyph)
  | [] => none
  | g :: gs =>
    let c := g.char
    match mode with
    | .escape =>
      if isBreak c then quotedFrom single .gap .escaped seen gs
      else
        match codeLength? c with
        | some n => quotedFrom single (.code n 0) .empty seen gs
        | none =>
          match escapedChar? c with
          | some e => quotedFrom single .text .empty (e :: seen) gs
          | none => none
    | .code n value =>
      match Json.hexValue? c with
      | none => none
      | some d =>
        let value := value * 16 + d
        if n ≤ 1 then
          if (0xD800 ≤ value && value ≤ 0xDFFF) || 0x10FFFF < value then none
          else quotedFrom single .text .empty (Char.ofNat value :: seen) gs
        else quotedFrom single (.code (n - 1) value) .empty seen gs
    | mode =>
      if isBlank c then quotedFrom single .gap (gap.blank c) seen gs
      else if isBreak c then quotedFrom single .gap (gap.lineBreak c) seen gs
      else if c = endChar then none
      else
        let inGap := match mode with
          | .gap => true
          | _ => false
        let seen := if inGap then gap.folded.reverse ++ seen else seen
        if isDocumentIndicator (g :: gs) then none
        else if single && c = '\'' then
          match gs with
          | h :: rest =>
            if h.char = '\'' then quotedFrom single .text .empty ('\'' :: seen) rest
            else some (seen.reverse, gs)
          | [] => some (seen.reverse, gs)
        else if !single && c = '"' then some (seen.reverse, gs)
        else if !single && c = '\\' then quotedFrom single .escape .empty seen gs
        else quotedFrom single .text .empty (c :: seen) gs

/-! ## Block scalars -/

/-- What becomes of the line breaks at the end. -/
inductive Chomping where
  | strip
  | clip
  | keep
  deriving DecidableEq, Repr

/-- The header of a block scalar: chomping, the indentation if it is given, and the rest. -/
def blockHeader? (gs : List Glyph) : Option (Chomping × Nat × List Glyph) := do
  let chomping? (c : Char) : Option Chomping :=
    if c = '+' then some .keep else if c = '-' then some .strip else none
  let (chomping, increment, gs) ←
    match chomping? (charAt 0 gs) with
    | some chomping =>
      if (charAt 1 gs).isDigit then some (chomping, some (charAt 1 gs), gs.drop 2)
      else some (chomping, none, gs.drop 1)
    | none =>
      if (charAt 0 gs).isDigit then
        match chomping? (charAt 1 gs) with
        | some chomping => some (chomping, some (charAt 0 gs), gs.drop 2)
        | none => some (.clip, some (charAt 0 gs), gs.drop 1)
      else some (.clip, none, gs)
  let gs ← restOfLine? gs
  match increment with
  | some '0' => none
  | some d => return (chomping, d.toNat - 48, gs)
  | none => return (chomping, 0, gs)

/-- What is being read of a block scalar. -/
inductive BlockMode where
  /-- the indentation of a line, `widest` being the widest seen so far -/
  | indentation (widest : Nat)
  /-- the content of a line -/
  | content

/-- A block scalar so far. -/
structure BlockText where
  /-- the characters, the last first -/
  seen : List Char
  /-- the break behind the last line of content -/
  lineBreak : Option Char
  /-- the breaks behind that one, the last first -/
  breaks : List Char
  /-- the last line of content starts with a blank -/
  blankStart : Bool

namespace BlockText

def empty : BlockText := ⟨[], none, [], false⟩

/-- Starts a line of content with a character. In a folded scalar a line feed between two lines that
    start with no blank becomes a blank. -/
def startLine (b : BlockText) (literal : Bool) (c : Char) : BlockText :=
  let between : List Char :=
    if !literal && b.lineBreak = some '\n' && !b.blankStart && !isBlank c then
      if b.breaks.isEmpty then [' '] else b.breaks.reverse
    else b.lineBreak.toList ++ b.breaks.reverse
  ⟨c :: (between.reverse ++ b.seen), none, [], isBlank c⟩

/-- The characters with the breaks at the end chomped. -/
def finish (b : BlockText) (chomping : Chomping) : List Char :=
  b.seen.reverse ++
    (if chomping = .strip then [] else b.lineBreak.toList) ++
    (if chomping = .keep then b.breaks.reverse else [])

end BlockText

/-- Walks over a block scalar behind its header. `indent` is the indentation of its lines, zero as
    long as it is unknown; it then is that of the first line with content, but at least `least`. -/
def blockFrom (literal : Bool) (chomping : Chomping) (least : Nat) (indent : Nat) (mode : BlockMode)
    (b : BlockText) : List Glyph → Option (List Char × List Glyph)
  | [] => some (b.finish chomping, [])
  | g :: gs =>
    let c := g.char
    match mode with
    | .content =>
      if isBreak c then
        blockFrom literal chomping least indent (.indentation 0) { b with lineBreak := some c } gs
      else if c = endChar then some (b.finish chomping, g :: gs)
      else blockFrom literal chomping least indent .content { b with seen := c :: b.seen } gs
    | .indentation widest =>
      let open? := indent == 0 || g.mark.column < indent
      if open? && c = ' ' then
        blockFrom literal chomping least indent (.indentation widest) b gs
      else if open? && c = '\t' then none
      else
        let widest := max widest g.mark.column
        if isBreak c then
          blockFrom literal chomping least indent (.indentation widest)
            { b with breaks := c :: b.breaks } gs
        else
          let indent := if indent == 0 then max widest (max least 1) else indent
          if g.mark.column == indent && c != endChar then
            blockFrom literal chomping least indent .content (b.startLine literal c) gs
          else some (b.finish chomping, g :: gs)

end Scorecard.Yaml

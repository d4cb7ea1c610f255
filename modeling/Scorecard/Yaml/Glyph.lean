/-!
# Characters with their places

YAML gives meaning to the column of a character and to whether two characters share a line. A text
is therefore turned into glyphs, characters that know their place; every line break but the two
Unicode separators becomes a line feed, and the text ends in a glyph of the character zero, which
no admissible text contains.
-/

namespace Scorecard.Yaml

/-- A place in a text: line, column and number of UTF-8 octets before it, all from zero. -/
structure Mark where
  line : Nat
  column : Nat
  index : Nat

/-- A character at its place. -/
structure Glyph where
  char : Char
  mark : Mark

/-- The character that ends a text. -/
def endChar : Char := Char.ofNat 0

/-- The mark of byte order, which may start a line. -/
def byteOrderMark : Char := Char.ofNat 0xFEFF

/-- The characters that a text may consist of. -/
def isAdmissible (c : Char) : Bool :=
  let n := c.toNat
  n = 9 || n = 10 || n = 13 || (32 ≤ n && n ≤ 126) || n = 0x85 || (0xA0 ≤ n && n ≤ 0xD7FF) ||
    (0xE000 ≤ n && n ≤ 0xFFFD) || 0x10000 ≤ n

/-- How many collections may stand inside one another, aliases included. -/
def deepest : Nat := 128

/-- A line break, as it stands in a text. -/
def isRawBreak (c : Char) : Bool :=
  c = '\n' || c = '\r' || c.toNat = 0x85 || c.toNat = 0x2028 || c.toNat = 0x2029

/-- A line break as a glyph has it. -/
def isBreak (c : Char) : Bool := c = '\n' || c.toNat = 0x2028 || c.toNat = 0x2029

/-- The glyph of a line break. -/
def glyphOfBreak (c : Char) : Char := if c.toNat = 0x2028 ∨ c.toNat = 0x2029 then c else '\n'

def isBlank (c : Char) : Bool := c = ' ' || c = '\t'

def isBreakOrEnd (c : Char) : Bool := isBreak c || c = endChar

def isBlankOrEnd (c : Char) : Bool := isBlank c || isBreakOrEnd c

/-- A character of the names of anchors and tag handles. -/
def isWordChar (c : Char) : Bool := c.isAlphanum || c = '-' || c = '_'

/-- The glyphs of a text that starts at a mark. -/
def glyphsFrom (mark : Mark) : List Char → List Glyph
  | [] => [⟨endChar, mark⟩]
  | '\r' :: '\n' :: rest => ⟨'\n', mark⟩ :: glyphsFrom ⟨mark.line + 1, 0, mark.index + 2⟩ rest
  | c :: rest =>
    if isRawBreak c then
      ⟨glyphOfBreak c, mark⟩ :: glyphsFrom ⟨mark.line + 1, 0, mark.index + c.utf8Size⟩ rest
    else ⟨c, mark⟩ :: glyphsFrom ⟨mark.line, mark.column + 1, mark.index + c.utf8Size⟩ rest

/-- The glyphs of a text, if all its characters are admissible. -/
def glyphs? (cs : List Char) : Option (List Glyph) :=
  if cs.all isAdmissible then some (glyphsFrom ⟨0, 0, 0⟩ cs) else none

/-- The character so many places ahead. -/
def charAt (ahead : Nat) (gs : List Glyph) : Char :=
  match gs[ahead]? with
  | some g => g.char
  | none => endChar

/-- The place where the glyphs start. -/
def markOf : List Glyph → Mark
  | g :: _ => g.mark
  | [] => ⟨0, 0, 0⟩

/-- The line starts with three of a character and then a blank or nothing. -/
def isTripleAt (c : Char) (gs : List Glyph) : Bool :=
  (markOf gs).column == 0 && charAt 0 gs == c && charAt 1 gs == c && charAt 2 gs == c &&
    isBlankOrEnd (charAt 3 gs)

/-- A line that starts or ends a document. -/
def isDocumentIndicator (gs : List Glyph) : Bool := isTripleAt '-' gs || isTripleAt '.' gs

/-- The characters at the front that satisfy a test, and the glyphs behind them. -/
def spanGlyphs (p : Char → Bool) (gs : List Glyph) : List Char × List Glyph :=
  ((gs.takeWhile fun g => p g.char).map Glyph.char, gs.dropWhile fun g => p g.char)

/-- The glyphs behind blanks. -/
def skipBlanks (gs : List Glyph) : List Glyph := gs.dropWhile fun g => isBlank g.char

/-- The glyphs behind blanks, a comment and the end of the line; anything else is refused. -/
def restOfLine? (gs : List Glyph) : Option (List Glyph) :=
  let gs := skipBlanks gs
  let gs := if charAt 0 gs = '#' then gs.dropWhile fun g => !isBreakOrEnd g.char else gs
  if isBreak (charAt 0 gs) then some (gs.drop 1)
  else if charAt 0 gs = endChar then some gs
  else none

end Scorecard.Yaml

import Scorecard.Value

/-!
# Writing trees as JSON

`compact` writes a tree without any blanks, `pretty` one entry or item a line, indented by two
blanks a level. Entries are written in the order in which the object holds them. A text is escaped
no further than it has to be: quotes, backslashes and the control characters below the blank.
-/

namespace Scorecard.Json

/-- A digit of a `\u` escape; lower case. -/
def hexDigit (n : Nat) : Char := Nat.digitChar (n % 16)

/-- How a character stands between quotes. -/
def escapeChar (c : Char) : List Char :=
  if c = '"' then ['\\', '"']
  else if c = '\\' then ['\\', '\\']
  else if c = '\n' then ['\\', 'n']
  else if c = '\r' then ['\\', 'r']
  else if c = '\t' then ['\\', 't']
  else if c.toNat = 8 then ['\\', 'b']
  else if c.toNat = 12 then ['\\', 'f']
  else if c.toNat < 32 then ['\\', 'u', '0', '0', hexDigit (c.toNat / 16), hexDigit c.toNat]
  else [c]

/-- A text between quotes. -/
def quote (s : String) : String :=
  String.ofList ('"' :: s.toList.flatMap escapeChar ++ ['"'])

/-- The text of a value that holds no others, and of the two empty collections. -/
def leafText : Value → String
  | .null => "null"
  | .bool true => "true"
  | .bool false => "false"
  | .number n => n.toText
  | .text s => quote s
  | .list _ => "[]"
  | .object _ => "\x7b\x7d"

mutual

/-- The pieces of a tree without any blanks between them. -/
def compactPieces : Value → List String
  | .list (v :: rest) => "[" :: (compactPieces v ++ compactItems rest)
  | .object ((k, v) :: rest) => "\x7b" :: quote k :: ":" :: (compactPieces v ++ compactEntries rest)
  | v => [leafText v]

/-- The pieces of the items behind the first, and the end of their list. -/
def compactItems : List Value → List String
  | [] => ["]"]
  | v :: rest => "," :: (compactPieces v ++ compactItems rest)

/-- The pieces of the entries behind the first, and the end of their object. -/
def compactEntries : List (String × Value) → List String
  | [] => ["\x7d"]
  | (k, v) :: rest => "," :: quote k :: ":" :: (compactPieces v ++ compactEntries rest)

end

/-- The tree without any blanks. -/
def compact (v : Value) : String := String.join (compactPieces v)

/-- A line break and the indentation of a level. -/
def newLine (level : Nat) : String := String.ofList ('\n' :: List.replicate (2 * level) ' ')

mutual

/-- The pieces of a tree that stands at a level; empty collections stay on their line. -/
def prettyPieces (level : Nat) : Value → List String
  | .list (v :: rest) =>
    "[" :: newLine (level + 1) :: (prettyPieces (level + 1) v ++ prettyItems level rest)
  | .object ((k, v) :: rest) =>
    "\x7b" :: newLine (level + 1) :: quote k :: ": " ::
      (prettyPieces (level + 1) v ++ prettyEntries level rest)
  | v => [leafText v]

/-- The pieces of the items behind the first, and the end of their list, which stands at a level. -/
def prettyItems (level : Nat) : List Value → List String
  | [] => [newLine level, "]"]
  | v :: rest =>
    "," :: newLine (level + 1) :: (prettyPieces (level + 1) v ++ prettyItems level rest)

/-- The pieces of the entries behind the first, and the end of their object, which stands at a
    level. -/
def prettyEntries (level : Nat) : List (String × Value) → List String
  | [] => [newLine level, "\x7d"]
  | (k, v) :: rest =>
    "," :: newLine (level + 1) :: quote k :: ": " ::
      (prettyPieces (level + 1) v ++ prettyEntries level rest)

end

/-- The tree over several lines. -/
def pretty (v : Value) : String := String.join (prettyPieces 0 v)

end Scorecard.Json

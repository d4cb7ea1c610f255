import Scorecard.Json.Reader
import Scorecard.Timestamp

/-!
# Reading TOML

Settings come in a TOML file. Only texts and the names of settings matter here; other values are
checked for their form and then forgotten. A setting may not be given twice, a table not be opened
twice, and a table that is given by dotted names or in braces not be extended by a header. Lists
and braces may stand at most 79 inside one another, and a dotted name has at most 79 parts.
-/

namespace Scorecard

/-- A value of a settings file. -/
inductive Setting where
  /-- a text -/
  | text (value : String)
  /-- a boolean, a number, a date, a list, or a table in braces -/
  | other
  /-- a table; `implied` if only its members have been named so far, `dotted` if by dotted names -/
  | table (implied dotted : Bool) (entries : List (String × Setting))
  /-- a list of tables, of which only the last can still be extended -/
  | tables (last : List (String × Setting))

namespace Toml

/-- Settings by name. -/
abbrev Settings := List (String × Setting)

/-! ## Settings -/

/-- Replaces the setting of a name or adds it. -/
def replace (name : String) (s : Setting) : Settings → Settings
  | [] => [(name, s)]
  | (n, t) :: rest => if n = name then (n, s) :: rest else (n, t) :: replace name s rest

/-- Changes the table that a path of names leads to, making tables on the way. `dotted` tells
    whether the path is a dotted name, which leads only through tables made by such names or
    implied; `change` also learns whether the table was made by a dotted name. -/
def within (dotted : Bool) (change : Bool → Settings → Option Settings) :
    List String → Bool → Settings → Option Settings
  | [], madeDotted, settings => change madeDotted settings
  | name :: rest, _, settings =>
    match settings.lookup name with
    | none => do
      let inner ← within dotted change rest dotted []
      return replace name (.table true dotted inner) settings
    | some (.table implied madeDotted inner) => do
      if dotted && !implied then none
      let inner ← within dotted change rest madeDotted inner
      return replace name (.table implied madeDotted inner) settings
    | some (.tables last) => do
      let inner ← within dotted change rest false last
      return replace name (.tables inner) settings
    | some _ => none

/-- Gives a setting a value, its name being the last of a dotted name. -/
def assign (path : List String) (name : String) (s : Setting) (settings : Settings) :
    Option Settings :=
  within true (fun madeDotted inner =>
    if madeDotted == path.isEmpty || (inner.lookup name).isSome then none
    else some (inner ++ [(name, s)])) path false settings

/-- Opens the table of a header, whose last name is `name`. -/
def openTable (path : List String) (name : String) (settings : Settings) : Option Settings :=
  within false (fun _ inner =>
    match inner.lookup name with
    | none => some (inner ++ [(name, .table false false [])])
    | some (.table true false entries) => some (replace name (.table false false entries) inner)
    | some _ => none) path false settings

/-- Adds a table to the list of tables of a header, whose last name is `name`. -/
def addTable (path : List String) (name : String) (settings : Settings) : Option Settings :=
  within false (fun _ inner =>
    match inner.lookup name with
    | none => some (inner ++ [(name, .tables [])])
    | some (.tables _) => some (replace name (.tables []) inner)
    | some _ => none) path false settings

/-! ## Blanks and line ends -/

def isBlank (c : Char) : Bool := c = ' ' || c = '\t'

def skipBlanks (cs : List Char) : List Char := cs.dropWhile isBlank

/-- A character that may stand in a comment or a text: a tab, or none of the control characters. -/
def isPrintable (c : Char) : Bool := c = '\t' || (32 ≤ c.toNat && c.toNat ≠ 127)

/-- What follows a line break, if one is in front. -/
def lineBreak? : List Char → Option (List Char)
  | '\n' :: rest => some rest
  | '\r' :: '\n' :: rest => some rest
  | _ => none

/-- What follows a comment, if one is in front. -/
def skipComment : List Char → List Char
  | '#' :: rest => rest.dropWhile isPrintable
  | cs => cs

/-- What follows blanks, a comment and the end of the line. -/
def endOfLine? (cs : List Char) : Option (List Char) :=
  match skipComment (skipBlanks cs) with
  | [] => some []
  | cs => lineBreak? cs

/-- What follows blanks and line breaks. -/
def skipBlankLines : List Char → List Char
  | ' ' :: rest => skipBlankLines rest
  | '\t' :: rest => skipBlankLines rest
  | '\n' :: rest => skipBlankLines rest
  | '\r' :: '\n' :: rest => skipBlankLines rest
  | cs => cs

/-- What follows blanks, comments and line breaks. -/
def skipLines : Nat → List Char → List Char
  | 0, cs => cs
  | bound + 1, cs =>
    let cs := skipComment (skipBlanks cs)
    match lineBreak? cs with
    | some rest => skipLines bound rest
    | none => cs

/-! ## Texts -/

/-- The character of a number of hexadecimal digits, if it is one. -/
def charOfHex? (ds : List Char) : Option Char := do
  let n ← ds.foldlM (fun n d => do return n * 16 + (← Json.hexValue? d)) 0
  if n < 0xD800 ∨ (0xDFFF < n ∧ n ≤ 0x10FFFF) then some (Char.ofNat n) else none

/-- The character behind a backslash and the rest. -/
def escape? : List Char → Option (Char × List Char)
  | 'b' :: rest => some (Char.ofNat 8, rest)
  | 't' :: rest => some ('\t', rest)
  | 'n' :: rest => some ('\n', rest)
  | 'f' :: rest => some (Char.ofNat 12, rest)
  | 'r' :: rest => some ('\r', rest)
  | '"' :: rest => some ('"', rest)
  | '\\' :: rest => some ('\\', rest)
  | 'u' :: rest => if rest.length < 4 then none else (charOfHex? (rest.take 4)).map (·, rest.drop 4)
  | 'U' :: rest => if rest.length < 8 then none else (charOfHex? (rest.take 8)).map (·, rest.drop 8)
  | _ => none

/-- A text of one line behind its opening quote; only double quotes know escapes. -/
def lineText? (quote : Char) : Nat → List Char → Option (List Char × List Char)
  | 0, _ => none
  | bound + 1, cs =>
    match cs with
    | [] => none
    | c :: rest =>
      if c = quote then some ([], rest)
      else if c = '\\' && quote = '"' then do
        let (e, rest) ← escape? rest
        let (s, rest) ← lineText? quote bound rest
        return (e :: s, rest)
      else if isPrintable c then do
        let (s, rest) ← lineText? quote bound rest
        return (c :: s, rest)
      else none

/-- A text of several lines behind its three opening quotes. A backslash at the end of a line hides
    the break and all blanks and breaks behind it. Up to two quotes may stand before the closing
    ones. -/
def blockText? (quote : Char) : Nat → List Char → Option (List Char × List Char)
  | 0, _ => none
  | bound + 1, cs =>
    let quotes := (cs.takeWhile (· = quote)).length
    if 3 ≤ quotes then
      if quotes ≤ 5 then some (List.replicate (quotes - 3) quote, cs.drop quotes) else none
    else
      match cs with
      | [] => none
      | c :: rest =>
        match lineBreak? cs with
        | some rest => do
          let (s, rest) ← blockText? quote bound rest
          return ('\n' :: s, rest)
        | none =>
          if c = '\\' && quote = '"' then
            match lineBreak? (skipBlanks rest) with
            | some rest => blockText? quote bound (skipBlankLines rest)
            | none => do
              let (e, rest) ← escape? rest
              let (s, rest) ← blockText? quote bound rest
              return (e :: s, rest)
          else if isPrintable c then do
            let (s, rest) ← blockText? quote bound rest
            return (c :: s, rest)
          else none

/-- A text of either quote, of one line or, behind three quotes, of several. -/
def text? (quote : Char) (cs : List Char) : Option (List Char × List Char) :=
  if [quote, quote, quote].isPrefixOf cs then
    let body := cs.drop 3
    blockText? quote (body.length + 1) ((lineBreak? body).getD body)
  else lineText? quote cs.length (cs.drop 1)

/-! ## Names -/

def isBareChar (c : Char) : Bool := c.isAlphanum || c = '_' || c = '-'

/-- One part of a name: bare, or a text of one line. -/
def namePart? (cs : List Char) : Option (String × List Char) :=
  match cs with
  | '"' :: rest => (lineText? '"' cs.length rest).map fun p => (String.ofList p.1, p.2)
  | '\'' :: rest => (lineText? '\'' cs.length rest).map fun p => (String.ofList p.1, p.2)
  | _ =>
    match cs.takeWhile isBareChar with
    | [] => none
    | name => some (String.ofList name, cs.dropWhile isBareChar)

/-- How many lists and braces may stand inside one another, and how many parts a name may have. -/
def deepest : Nat := 79

/-- A dotted name of at most so many parts, as its path and its last part. -/
def partsOfName? : Nat → List Char → Option (List String × String × List Char)
  | 0, _ => none
  | parts + 1, cs => do
    let (part, rest) ← namePart? (skipBlanks cs)
    match skipBlanks rest with
    | '.' :: rest =>
      let (path, last, rest) ← partsOfName? parts rest
      return (part :: path, last, rest)
    | rest => return ([], part, rest)

/-- A dotted name. -/
def name? (cs : List Char) : Option (List String × String × List Char) := partsOfName? deepest cs

/-! ## Other values -/

/-- The digits of a number, with single underscores only between two of them. -/
def isDigitRun (isDigit : Char → Bool) : List Char → Bool
  | [] => false
  | [d] => isDigit d
  | d :: '_' :: rest => isDigit d && isDigitRun isDigit rest
  | d :: rest => isDigit d && isDigitRun isDigit rest

/-- The characters behind a sign in front. -/
def unsigned : List Char → List Char
  | '+' :: rest => rest
  | '-' :: rest => rest
  | cs => cs

/-- A decimal number without a zero in front of other digits. -/
def isWhole (cs : List Char) : Bool :=
  isDigitRun Char.isDigit cs && (cs.length == 1 || cs.head? != some '0')

/-- The number that digits with underscores denote. -/
def runValue (base : Nat) (cs : List Char) : Nat :=
  cs.foldl (fun n c => match Json.hexValue? c with | some d => n * base + d | none => n) 0

/-- Digits of another base that fit 63 bits. -/
def isBased (base : Nat) (cs : List Char) : Bool :=
  isDigitRun (fun c => (Json.hexValue? c).any (· < base)) cs && runValue base cs < 9223372036854775808

/-- An integer of 64 bits. -/
def isInteger (cs : List Char) : Bool :=
  match cs with
  | '0' :: 'x' :: ds => isBased 16 ds
  | '0' :: 'o' :: ds => isBased 8 ds
  | '0' :: 'b' :: ds => isBased 2 ds
  | _ =>
    isWhole (unsigned cs) &&
      runValue 10 (unsigned cs) < 9223372036854775808 + (if cs.head? == some '-' then 1 else 0)

/-- A number with a fraction or an exponent that is not rounded to the positive infinity, or an
    infinity or not-a-number by name. -/
def isFloat (cs : List Char) : Bool :=
  let body := unsigned cs
  let mantissa := body.takeWhile fun c => c ≠ 'e' && c ≠ 'E'
  let power := (body.dropWhile fun c => c ≠ 'e' && c ≠ 'E').drop 1
  let whole := mantissa.takeWhile (· ≠ '.')
  let fraction := (mantissa.dropWhile (· ≠ '.')).drop 1
  let negative := cs.head? == some '-'
  let digits := runValue 10 (whole ++ fraction)
  let exponent : Int := runValue 10 (unsigned power)
  let scale := (if power.head? == some '-' then -exponent else exponent) -
    ((fraction.filter Char.isDigit).length : Int)
  body == "inf".toList || body == "nan".toList ||
    (isWhole whole && (mantissa == whole || isDigitRun Char.isDigit fraction) &&
      (body == mantissa || isDigitRun Char.isDigit (unsigned power)) && body != whole &&
      (negative || (Binary64.nearest false digits scale).isFinite))

/-- The digits follow a pattern in which `0` stands for any digit. -/
def fits (pattern : String) (cs : List Char) : Bool :=
  pattern.length == cs.length &&
    (pattern.toList.zip cs).all fun p => if p.1 = '0' then p.2.isDigit else p.1 == p.2

/-- A number of two digits that lies in a range. -/
def pairWithin (cs : List Char) (least greatest : Nat) : Bool :=
  let n := digitsValue (cs.take 2)
  least ≤ n && n ≤ greatest

/-- A day of the calendar. -/
def isDate (cs : List Char) : Bool :=
  fits "0000-00-00" cs && pairWithin (cs.drop 5) 1 12 &&
    pairWithin (cs.drop 8) 1
      (daysInMonth (digitsValue (cs.take 4)) (digitsValue ((cs.drop 5).take 2)))

def isTime (cs : List Char) : Bool :=
  fits "00:00:00" (cs.take 8) && pairWithin cs 0 23 && pairWithin (cs.drop 3) 0 59 &&
    pairWithin (cs.drop 6) 0 60 &&
    (match cs.drop 8 with
      | [] => true
      | '.' :: ds => !ds.isEmpty && ds.all Char.isDigit
      | _ => false)

def isOffset (cs : List Char) : Bool :=
  cs.isEmpty || cs == ['Z'] || cs == ['z'] ||
    ((fits "+00:00" cs || fits "-00:00" cs) && pairWithin (cs.drop 1) 0 23 &&
      pairWithin (cs.drop 4) 0 59)

/-- A time with an optional offset. -/
def isTimeWithOffset (cs : List Char) : Bool :=
  let clock := cs.takeWhile fun c => c.isDigit || c = ':' || c = '.'
  isTime clock && isOffset (cs.drop clock.length)

/-- A date, a time, or both with an optional offset. -/
def isMoment (cs : List Char) : Bool :=
  isDate cs || isTime cs ||
    (isDate (cs.take 10) && (cs.drop 10).head?.any (fun c => c = 'T' || c = 't' || c = ' ') &&
      isTimeWithOffset (cs.drop 11))

/-- A word of a value without quotes or brackets. -/
def isWordChar (c : Char) : Bool :=
  c.isAlphanum || c = '_' || c = '-' || c = '+' || c = '.' || c = ':'

/-- Such a word; a date and a time may have a blank between them. -/
def word (cs : List Char) : List Char :=
  let first := cs.takeWhile isWordChar
  match cs.drop first.length with
  | ' ' :: d :: _ =>
    if isDate first && d.isDigit then
      first ++ ' ' :: (cs.drop (first.length + 1)).takeWhile isWordChar
    else first
  | _ => first

mutual

/-- A value. The first argument bounds the nested calls; `depth` more lists and braces are allowed
    inside one another. -/
def value? : Nat → Nat → List Char → Option (Setting × List Char)
  | 0, _, _ => none
  | bound + 1, depth, cs =>
    match cs with
    | '"' :: _ => (text? '"' cs).map fun p => (.text (String.ofList p.1), p.2)
    | '\'' :: _ => (text? '\'' cs).map fun p => (.text (String.ofList p.1), p.2)
    | '[' :: rest =>
      match depth with
      | 0 => none
      | depth + 1 => items? bound depth rest
    | '\x7b' :: rest =>
      match depth with
      | 0 => none
      | depth + 1 =>
        match skipBlanks rest with
        | '\x7d' :: rest => some (.other, rest)
        | rest => members? bound depth [] rest
    | _ =>
      let w := word cs
      if w == "true".toList || w == "false".toList || isInteger w || isFloat w || isMoment w then
        some (.other, cs.drop w.length)
      else none

/-- The items of a list up to its closing bracket. -/
def items? : Nat → Nat → List Char → Option (Setting × List Char)
  | 0, _, _ => none
  | bound + 1, depth, cs =>
    match skipLines cs.length cs with
    | ']' :: rest => some (.other, rest)
    | cs => do
      let (_, rest) ← value? bound depth cs
      match skipLines rest.length rest with
      | ',' :: rest => items? bound depth rest
      | ']' :: rest => return (.other, rest)
      | _ => none

/-- The members of a table in braces, at least one, up to the closing brace. -/
def members? : Nat → Nat → Settings → List Char → Option (Setting × List Char)
  | 0, _, _, _ => none
  | bound + 1, depth, settings, cs => do
    let (path, name, rest) ← name? cs
    match rest with
    | '=' :: rest =>
      let (v, rest) ← value? bound depth (skipBlanks rest)
      let settings ← assign path name v settings
      match skipBlanks rest with
      | ',' :: rest => members? bound depth settings rest
      | '\x7d' :: rest => return (.other, rest)
      | _ => none
    | _ => none

end

/-! ## Documents -/

/-- A header between brackets, up to the end of its line. -/
def header? (cs : List Char) (closing : List Char) : Option (List String × String × List Char) := do
  let (path, name, rest) ← name? cs
  if closing.isPrefixOf rest then return (path, name, ← endOfLine? (rest.drop closing.length))
  else none

/-- The lines of a document; `current` is the table that the last header opened. -/
def lines? : Nat → List String → Settings → List Char → Option Settings
  | 0, _, _, _ => none
  | bound + 1, current, settings, cs =>
    match skipLines cs.length cs with
    | [] => some settings
    | '[' :: '[' :: rest => do
      let (path, name, rest) ← header? rest [']', ']']
      lines? bound (path ++ [name]) (← addTable path name settings) rest
    | '[' :: rest => do
      let (path, name, rest) ← header? rest [']']
      lines? bound (path ++ [name]) (← openTable path name settings) rest
    | cs => do
      let (path, name, rest) ← name? cs
      match rest with
      | '=' :: rest =>
        let (v, rest) ← value? (rest.length + 1) deepest (skipBlanks rest)
        let rest ← endOfLine? rest
        let settings ← within false (fun _ inner => assign path name v inner) current false settings
        lines? bound current settings rest
      | _ => none

/-- The settings of a document. A mark of byte order in front is passed over. -/
def read? (text : String) : Option Settings :=
  let cs := text.toList
  let cs := if cs.head? = some (Char.ofNat 0xFEFF) then cs.drop 1 else cs
  lines? (cs.length + 1) [] [] cs

/-! Comments and other settings are passed over; a setting is not given twice, and a day has to be
    one of the calendar. -/

example : (read? "# c\na = 1\n[b]\nc = 'x'\n").isSome = true := by decide +kernel
example : (read? "a = 1\na = 2\n").isNone = true := by decide +kernel
example : (read? "a = 2023-02-29\n").isNone = true := by decide +kernel

end Toml
end Scorecard

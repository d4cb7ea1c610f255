import Scorecard.Digits
import Scorecard.Value

/-!
# Reading JSON

`read?` accepts exactly one JSON text: no byte-order mark, no comment, no trailing comma, at most
127 collections inside one another, no lone surrogate escape and no number beyond the doubles.
A number that is no integer is read in few steps, each of which rounds: of its digits those are
kept that fit 64 bits, and their double is multiplied or divided by that of a power of ten. So the
result may lie beside the nearest double. Each reader below takes the characters from where it
stands and gives back those it leaves.
-/

namespace Scorecard.Json

/-- Blank, tab and the two line breaks. -/
def isBlank (c : Char) : Bool := c = ' ' || c = '\t' || c = '\n' || c = '\r'

def skipBlanks (cs : List Char) : List Char := cs.dropWhile isBlank

/-- The value of a hexadecimal digit of either case. -/
def hexValue? (c : Char) : Option Nat :=
  if '0' ≤ c ∧ c ≤ '9' then some (c.toNat - 48)
  else if 'a' ≤ c ∧ c ≤ 'f' then some (c.toNat - 87)
  else if 'A' ≤ c ∧ c ≤ 'F' then some (c.toNat - 55)
  else none

/-- The value of four hexadecimal digits. -/
def hexUnit? (a b c d : Char) : Option Nat := do
  let a ← hexValue? a
  let b ← hexValue? b
  let c ← hexValue? c
  let d ← hexValue? d
  return ((a * 16 + b) * 16 + c) * 16 + d

/-- The character that an escape of one letter stands for. -/
def simpleEscape? : Char → Option Char
  | '"' => some '"'
  | '\\' => some '\\'
  | '/' => some '/'
  | 'b' => some (Char.ofNat 8)
  | 'f' => some (Char.ofNat 12)
  | 'n' => some '\n'
  | 'r' => some '\r'
  | 't' => some '\t'
  | _ => none

/-- The characters up to the closing quote, escapes resolved. A `\u` escape of a high surrogate
    needs one of a low surrogate right behind it; a low one alone is refused. -/
def stringBody : List Char → Option (List Char × List Char)
  | [] => none
  | '"' :: rest => some ([], rest)
  | '\\' :: 'u' :: a :: b :: c :: d :: rest => do
    let unit ← hexUnit? a b c d
    if 0xDC00 ≤ unit ∧ unit ≤ 0xDFFF then none
    else if 0xD800 ≤ unit ∧ unit ≤ 0xDBFF then
      match rest with
      | '\\' :: 'u' :: e :: f :: g :: h :: rest =>
        let low ← hexUnit? e f g h
        if 0xDC00 ≤ low ∧ low ≤ 0xDFFF then
          let (s, left) ← stringBody rest
          return (Char.ofNat (0x10000 + (unit - 0xD800) * 0x400 + (low - 0xDC00)) :: s, left)
        else none
      | _ => none
    else
      let (s, left) ← stringBody rest
      return (Char.ofNat unit :: s, left)
  | '\\' :: c :: rest => do
    let e ← simpleEscape? c
    let (s, left) ← stringBody rest
    return (e :: s, left)
  | c :: rest =>
    if c.toNat < 32 || c = '\\' then none
    else do
      let (s, left) ← stringBody rest
      return (c :: s, left)

/-- The fraction behind a point, if there is one; a point needs a digit. -/
def fraction? : List Char → Option (List Char × List Char)
  | '.' :: cs =>
    match spanDigits cs with
    | ([], _) => none
    | found => some found
  | cs => some ([], cs)

/-- The power of ten behind an exponent mark, if there is one. -/
def exponent? : List Char → Option (Option Int × List Char)
  | c :: cs =>
    if c = 'e' || c = 'E' then
      let (negative, cs) := match cs with
        | '-' :: cs => (true, cs)
        | '+' :: cs => (false, cs)
        | cs => (false, cs)
      match spanDigits cs with
      | ([], _) => none
      | (ds, rest) =>
        let power : Int := digitsValue ds
        some (some (if negative then -power else power), rest)
    else some (none, c :: cs)
  | [] => some (none, [])

/-- The digits before the point; a zero stands alone. -/
def whole? : List Char → Option (List Char × List Char)
  | '0' :: cs => some (['0'], cs)
  | cs =>
    match spanDigits cs with
    | ([], _) => none
    | found => some found

/-- The greatest number of 64 bits. -/
def greatestWord : Nat := 18446744073709551615

/-- A run of digits behind a number, of which the digits at the front that keep it within 64 bits
    are taken in: the number, and how many digits are left. -/
def takeDigits (n : Nat) : List Char → Nat × Nat
  | [] => (n, 0)
  | d :: ds =>
    let m := 10 * n + (d.toNat - 48)
    if m ≤ greatestWord then takeDigits m ds else (n, ds.length + 1)

/-- The double of `± digits · 10 ^ scale`, unless it is infinite. One that is scaled far down is
    divided twice, and vanishes if that is not enough. -/
def scaled? (negative : Bool) (digits : Nat) (scale : Int) : Option Binary64 :=
  let x := Binary64.ofInt digits
  let powerOfTen (k : Int) : Binary64 := Binary64.nearest false 1 k
  if digits = 0 ∨ scale < -616 then some (Binary64.nearest negative 0 0)
  else if 308 < scale then none
  else
    let y :=
      if 0 ≤ scale then x.product (powerOfTen scale)
      else if -308 ≤ scale then x.quotient (powerOfTen (-scale))
      else (x.quotient (powerOfTen 308)).quotient (powerOfTen (-scale - 308))
    if y.isFinite then some (y.withSign negative) else none

/-- The double that digits before and behind the point and a power of ten denote. The digits before
    the point that are left out count as zeros; those behind it do not count. -/
def double? (negative : Bool) (whole fraction : List Char) (power : Int) : Option Binary64 :=
  let (n, leftOut) := takeDigits 0 whole
  let (n, unused) := takeDigits n fraction
  scaled? negative n (power + (leftOut : Int) - ((fraction.length - unused : Nat) : Int))

/-- A number without its sign. Only a token of digits alone is an integer, and minus zero and
    integers of more than 64 bits are doubles. -/
def unsigned? (negative : Bool) (cs : List Char) : Option (Number × List Char) := do
  let (ds, cs) ← whole? cs
  let (fs, cs) ← fraction? cs
  let (power, cs) ← exponent? cs
  let asDouble : Option Number :=
    (double? negative ds fs (power.getD 0)).bind Number.ofBinary64?
  if fs.isEmpty && power.isNone && !(negative && digitsValue ds == 0) then
    let i : Int := digitsValue ds
    match Number.ofInt? (if negative then -i else i) with
    | some n => return (n, cs)
    | none => return (← asDouble, cs)
  else return (← asDouble, cs)

/-- A number. -/
def number? : List Char → Option (Number × List Char)
  | '-' :: cs => unsigned? true cs
  | cs => unsigned? false cs

/-- What is left behind a word, if the word is in front. -/
def after? (word : List Char) (cs : List Char) : Option (List Char) :=
  if word.isPrefixOf cs then some (cs.drop word.length) else none

/-- How many collections may stand inside one another. -/
def deepest : Nat := 127

mutual

/-- A value, `depth` more collections being allowed inside one another. The first argument bounds
    the calls; as each consumes a character, the length of the text is enough. -/
def value? : Nat → Nat → List Char → Option (Value × List Char)
  | 0, _, _ => none
  | bound + 1, depth, cs =>
    match skipBlanks cs with
    | '"' :: cs => do
      let (s, cs) ← stringBody cs
      return (.text (String.ofList s), cs)
    | '[' :: cs =>
      match depth with
      | 0 => none
      | depth + 1 =>
        match skipBlanks cs with
        | ']' :: cs => some (.list [], cs)
        | cs => do
          let (vs, cs) ← items? bound depth cs
          return (.list vs, cs)
    | '\x7b' :: cs =>
      match depth with
      | 0 => none
      | depth + 1 =>
        match skipBlanks cs with
        | '\x7d' :: cs => some (.object [], cs)
        | cs => do
          let (es, cs) ← entries? bound depth cs
          return (Value.ofEntries es, cs)
    | 'n' :: cs => do return (.null, ← after? ['u', 'l', 'l'] cs)
    | 't' :: cs => do return (.bool true, ← after? ['r', 'u', 'e'] cs)
    | 'f' :: cs => do return (.bool false, ← after? ['a', 'l', 's', 'e'] cs)
    | cs => do
      let (n, cs) ← number? cs
      return (.number n, cs)

/-- The items up to the closing bracket, at least one. -/
def items? : Nat → Nat → List Char → Option (List Value × List Char)
  | 0, _, _ => none
  | bound + 1, depth, cs => do
    let (v, cs) ← value? bound depth cs
    match skipBlanks cs with
    | ',' :: cs =>
      let (vs, cs) ← items? bound depth cs
      return (v :: vs, cs)
    | ']' :: cs => return ([v], cs)
    | _ => none

/-- The entries up to the closing brace, at least one, in the order of the text. -/
def entries? : Nat → Nat → List Char → Option (List (String × Value) × List Char)
  | 0, _, _ => none
  | bound + 1, depth, cs =>
    match skipBlanks cs with
    | '"' :: cs => do
      let (k, cs) ← stringBody cs
      match skipBlanks cs with
      | ':' :: cs =>
        let (v, cs) ← value? bound depth cs
        match skipBlanks cs with
        | ',' :: cs =>
          let (es, cs) ← entries? bound depth cs
          return ((String.ofList k, v) :: es, cs)
        | '\x7d' :: cs => return ([(String.ofList k, v)], cs)
        | _ => none
      | _ => none
    | _ => none

end

/-- The tree that a JSON text denotes. -/
def read? (text : String) : Option Value := do
  let cs := text.toList
  let (v, left) ← value? (2 * cs.length + 2) deepest cs
  if (skipBlanks left).isEmpty then some v else none

/-! A repeated key takes its last value; minus zero is a double; nothing may follow the text. The
    double of a small decimal lies beside the nearest one. -/

example : (read? "\x7b\"a\":1, \"a\":[]\x7d" == some (.object [("a", .list [])])) = true := by
  decide +kernel

example : (read? "-0" == some (.ofBinary64 (.nearest true 0 0))) = true := by decide +kernel
example : (read? "2e-30" == some (.ofBinary64 (.nearest false 19999999999999998 (-46)))) = true := by
  decide +kernel
example : (read? "[1,]").isNone = true := by decide +kernel
example : (read? "1 2").isNone = true := by decide +kernel

end Scorecard.Json

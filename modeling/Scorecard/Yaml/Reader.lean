import Scorecard.Value
import Scorecard.Yaml.Node

/-!
# Reading YAML

A document as a generic tree. A plain scalar without a tag is a null, a boolean, an integer or a
double if it is written like one, and a text otherwise; keys are always texts. Tags of the standard
schema force a kind, tags of one's own are refused except on keys. Collections may stand at most 128
inside one another, aliases included, and aliases may be followed at most a hundred times as often
as the document has events.
-/

namespace Scorecard.Yaml

/-! ## Plain scalars -/

def isNullText (cs : List Char) : Bool :=
  cs == ['~'] || cs == "null".toList || cs == "Null".toList || cs == "NULL".toList

def boolean? (cs : List Char) : Option Bool :=
  if cs == "true".toList || cs == "True".toList || cs == "TRUE".toList then some true
  else if cs == "false".toList || cs == "False".toList || cs == "FALSE".toList then some false
  else none

/-- The characters behind a sign in front. -/
def unsigned (cs : List Char) : List Char :=
  match cs with
  | '-' :: rest => rest
  | '+' :: rest => rest
  | _ => cs

/-- A zero in front of further digits makes a text of what looks like an integer. -/
def isPaddedRun (cs : List Char) : Bool :=
  match unsigned cs with
  | '0' :: d :: rest => (d :: rest).all Char.isDigit
  | _ => false

/-- The number that digits of a base denote. -/
def digitsOfBase? (base : Nat) (ds : List Char) : Option Nat :=
  if ds.isEmpty then none
  else ds.foldlM (fun n d => do
    let v ← Json.hexValue? d
    if v < base then some (n * base + v) else none) 0

/-- The magnitude of an integer: digits, or digits of another base behind its mark. -/
def magnitude? (cs : List Char) : Option Nat :=
  match cs with
  | '0' :: 'x' :: ds => digitsOfBase? 16 ds
  | '0' :: 'o' :: ds => digitsOfBase? 8 ds
  | '0' :: 'b' :: ds => digitsOfBase? 2 ds
  | ds => digitsOfBase? 10 ds

/-- The integer that a scalar denotes. -/
def integer? (cs : List Char) : Option Int :=
  if isPaddedRun cs then none
  else
    match cs with
    | '-' :: rest => (magnitude? rest).map fun n => -(n : Int)
    | _ => (magnitude? (if cs.head? = some '+' then cs.drop 1 else cs)).map fun n => (n : Int)

/-- An integer is taken for one only within 128 bits, with or without a sign; beyond, it is read as
    a double. -/
def isWide (i : Int) : Bool :=
  i < -170141183460469231731687303715884105728 || 340282366920938463463374607431768211456 ≤ i

/-- An exponent, if there is one, up to the end. -/
def exponentToEnd? (cs : List Char) : Option Int :=
  match Json.exponent? cs with
  | some (power, []) => some (power.getD 0)
  | _ => none

/-- The finite double that decimal digits with an optional point and exponent denote. -/
def double? (cs : List Char) : Option Binary64 :=
  let (whole, rest) := spanDigits (unsigned cs)
  let (fraction, rest) := match rest with
    | '.' :: rest => spanDigits rest
    | rest => ([], rest)
  if whole.isEmpty && fraction.isEmpty then none
  else
    match exponentToEnd? rest with
    | none => none
    | some power =>
      let x := Binary64.nearest (cs.head? = some '-') (digitsValue (whole ++ fraction))
        (power - (fraction.length : Int))
      if x.isFinite then some x else none

/-- The spellings of the infinities and of not-a-number. -/
def isSpecialDouble (cs : List Char) : Bool :=
  let special := [".inf", ".Inf", ".INF"]
  special.any (fun s => cs == s.toList || cs == '+' :: s.toList || cs == '-' :: s.toList) ||
    [".nan", ".NaN", ".NAN"].any fun s => cs == s.toList

/-- The tree that a floating point scalar denotes; the special ones have none but null. -/
def doubleValue? (cs : List Char) : Option Value :=
  if isSpecialDouble cs then some .null else (double? cs).map Value.ofBinary64

/-- The tree that an integer scalar denotes; `some none` is an integer of more than 64 bits, which
    no tree has. -/
def integerValue? (cs : List Char) : Option (Option Value) :=
  match integer? cs with
  | some i => if isWide i then none else some ((Number.ofInt? i).map Value.number)
  | none => none

/-- The tree that a plain scalar without a tag denotes. -/
def plainValue? (cs : List Char) : Option Value :=
  if cs.isEmpty || isNullText cs then some .null
  else
    match boolean? cs with
    | some b => some (.bool b)
    | none =>
      match integerValue? cs with
      | some v => v
      | none =>
        if isPaddedRun cs then some (.text (String.ofList cs))
        else some ((doubleValue? cs).getD (.text (String.ofList cs)))

/-! ## Tags -/

/-- The node has a tag of one's own. -/
def hasLocalTag (tag : Option Tag) : Bool := tag.any Tag.isLocal

/-- The tree that a scalar denotes. -/
def scalarValue? (text : String) (plain : Bool) (tag : Option Tag) : Option Value :=
  let cs := text.toList
  match tag with
  | none => if plain then plainValue? cs else some (.text text)
  | some t =>
    if t.isLocal then none
    else if t = Tag.standard "bool" then (boolean? cs).map Value.bool
    else if t = Tag.standard "int" then (integerValue? cs).bind id
    else if t = Tag.standard "float" then doubleValue? cs
    else if t = Tag.standard "null" then if isNullText cs then some .null else none
    else if plain && t.isMarked then plainValue? cs
    else some (.text text)

/-! ## Nodes -/

namespace Node

mutual

/-- How many events a node consists of: one for a scalar or an alias, two for the ends of a
    collection. -/
def events : Node → Nat
  | .scalar _ _ _ => 1
  | .alias _ => 1
  | .sequence _ items => 2 + eventsOfItems items
  | .mapping _ entries => 2 + eventsOfEntries entries

def eventsOfItems : List Node → Nat
  | [] => 0
  | n :: rest => events n + eventsOfItems rest

def eventsOfEntries : List (Node × Node) → Nat
  | [] => 0
  | (k, v) :: rest => events k + events v + eventsOfEntries rest

end

/-- The node itself, or the one that an alias stands for, with the number of aliases that may still
    be followed. -/
def resolve (anchors : Anchors) (budget : Nat) : Node → Option (Node × Nat)
  | .alias slot =>
    match budget with
    | 0 => none
    | budget + 1 => (anchors.node? slot).map fun n => (n, budget)
  | n => some (n, budget)

/-- The text of a key, which has to be a scalar. -/
def key? (anchors : Anchors) (budget : Nat) (n : Node) : Option (String × Nat) :=
  match resolve anchors budget n with
  | some (.scalar text _ _, budget) => some (text, budget)
  | _ => none

/-- Reads items one after the other, each with the budget that the one before left. -/
def itemsWith (read : Nat → Node → Option (Value × Nat)) :
    Nat → List Node → Option (List Value × Nat)
  | budget, [] => some ([], budget)
  | budget, n :: rest => do
    let (v, budget) ← read budget n
    let (vs, budget) ← itemsWith read budget rest
    return (v :: vs, budget)

/-- Reads entries one after the other, each with the budget that the one before left. -/
def entriesWith (anchors : Anchors) (read : Nat → Node → Option (Value × Nat)) :
    Nat → List (Node × Node) → Option (List (String × Value) × Nat)
  | budget, [] => some ([], budget)
  | budget, (k, n) :: rest => do
    let (key, budget) ← key? anchors budget k
    let (v, budget) ← read budget n
    let (es, budget) ← entriesWith anchors read budget rest
    return ((key, v) :: es, budget)

/-- The tree that a node denotes, `depth` more collections being allowed inside one another. -/
def value? (anchors : Anchors) : Nat → Nat → Node → Option (Value × Nat)
  | depth, budget, n => do
    match ← resolve anchors budget n with
    | (.scalar text plain tag, budget) =>
      let v ← scalarValue? text plain tag
      return (v, budget)
    | (.sequence tag items, budget) =>
      match depth with
      | 0 => none
      | depth + 1 =>
        if hasLocalTag tag then none
        let (vs, budget) ← itemsWith (value? anchors depth) budget items
        return (.list vs, budget)
    | (.mapping tag entries, budget) =>
      match depth with
      | 0 => none
      | depth + 1 =>
        if hasLocalTag tag then none
        let (es, budget) ← entriesWith anchors (value? anchors depth) budget entries
        return (Value.ofEntries es, budget)
    | (.alias _, _) => none

end Node

/-- The tree that a YAML text denotes. -/
def read? (text : String) : Option Value := do
  let gs ← glyphs? text.toList
  let ts ← tokens? gs
  let (root, anchors) ← document? ts
  let (v, _) ← root.value? anchors deepest (100 * root.events)
  return v

/-! Keys stay texts, digits behind a zero are a text, an alias stands for its node, and lines fold. -/

example : (read? "1: 0x10\n" == some (.object [("1", .ofNat 16)])) = true := by decide +kernel
example : (read? "[007, ~, yes]" == some (.list [.text "007", .null, .text "yes"])) = true := by
  decide +kernel
example : (read? "- &a x\n- *a\n" == some (.list [.text "x", .text "x"])) = true := by
  decide +kernel
example : (read? ">\n a\n b\n" == some (.text "a b\n")) = true := by decide +kernel
example : (read? "!!str 5" == some (.text "5")) = true := by decide +kernel
example : (read? "! 5").isNone = true := by decide +kernel
example : (read? "*a").isNone = true := by decide +kernel

end Scorecard.Yaml

import Scorecard.Timestamp
import Scorecard.Value
import Scorecard.Vocabulary

/-!
# Reading typed values out of trees

A reader takes a tree and gives a value or the reason why the tree does not fit. A record is read
from an object by the names of its fields or from a list by their places. Of several faults one is
reported: in an object the fault of the least key, and a missing field only if no present one is at
fault; in a list the first.
-/

namespace Scorecard

/-- What a reader may want. -/
inductive Wanted where
  | text
  | list
  | double
  | boolean
  | timestamp
  | nothing
  | member
  | record (name : String)

/-- The wording of what is wanted. -/
def Wanted.message : Wanted → String
  | text => "a string"
  | list => "a sequence"
  | double => "f64"
  | boolean => "a boolean"
  | timestamp => "an RFC 3339 formatted date and time string"
  | nothing => "unit"
  | member => "string or map"
  | record name => "struct " ++ name

/-- The wording of a tree that was found in place of what was wanted. -/
def Value.description : Value → String
  | .null => "null"
  | .bool b => "boolean `" ++ (if b then "true" else "false") ++ "`"
  | .number (.integer i _) => "integer `" ++ toString i ++ "`"
  | .number (.double x _) => "floating point `" ++ x.toText ++ "`"
  | .text s => "string " ++ quotation s
  | .list _ => "sequence"
  | .object _ => "map"

/-- Why a tree does not fit. -/
inductive Mismatch where
  /-- a tree of the wrong kind -/
  | kind (found : Value) (wanted : Wanted)
  /-- a field that has to be there is not -/
  | missing (field : String)
  /-- a list too short for a record, which has `size` fields -/
  | short (reached : Nat) (record : String) (size : Nat)
  /-- a list too long for a record -/
  | long (length : Nat)
  /-- a name outside the vocabulary -/
  | unknownName (name : String) (known : List String)
  /-- an object in place of a name that does not have exactly one entry -/
  | notOneEntry
  /-- a text that is no timestamp -/
  | timestamp (fault : Timestamp.Fault)
  /-- a text that is no version -/
  | version (text : String)

namespace Mismatch

/-- Two names are joined by a word, more are listed. -/
def choices : List String → String
  | [a, b] => "`" ++ a ++ "` or `" ++ b ++ "`"
  | names => "one of " ++ ", ".intercalate (names.map fun n => "`" ++ n ++ "`")

/-- The wording of a mismatch. -/
def message : Mismatch → String
  | kind found wanted => "invalid type: " ++ found.description ++ ", expected " ++ wanted.message
  | missing field => "missing field `" ++ field ++ "`"
  | short reached record size =>
    "invalid length " ++ toString reached ++ ", expected struct " ++ record ++ " with " ++
      toString size ++ (if size = 1 then " element" else " elements")
  | long length => "invalid length " ++ toString length ++ ", expected fewer elements in array"
  | unknownName name known => "unknown variant `" ++ name ++ "`, expected " ++ choices known
  | notOneEntry => "invalid value: map, expected map with a single key"
  | timestamp fault => fault.message
  | version text => Version.invalidMessage text

end Mismatch

/-- Reads a value out of a tree. -/
abbrev Reader (α : Type) := Value → Except Mismatch α

namespace Reader

def text : Reader String
  | .text s => .ok s
  | v => .error (.kind v .text)

def boolean : Reader Bool
  | .bool b => .ok b
  | v => .error (.kind v .boolean)

/-- A number of either kind, as a double. -/
def double : Reader Binary64
  | .number n => .ok n.toBinary64
  | v => .error (.kind v .double)

def timestamp : Reader Timestamp
  | .text s =>
    match Timestamp.parse s with
    | .ok t => .ok t
    | .error fault => .error (.timestamp fault)
  | v => .error (.kind v .timestamp)

def version : Reader Version
  | .text s =>
    match Version.parse? s with
    | some v => .ok v
    | none => .error (.version s)
  | v => .error (.kind v .text)

/-- A value of a vocabulary by its name. -/
def named (α : Type) [Vocabulary α] (name : String) : Except Mismatch α :=
  match Vocabulary.ofName? name with
  | some a => .ok a
  | none => .error (.unknownName name (Vocabulary.names α))

/-- A value of a vocabulary: its name, or an object with its name as the only key and nothing under
    it. -/
def member (α : Type) [Vocabulary α] : Reader α
  | .text s => named α s
  | .object [(key, v)] => do
    let a ← named α key
    match v with
    | .null => return a
    | v => throw (.kind v .nothing)
  | .object _ => .error .notOneEntry
  | v => .error (.kind v .member)

/-- Reads every item; the first that does not fit is the fault. -/
def items {α : Type} (reader : Reader α) : List Value → Except Mismatch (List α)
  | [] => .ok []
  | v :: rest => do
    let a ← reader v
    let as ← items reader rest
    return a :: as

def list {α : Type} (reader : Reader α) : Reader (List α)
  | .list vs => items reader vs
  | v => .error (.kind v .list)

/-- Null is no value, and anything else has to fit. -/
def optional {α : Type} (reader : Reader α) : Reader (Option α)
  | .null => .ok none
  | v => some <$> reader v

end Reader

/-! ## Records -/

/-- Where the fields of a record are taken from. -/
inductive Fields where
  | byName (entries : List (String × Value))
  | byPlace (items : List Value)

/-- Why a field of a record could not be read. -/
inductive Fault where
  | unfit (key : String) (cause : Mismatch)
  | missing (field : String)
  | unfitItem (cause : Mismatch)
  | noItem (place : Nat)

namespace Fault

/-- Of two faults, the first one given by the field declared earlier, the one that is reported. -/
def report : Fault → Fault → Fault
  | unfit k c, unfit l d => if l < k then unfit l d else unfit k c
  | missing _, unfit l d => unfit l d
  | f, _ => f

/-- The mismatch of a record of `size` fields. -/
def mismatch (record : String) (size : Nat) : Fault → Mismatch
  | unfit _ cause => cause
  | missing field => .missing field
  | unfitItem cause => cause
  | noItem place => .short place record size

end Fault

/-- Reads a part of a record out of its fields. -/
def Part (α : Type) := Fields → Except Fault α

namespace Part

variable {α β : Type}

/-- Reads two parts, the second declared after the first. -/
def and (f : Part (α → β)) (p : Part α) : Part β := fun fields =>
  match f fields, p fields with
  | .ok g, .ok a => .ok (g a)
  | .ok _, .error e => .error e
  | .error e, .ok _ => .error e
  | .error e, .error e' => .error (e.report e')

instance : Applicative Part where
  pure a := fun _ => .ok a
  seq f p := and f (p ())

/-- Reads the field at a place and of a name; `absent` is its value where it is left out. -/
def field (place : Nat) (name : String) (reader : Reader α) (absent : Option α) : Part α
  | .byName entries =>
    match Value.lookup name entries, absent with
    | some v, _ => (reader v).mapError (.unfit name)
    | none, some a => .ok a
    | none, none => .error (.missing name)
  | .byPlace items =>
    match items[place]?, absent with
    | some v, _ => (reader v).mapError .unfitItem
    | none, some a => .ok a
    | none, none => .error (.noItem place)

/-- A field that has to be there. -/
def required (place : Nat) (name : String) (reader : Reader α) : Part α :=
  field place name reader none

/-- A field that stands for a given value where it is left out. -/
def defaulted (place : Nat) (name : String) (reader : Reader α) (value : α) : Part α :=
  field place name reader (some value)

/-- A field that may be left out or null. -/
def optional (place : Nat) (name : String) (reader : Reader α) : Part (Option α) :=
  field place name reader.optional (some none)

/-- A record of `size` fields, out of an object or a list. A list may not have more items. -/
def record (name : String) (size : Nat) (parts : Part α) : Reader α
  | .object entries => (parts (.byName entries)).mapError (Fault.mismatch name size)
  | .list items =>
    match parts (.byPlace items) with
    | .error fault => .error (fault.mismatch name size)
    | .ok a => if size < items.length then .error (.long items.length) else .ok a
  | v => .error (.kind v (.record name))

end Part

/-! ## Writing fields -/

namespace Value

/-- An entry that is always written. -/
def entry (key : String) (v : Value) : List (String × Value) := [(key, v)]

/-- An entry that is written only if there is a value. -/
def entryIf {α : Type} (key : String) (write : α → Value) : Option α → List (String × Value)
  | some a => [(key, write a)]
  | none => []

/-- An entry that is written only if the list has an item. -/
def entryUnlessEmpty (key : String) : List Value → List (String × Value)
  | [] => []
  | vs => [(key, .list vs)]

/-- The value, or null. -/
def orNull {α : Type} (write : α → Value) : Option α → Value
  | some a => write a
  | none => .null

/-- The name of a value of a vocabulary. -/
def ofMember {α : Type} [Vocabulary α] (a : α) : Value := .text (Vocabulary.name a)

def ofTimestamp (t : Timestamp) : Value := .text t.toText

def ofVersion (v : Version) : Value := .text v.toText

end Value
end Scorecard

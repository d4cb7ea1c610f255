import Scorecard.Shortest

/-!
# Generic trees

Every document passes through a tree of nulls, booleans, numbers, texts, lists and objects. A
number is an integer or a finite binary64 number and never both: `1` and `1.0` are different
values. An object is kept as its entries in ascending order of keys, each key once (`Ordered`);
`put` and `ofEntries` keep that order.
-/

namespace Scorecard

/-- A number of a tree. Integers fit 64 bits, signed or unsigned; infinities and not-a-number have
    no place in a tree. -/
inductive Number where
  | integer (value : Int) (fits : -9223372036854775808 ≤ value ∧ value < 18446744073709551616)
  | double (value : Binary64) (finite : value.isFinite = true)

namespace Number

/-- The integer, if it fits. -/
def ofInt? (i : Int) : Option Number :=
  if h : -9223372036854775808 ≤ i ∧ i < 18446744073709551616 then some (.integer i h) else none

/-- The double, if it is finite. -/
def ofBinary64? (x : Binary64) : Option Number :=
  if h : x.isFinite = true then some (.double x h) else none

/-- Integers in decimal, doubles in their shortest decimal. -/
def toText : Number → String
  | .integer i _ => toString i
  | .double x _ => x.toText

/-- The number as a double; integers are rounded to the nearest one. -/
def toBinary64 : Number → Binary64
  | .integer i _ => Binary64.ofInt i
  | .double x _ => x

/-- Numbers are equal if they are of one kind and have equal values. -/
def same : Number → Number → Bool
  | .integer i _, .integer j _ => i == j
  | .double x _, .double y _ => x == y
  | _, _ => false

instance : BEq Number := ⟨same⟩

end Number

/-- A generic tree. -/
inductive Value where
  | null
  | bool (value : Bool)
  | number (value : Number)
  | text (value : String)
  | list (items : List Value)
  | object (entries : List (String × Value))

namespace Value

instance : Inhabited Value := ⟨.null⟩

/-- A double as a tree; infinities and not-a-number become null. -/
def ofBinary64 (x : Binary64) : Value :=
  match Number.ofBinary64? x with
  | some n => .number n
  | none => .null

/-- An integer as a tree; one that does not fit 64 bits becomes a double. -/
def ofInt (i : Int) : Value :=
  match Number.ofInt? i with
  | some n => .number n
  | none => ofBinary64 (Binary64.ofInt i)

def ofNat (n : Nat) : Value := ofInt n

mutual

/-- Equality of trees, in which numbers compare by value. -/
def same : Value → Value → Bool
  | .null, .null => true
  | .bool a, .bool b => a == b
  | .number a, .number b => a == b
  | .text a, .text b => a == b
  | .list a, .list b => sameItems a b
  | .object a, .object b => sameEntries a b
  | _, _ => false

def sameItems : List Value → List Value → Bool
  | [], [] => true
  | a :: as, b :: bs => same a b && sameItems as bs
  | _, _ => false

def sameEntries : List (String × Value) → List (String × Value) → Bool
  | [], [] => true
  | (k, a) :: as, (l, b) :: bs => k == l && same a b && sameEntries as bs
  | _, _ => false

end

instance : BEq Value := ⟨same⟩

/-- The value of the first entry with the key. -/
def lookup (key : String) : List (String × Value) → Option Value
  | [] => none
  | (k, v) :: rest => if k = key then some v else lookup key rest

/-- Enters a value under a key, replacing an entry with that key and keeping the order of keys. -/
def put (key : String) (value : Value) : List (String × Value) → List (String × Value)
  | [] => [(key, value)]
  | (k, v) :: rest =>
    if key < k then (key, value) :: (k, v) :: rest
    else if key = k then (key, value) :: rest
    else (k, v) :: put key value rest

/-- The object of some entries: sorted by key, and of entries with one key the last. -/
def ofEntries (entries : List (String × Value)) : Value :=
  .object (entries.foldl (fun sorted e => put e.1 e.2 sorted) [])

/-- The value that an object has under a key. -/
def get? (key : String) : Value → Option Value
  | .object entries => lookup key entries
  | _ => none

/-- The text that a tree consists of. -/
def asText? : Value → Option String
  | .text s => some s
  | _ => none

def isObject : Value → Bool
  | .object _ => true
  | _ => false

mutual

/-- Sorts the entries of every object in the tree. -/
def ordered : Value → Value
  | .list items => .list (orderedItems items)
  | .object entries => ofEntries (orderedEntries entries)
  | v => v

def orderedItems : List Value → List Value
  | [] => []
  | v :: rest => ordered v :: orderedItems rest

def orderedEntries : List (String × Value) → List (String × Value)
  | [] => []
  | (k, v) :: rest => (k, ordered v) :: orderedEntries rest

end

mutual

/-- Every object's keys ascend strictly. -/
def Ordered : Value → Prop
  | .list items => OrderedItems items
  | .object entries => entries.Pairwise (fun a b => a.1 < b.1) ∧ OrderedEntries entries
  | _ => True

def OrderedItems : List Value → Prop
  | [] => True
  | v :: rest => Ordered v ∧ OrderedItems rest

def OrderedEntries : List (String × Value) → Prop
  | [] => True
  | (_, v) :: rest => Ordered v ∧ OrderedEntries rest

end

end Value
end Scorecard

import Scorecard.Digits
import Scorecard.Quotation

/-!
# Schema versions

A version is a pair of 32-bit numbers, ordered by the first and then the second, and written with
a dot between them. Five versions are supported; they form two families, within which records have
one shape. `parse?` accepts a run of digits, a dot and a run of digits, leading zeros allowed.
-/

namespace Scorecard

/-- The two generations of record shapes. -/
inductive Family where
  | third
  | fourth
  deriving DecidableEq, Repr

namespace Family

/-- The name of a family in a stored value. -/
def name : Family → String
  | third => "V3X"
  | fourth => "V4X"

/-- A family as it is shown to readers. -/
def display : Family → String
  | third => "3.X"
  | fourth => "4.X"

def all : List Family := [third, fourth]

end Family

/-- A schema version. -/
structure Version where
  major : UInt32
  minor : UInt32
  deriving DecidableEq

namespace Version

def v3_2 : Version := ⟨3, 2⟩
def v3_3 : Version := ⟨3, 3⟩
def v4_0 : Version := ⟨4, 0⟩
def v4_1 : Version := ⟨4, 1⟩
def v4_2 : Version := ⟨4, 2⟩

/-- The supported versions in ascending order. -/
def supported : List Version := [v3_2, v3_3, v4_0, v4_1, v4_2]

/-- The version has a record shape. -/
def IsSupported (v : Version) : Prop := v ∈ supported

instance (v : Version) : Decidable v.IsSupported := inferInstanceAs (Decidable (v ∈ supported))

/-- The family whose shape records of the version have. -/
def family? (v : Version) : Option Family :=
  if v = v3_2 ∨ v = v3_3 then some .third
  else if v = v4_0 ∨ v = v4_1 ∨ v = v4_2 then some .fourth
  else none

/-- The order of versions: by the first component, then by the second. -/
instance : LT Version := ⟨fun v w => v.major < w.major ∨ (v.major = w.major ∧ v.minor < w.minor)⟩

instance : LE Version := ⟨fun v w => ¬ w < v⟩

instance (v w : Version) : Decidable (v < w) :=
  inferInstanceAs (Decidable (v.major < w.major ∨ (v.major = w.major ∧ v.minor < w.minor)))

instance (v w : Version) : Decidable (v ≤ w) := inferInstanceAs (Decidable (¬ w < v))

/-- The comparison that the order amounts to. -/
def compare (v w : Version) : Ordering :=
  if v < w then .lt else if w < v then .gt else .eq

instance : Ord Version := ⟨compare⟩

/-- Both components in decimal with a dot between them. -/
def toText (v : Version) : String := toString v.major.toNat ++ "." ++ toString v.minor.toNat

/-- A component: at least one digit, all of them ASCII, and a value of at most 32 bits. -/
def component? (ds : List Char) : Option UInt32 :=
  if ds ≠ [] ∧ ds.all Char.isDigit ∧ digitsValue ds < 4294967296 then
    some (UInt32.ofNat (digitsValue ds))
  else none

/-- Reads the components before and behind the first dot. -/
def parseChars? (cs : List Char) : Option Version :=
  match cs.dropWhile (· ≠ '.') with
  | [] => none
  | _ :: minor => do
    let major ← component? (cs.takeWhile (· ≠ '.'))
    let minor ← component? minor
    return ⟨major, minor⟩

/-- The version that a text denotes; blanks and signs are not tolerated. -/
def parse? (s : String) : Option Version := parseChars? s.toList

/-! Zeros in front are allowed; a third component, a blank and a value beyond 32 bits are not. -/

example : (parse? "04.010").map toText = some "4.10" := by decide +kernel
example : parse? "4.1.0" = none := by decide +kernel
example : parse? " 4.1" = none := by decide +kernel
example : parse? "4294967296.0" = none := by decide +kernel

/-- The text of the refusal of a text that is no version. -/
def invalidMessage (s : String) : String := "invalid schema version: " ++ quotation s

end Version
end Scorecard

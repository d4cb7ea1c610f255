import Scorecard.Proofs.DigitRuns
import Scorecard.Version

/-!
# The text of a version

A version is written as two runs of digits around a dot, and neither run has a dot in it, so reading cuts the text where
it was joined (`parseChars?_digits`). Every pair of 32-bit components is read back from its text
(`parse?_toText`), supported or not.
-/

namespace Scorecard.Version

/-- A component is read back from its decimal. -/
theorem component?_decimal (n : UInt32) : component? (Nat.toDigits 10 n.toNat) = some n := by
  have digits : (Nat.toDigits 10 n.toNat).all Char.isDigit = true :=
    List.all_eq_true.mpr fun c here => isDigit_of_mem_decimal here
  have fits : digitsValue (Nat.toDigits 10 n.toNat) < 4294967296 := by
    rw [digitsValue_decimal]
    exact n.toNat_lt
  rw [component?, if_pos ⟨Nat.toDigits_ne_nil, digits, fits⟩, digitsValue_decimal, UInt32.ofNat_toNat]

/-- The first dot ends the major component, for there is none among digits. -/
theorem parseChars?_digits {ds es : List Char} {major minor : UInt32} (digits : ∀ c ∈ ds, c.isDigit = true)
    (first : component? ds = some major) (second : component? es = some minor) :
    parseChars? (ds ++ '.' :: es) = some ⟨major, minor⟩ := by
  have undotted : ∀ c ∈ ds, decide (c ≠ '.') = true := by
    intro c here
    have digit := digits c here
    rw [decide_eq_true_eq]
    rintro rfl
    cases digit
  unfold parseChars?
  rw [List.dropWhile_append_of_pos undotted, List.takeWhile_append_of_pos undotted]
  simp [first, second]

theorem parse?_toText (v : Version) : parse? v.toText = some v := by
  have text : v.toText.toList = Nat.toDigits 10 v.major.toNat ++ '.' :: Nat.toDigits 10 v.minor.toNat := by
    simp [toText, Nat.repr_eq_ofList_toDigits]
  rw [parse?, text]
  exact parseChars?_digits (fun c => isDigit_of_mem_decimal) (component?_decimal v.major) (component?_decimal v.minor)

end Scorecard.Version

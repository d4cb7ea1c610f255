import Scorecard.Digits

/-!
# Runs of digits

A number in decimal, with or without zeros in front, is a run of digits that denotes the number
(`digitsValue_padded`), and a run of digits ends where no digit follows (`takeWhile_digits`).
-/

namespace Scorecard

/-- The text does not go on with a digit. -/
def NoDigitAhead (rest : List Char) : Prop := ∀ c more, rest = c :: more → c.isDigit = false

theorem noDigitAhead_cons {c : Char} (other : c.isDigit = false) (more : List Char) : NoDigitAhead (c :: more) := by
  intro d rest equal
  cases equal
  exact other

theorem NoDigitAhead.take {rest : List Char} (ends : NoDigitAhead rest) (count : Nat) :
    NoDigitAhead (rest.take count) := by
  intro c more equal
  cases rest with
  | nil => simp at equal
  | cons d later =>
    cases count with
    | zero => simp at equal
    | succ count =>
      rw [List.take_succ_cons] at equal
      cases equal
      exact ends c later rfl

theorem isDigit_of_mem_decimal {n : Nat} {c : Char} (here : c ∈ Nat.toDigits 10 n) : c.isDigit = true :=
  Nat.isDigit_of_mem_toDigits (by decide) (by decide) here

theorem takeWhile_digits {ds rest : List Char} (all : ∀ c ∈ ds, c.isDigit = true) (ends : NoDigitAhead rest) :
    (ds ++ rest).takeWhile Char.isDigit = ds := by
  rw [List.takeWhile_append_of_pos all]
  cases rest with
  | nil => simp
  | cons c more => simp [ends c more rfl]

theorem toDigits_inj {m n : Nat} (same : Nat.toDigits 10 m = Nat.toDigits 10 n) : m = n := by
  rw [← Nat.ofDigitChars_ten_toDigits (n := m), same, Nat.ofDigitChars_ten_toDigits]

theorem digitsValue_padded (width n : Nat) : digitsValue (padded width n) = n := by
  have value : ∀ ds, digitsValue ds = Nat.ofDigitChars 10 ds 0 := fun ds => Nat.ofDigitChars_eq_foldl.symm
  rw [value, padded, Nat.ofDigitChars_append, Nat.ofDigitChars_replicate_zero, Nat.mul_zero,
    Nat.ofDigitChars_ten_toDigits]

theorem digitsValue_decimal (n : Nat) : digitsValue (Nat.toDigits 10 n) = n := by
  have unpadded : padded 0 n = Nat.toDigits 10 n := by simp [padded]
  rw [← unpadded, digitsValue_padded]

theorem isDigit_of_mem_padded {width n : Nat} {c : Char} (here : c ∈ padded width n) : c.isDigit = true := by
  rcases List.mem_append.mp here with zero | digit
  · rw [List.eq_of_mem_replicate zero]
    rfl
  · exact isDigit_of_mem_decimal digit

theorem padded_eq_cons (width n : Nat) : ∃ c ds, padded width n = c :: ds ∧ c.isDigit = true := by
  cases run : padded width n with
  | nil =>
    have none := (List.append_eq_nil_iff.mp run).2
    have some := Nat.length_toDigits_pos (b := 10) (n := n)
    rw [none] at some
    exact absurd some (Nat.lt_irrefl _)
  | cons c ds => exact ⟨c, ds, rfl, isDigit_of_mem_padded (run ▸ List.mem_cons_self)⟩

/-- A number that fits a width is written with exactly that width. -/
theorem length_padded {width n : Nat} (positive : 0 < width) (fits : n < Nat.pow 10 width) :
    (padded width n).length = width := by
  have short : (Nat.toDigits 10 n).length ≤ width := (Nat.length_toDigits_le_iff (by decide) positive).mpr fits
  rw [padded, List.length_append, List.length_replicate]
  omega

end Scorecard

import Scorecard.Proofs.DigitRuns
import Scorecard.Timestamp

/-!
# The text of a timestamp

A moment is read back from its text (`parse_toText`), in every year of the calendar and with a leap second
too. Each part of the text is read by its own reader and ends where the next one begins, for the parts
are runs of digits with marks between them.
-/

namespace Scorecard.Timestamp

theorem bind_ok {α β : Type} {reader : Reading α} {next : α → Reading β} {cs rest : List Char} {a : α}
    (read : reader cs = .ok (a, rest)) : (reader >>= next) cs = next a rest := by
  show (reader cs >>= fun r => next r.1 r.2) = _
  rw [read]
  rfl

theorem get_bind {β : Type} (next : List Char → Reading β) (cs : List Char) : (get >>= next) cs = next cs cs := rfl

theorem set_bind {β : Type} (rest : List Char) (next : PUnit → Reading β) (cs : List Char) :
    (set rest >>= next) cs = next () rest := rfl

theorem modify_bind {β : Type} (f : List Char → List Char) (next : PUnit → Reading β) (cs : List Char) :
    (modify f >>= next) cs = next () (f cs) := rfl

/-! ## Marks and numbers -/

/-- The text does not begin with white space. -/
def NoBlankAhead (cs : List Char) : Prop := trimFront cs = cs

theorem noBlankAhead_cons {c : Char} (other : isWhiteSpace c = false) (rest : List Char) :
    NoBlankAhead (c :: rest) := by
  rw [NoBlankAhead, trimFront, List.dropWhile_cons, if_neg (by simp [other])]

theorem isWhiteSpace_digit {c : Char} (digit : c.isDigit = true) : isWhiteSpace c = false := by
  simp only [Char.isDigit, Bool.and_eq_true, decide_eq_true_eq, ge_iff_le, UInt32.le_iff_toNat_le] at digit
  have low : 48 ≤ c.toNat := digit.1
  have high : c.toNat ≤ 57 := digit.2
  simp only [isWhiteSpace, Bool.or_eq_false_iff, Bool.and_eq_false_iff, decide_eq_false_iff_not]
  omega

theorem noBlankAhead_padded (width n : Nat) (rest : List Char) : NoBlankAhead (padded width n ++ rest) := by
  obtain ⟨c, ds, run, digit⟩ := padded_eq_cons width n
  rw [run]
  exact noBlankAhead_cons (isWhiteSpace_digit digit) (ds ++ rest)

theorem skipWhiteSpace_ok {cs : List Char} (begins : NoBlankAhead cs) : skipWhiteSpace cs = .ok ((), cs) := by
  show Except.ok ((), trimFront cs) = _
  rw [begins]

/-- The digits that a number reader takes from the front. -/
theorem takeWhile_take_padded {most width n : Nat} {rest : List Char} (fits : (padded width n).length ≤ most)
    (ends : NoDigitAhead rest) : ((padded width n ++ rest).take most).takeWhile Char.isDigit = padded width n := by
  rw [List.take_append, List.take_of_length_le fits, takeWhile_digits (fun _ => isDigit_of_mem_padded) (ends.take _)]

theorem number_padded {most width n : Nat} {rest : List Char} (fits : (padded width n).length ≤ most)
    (ends : NoDigitAhead rest) : number most (padded width n ++ rest) = .ok (n, rest) := by
  have value := digitsValue_padded width n
  obtain ⟨c, ds, run, -⟩ := padded_eq_cons width n
  unfold number
  rw [takeWhile_take_padded fits ends]
  rw [run] at value ⊢
  simp [value, pure, Except.pure]

theorem component_ok {least greatest n : Nat} {rest : List Char} (range : least ≤ n ∧ n ≤ greatest)
    (fits : n < 100) (ends : NoDigitAhead rest) : component least greatest (padded 2 n ++ rest) = .ok (n, rest) := by
  have width : (padded 2 n).length ≤ 2 := Nat.le_of_eq (length_padded (by decide) fits)
  rw [component, bind_ok (skipWhiteSpace_ok (noBlankAhead_padded 2 n rest)), bind_ok (number_padded width ends),
    if_pos range]
  rfl

theorem separator_ok {c : Char} (other : isWhiteSpace c = false) (rest : List Char) :
    separator c (c :: rest) = .ok ((), rest) := by
  rw [separator, bind_ok (skipWhiteSpace_ok (noBlankAhead_cons other rest)), get_bind]
  simp only [if_true]
  rfl

/-! ## Years and fractions -/

theorem signedYear_ok (y : Int) {rest : List Char} (ends : NoDigitAhead rest) :
    signedYear (yearText y ++ rest) = .ok (y, rest) := by
  have room (n : Nat) : (padded 4 n).length ≤ (padded 4 n ++ rest).length := by simp
  unfold signedYear yearText
  rw [get_bind]
  -- Up to four digits stand without a sign; behind a sign all digits count.
  by_cases four : 0 ≤ y ∧ y ≤ 9999
  · have small : y.toNat < 10000 := by omega
    have width : (padded 4 y.toNat).length ≤ 4 := Nat.le_of_eq (length_padded (by decide) small)
    have value : (y.toNat : Int) = y := by omega
    have digit : ∀ c more, padded 4 y.toNat ++ rest = c :: more → c.isDigit = true := by
      intro c more equal
      obtain ⟨d, ds, run, digit⟩ := padded_eq_cons 4 y.toNat
      rw [run] at equal
      cases equal
      exact digit
    rw [if_pos four]
    generalize whole : padded 4 y.toNat ++ rest = cs at digit
    split
    · next more => cases digit '-' more rfl
    · next more => cases digit '+' more rfl
    · rw [← whole, bind_ok (number_padded width ends), value]
      rfl
  · rw [if_neg four]
    by_cases below : y < 0
    · have value : -(y.natAbs : Int) = y := by omega
      rw [if_pos below]
      simp only [List.cons_append, set_bind, bind_ok (number_padded (room _) ends), value]
      rfl
    · have value : (y.natAbs : Int) = y := by omega
      rw [if_neg below]
      simp only [List.cons_append, set_bind, bind_ok (number_padded (room _) ends), value]
      rfl

theorem year_ok {y : Int} (range : -2147483648 ≤ y ∧ y < 2147483648) {rest : List Char} (ends : NoDigitAhead rest) :
    year (yearText y ++ rest) = .ok (y, rest) := by
  have begins : NoBlankAhead (yearText y ++ rest) := by
    unfold yearText
    split
    · exact noBlankAhead_padded 4 _ rest
    · exact noBlankAhead_cons (by split <;> rfl) _
  rw [year, bind_ok (skipWhiteSpace_ok begins), bind_ok (signedYear_ok y ends), if_pos range]
  rfl

theorem subsecond_digits {width n : Nat} (positive : 0 < width) (least : width ≤ 9) (fits : n < Nat.pow 10 width)
    {rest : List Char} (ends : NoDigitAhead rest) :
    subsecond ('.' :: (padded width n ++ rest)) = .ok (n * Nat.pow 10 (9 - width), rest) := by
  have length := length_padded positive fits
  have short : (padded width n).length ≤ 9 := by omega
  have ended : rest.dropWhile Char.isDigit = rest := by
    cases rest with
    | nil => rfl
    | cons c more => rw [List.dropWhile_cons, if_neg (by simp [ends c more rfl])]
  unfold subsecond
  rw [get_bind]
  simp only [set_bind, takeWhile_take_padded short ends, length, bind_ok (number_padded short ends), modify_bind, ended]
  rfl

/-- The groups of zeros that the text leaves out are put back. -/
theorem subsecond_fractionText {n : Nat} (fits : n < 1000000000) :
    subsecond (fractionText n ++ ['Z']) = .ok (n, ['Z']) := by
  have ends : NoDigitAhead ['Z'] := noDigitAhead_cons rfl []
  unfold fractionText
  split
  · next none =>
    subst none
    rfl
  · split
    · have value : n / 1000000 * 1000000 = n := by omega
      have digits : n / 1000000 < 1000 := by omega
      rw [List.cons_append, subsecond_digits (by decide) (by decide) digits ends]
      exact congrArg (fun m => Except.ok (m, ['Z'])) value
    · split
      · have value : n / 1000 * 1000 = n := by omega
        have digits : n / 1000 < 1000000 := by omega
        rw [List.cons_append, subsecond_digits (by decide) (by decide) digits ends]
        exact congrArg (fun m => Except.ok (m, ['Z'])) value
      · rw [List.cons_append, subsecond_digits (by decide) (by decide) fits ends]
        exact congrArg (fun m => Except.ok (m, ['Z'])) (Nat.mul_one n)

/-! ## Whole texts -/

theorem ofLocal_self (t : Timestamp) : ofLocal t.date t.hour t.minute t.second t.nanosecond 0 = .ok t := by
  have bounds := t.in_day
  have clock : (((t.hour : Int) * 60 + t.minute - 0) % 1440).toNat = t.hour * 60 + t.minute := by omega
  have hour : (t.hour * 60 + t.minute) / 60 = t.hour := by omega
  have minute : (t.hour * 60 + t.minute) % 60 = t.minute := by omega
  have today : ¬ ((t.hour : Int) * 60 + t.minute - 0 < 0) ∧ ¬ (1440 ≤ (t.hour : Int) * 60 + t.minute - 0) := by
    omega
  simp only [ofLocal, clock, hour, minute, if_neg today.1, if_neg today.2, dif_pos bounds]
  rfl

theorem daysInMonth_le (year : Int) (month : Nat) : daysInMonth year month ≤ 31 := by
  unfold daysInMonth
  repeat' split
  all_goals decide

theorem noDigitAhead_fractionText (n : Nat) : NoDigitAhead (fractionText n ++ ['Z']) := by
  unfold fractionText
  repeat' split
  all_goals exact noDigitAhead_cons rfl _

/-- The parts of the text of a moment, each up to the mark behind it. -/
theorem parts_toText (t : Timestamp) : parts t.toText.toList = .ok (.ok t, []) := by
  obtain ⟨year, month, day⟩ := t.date.in_calendar
  obtain ⟨hour, minute, second, nanosecond⟩ := t.in_day
  have short := Nat.le_trans day.2 (daysInMonth_le _ _)
  have date : Date.of? t.date.year t.date.month t.date.day = some t.date := dif_pos t.date.in_calendar
  have mark {c : Char} (other : c.isDigit = false) {rest : List Char} : NoDigitAhead (c :: rest) :=
    noDigitAhead_cons other rest
  rw [toText, String.toList_ofList]
  simp only [List.append_assoc, List.cons_append]
  -- No part begins with white space, and each is followed by a mark, which is no digit.
  rw [parts, bind_ok (year_ok (by omega) (mark rfl)), bind_ok (separator_ok rfl _),
    bind_ok (component_ok month (by omega) (mark rfl)), bind_ok (separator_ok rfl _),
    bind_ok (component_ok ⟨day.1, short⟩ (by omega) (mark rfl)), bind_ok (rfl : dayMark ('T' :: _) = .ok ((), _)),
    bind_ok (component_ok ⟨Nat.zero_le _, by omega⟩ (by omega) (mark rfl)), bind_ok (separator_ok rfl _),
    bind_ok (component_ok ⟨Nat.zero_le _, by omega⟩ (by omega) (mark rfl)), bind_ok (separator_ok rfl _),
    bind_ok (component_ok ⟨Nat.zero_le _, second⟩ (by omega) (noDigitAhead_fractionText _)),
    bind_ok (subsecond_fractionText nanosecond), bind_ok (rfl : offset ['Z'] = .ok (0, [])),
    bind_ok (rfl : skipWhiteSpace [] = .ok ((), [])), date]
  exact congrArg (fun r => Except.ok (r, [])) (ofLocal_self t)

/-- A moment is read back from its text. -/
theorem parse_toText (t : Timestamp) : parse t.toText = .ok t := by
  show (parts t.toText.toList >>= _) = _
  rw [parts_toText]
  rfl

end Scorecard.Timestamp

import Scorecard.Json.Reader
import Scorecard.Json.Writer
import Scorecard.Proofs.AlikeTrees
import Scorecard.Proofs.DigitRuns

/-!
# The texts of leaves

A leaf of a tree is told by its text: its first character says of which kind it is (`initial`), a quoted
text is read back as itself (`stringBody_escaped`), and an integer, which has digits and a sign only, is
never written like a double, which has a point or an exponent (`toText_eq_iff`).
-/

namespace Scorecard

/-! ## Numbers -/

/-- A character of an integer. -/
def isIntegerChar (c : Char) : Bool := c.isDigit || c == '-'

/-- A character that no integer has. -/
def isDoubleMark (c : Char) : Bool := c == '.' || c == 'e'

theorem isDoubleMark_eq_false {c : Char} (integer : isIntegerChar c = true) : isDoubleMark c = false := by
  refine Bool.eq_false_iff.mpr fun mark => ?_
  rw [isDoubleMark, Bool.or_eq_true, beq_iff_eq, beq_iff_eq] at mark
  rcases mark with rfl | rfl <;> exact absurd integer (by decide)

theorem toList_toString_int (i : Int) :
    (toString i).toList = if 0 ≤ i then Nat.toDigits 10 i.toNat else '-' :: Nat.toDigits 10 (-i).toNat := by
  rw [Int.toString_eq_repr, Int.repr_eq_if]
  split <;> simp [Nat.repr_eq_ofList_toDigits]

theorem isIntegerChar_of_mem {i : Int} {c : Char} (here : c ∈ (toString i).toList) : isIntegerChar c = true := by
  rw [toList_toString_int] at here
  split at here
  · simp [isIntegerChar, isDigit_of_mem_decimal here]
  · rcases List.mem_cons.mp here with rfl | digit
    · decide
    · simp [isIntegerChar, isDigit_of_mem_decimal digit]

theorem toString_int_inj {i j : Int} (same : toString i = toString j) : i = j := by
  have chars := congrArg String.toList same
  rw [toList_toString_int, toList_toString_int] at chars
  have unsigned (n : Nat) : '-' ∉ Nat.toDigits 10 n :=
    fun sign => absurd (isDigit_of_mem_decimal sign) (by decide)
  split at chars <;> split at chars
  · have equal := toDigits_inj chars
    omega
  · exact absurd (chars ▸ List.mem_cons_self) (unsigned _)
  · exact absurd (chars.symm ▸ List.mem_cons_self) (unsigned _)
  · have equal := toDigits_inj (List.cons.inj chars).2
    omega

/-- Positionally a decimal has a point, scientifically an exponent. -/
theorem exists_doubleMark (d : Decimal) : ∃ c ∈ (Binary64.layout.layOut d).toList, isDoubleMark c = true := by
  unfold NumberLayout.layOut
  by_cases zero : d.digits = 0
  · exact ⟨'.', by simp [zero], by decide⟩
  · simp only [zero, if_false]
    split
    · split
      · exact ⟨'.', by simp, by decide⟩
      · split
        · exact ⟨'.', by simp, by decide⟩
        · exact ⟨'.', by simp, by decide⟩
    · exact ⟨'e', by simp [Binary64.layout], by decide⟩

/-- The first character of a written number. -/
theorem layOut_eq_cons (d : Decimal) :
    ∃ c rest, (Binary64.layout.layOut d).toList = c :: rest ∧ isIntegerChar c = true := by
  obtain ⟨first, rest, digits⟩ := List.exists_cons_of_ne_nil (Nat.toDigits_ne_nil (n := d.digits) (b := 10))
  have digit : isIntegerChar first = true := by
    simp [isIntegerChar, isDigit_of_mem_decimal (digits ▸ List.mem_cons_self : first ∈ Nat.toDigits 10 d.digits)]
  unfold NumberLayout.layOut
  by_cases zero : d.digits = 0
  · exact ⟨'0', _, by simp [zero]; rfl, by decide⟩
  · simp only [zero, if_false, digits]
    split
    · split
      · exact ⟨'0', _, by simp; rfl, by decide⟩
      · split
        · exact ⟨first, _, by simp; rfl, digit⟩
        · exact ⟨first, _, by simp; rfl, digit⟩
    · split
      · exact ⟨first, _, by simp; rfl, digit⟩
      · exact ⟨first, _, by simp; rfl, digit⟩

theorem toList_toText (x : Binary64) :
    x.toText.toList = (if x.negative then ['-'] else []) ++ (Binary64.layout.layOut (Shortest.decimal x)).toList := by
  unfold Binary64.toText
  cases x.negative <;> simp

theorem toText_integer_ne_double (i : Int) (x : Binary64) : toString i ≠ x.toText := by
  intro same
  obtain ⟨c, here, mark⟩ := exists_doubleMark (Shortest.decimal x)
  have there : c ∈ (toString i).toList := by
    rw [same, toList_toText]
    exact List.mem_append_right _ here
  rw [isDoubleMark_eq_false (isIntegerChar_of_mem there)] at mark
  cases mark

/-- The text of a number tells its kind. -/
theorem Number.toText_eq_iff (m n : Number) : m.toText = n.toText ↔ m.Alike n := by
  cases m with
  | integer i fits =>
    cases n with
    | integer j fits' =>
      exact ⟨toString_int_inj, fun equal => congrArg (fun k : Int => toString k) equal⟩
    | double y finite => exact iff_of_false (toText_integer_ne_double i y) id
  | double x finite =>
    cases n with
    | integer j fits => exact iff_of_false (Ne.symm (toText_integer_ne_double j x)) id
    | double y finite' => exact Iff.rfl

/-- A written number begins with a digit or a sign. -/
theorem Number.toText_eq_cons (n : Number) : ∃ c rest, n.toText.toList = c :: rest ∧ isIntegerChar c = true := by
  cases n with
  | integer i fits =>
    have nonempty : (toString i).toList ≠ [] := by
      rw [toList_toString_int]
      split
      · exact Nat.toDigits_ne_nil
      · exact List.cons_ne_nil _ _
    obtain ⟨c, rest, text⟩ := List.exists_cons_of_ne_nil nonempty
    exact ⟨c, rest, text, isIntegerChar_of_mem (text ▸ List.mem_cons_self)⟩
  | double x finite =>
    obtain ⟨c, rest, text, first⟩ := layOut_eq_cons (Shortest.decimal x)
    show ∃ c rest, x.toText.toList = c :: rest ∧ isIntegerChar c = true
    rw [toList_toText]
    cases x.negative with
    | false => exact ⟨c, rest, text, first⟩
    | true => exact ⟨'-', _, rfl, by decide⟩

namespace Json

/-! ## Quoted texts -/

theorem hexUnit_hexDigit : ∀ n < 32, hexUnit? '0' '0' (hexDigit (n / 16)) (hexDigit n) = some n := by decide

/-- A character that is written as it stands is read as it stands. -/
theorem stringBody_cons {c : Char} (quote : c ≠ '"') (backslash : c ≠ '\\') (control : ¬ c.toNat < 32)
    (cs : List Char) :
    stringBody (c :: cs) = (stringBody cs).bind fun r => some (c :: r.1, r.2) := by
  rw [stringBody]
  · simp only [control, backslash, decide_false, Bool.or_self, Bool.false_eq_true, if_false]
    rfl
  · exact quote
  · rintro a b d e rest rfl
    exact absurd rfl backslash
  · rintro d rest rfl
    exact absurd rfl backslash

/-- One escaped character is read back before the rest of the text. -/
theorem stringBody_escapeChar (c : Char) (cs : List Char) :
    stringBody (escapeChar c ++ cs) = (stringBody cs).bind fun r => some (c :: r.1, r.2) := by
  unfold escapeChar
  -- Seven characters have an escape of their own; the other control characters are written as numbers.
  by_cases quote : c = '"'
  · subst quote; simp [stringBody, simpleEscape?]
  by_cases backslash : c = '\\'
  · subst backslash; simp [stringBody, simpleEscape?]
  by_cases newline : c = '\n'
  · subst newline; simp [stringBody, simpleEscape?]
  by_cases carriage : c = '\r'
  · subst carriage; simp [stringBody, simpleEscape?]
  by_cases tab : c = '\t'
  · subst tab; simp [stringBody, simpleEscape?]
  simp only [quote, backslash, newline, carriage, tab, if_false]
  by_cases back : c.toNat = 8
  · have known : c = Char.ofNat 8 := by rw [← back, Char.ofNat_toNat]
    subst known; simp [stringBody, simpleEscape?]
  by_cases feed : c.toNat = 12
  · have known : c = Char.ofNat 12 := by rw [← feed, Char.ofNat_toNat]
    subst known; simp [stringBody, simpleEscape?]
  by_cases control : c.toNat < 32
  · have unit := hexUnit_hexDigit c.toNat control
    have low : ¬ (0xDC00 ≤ c.toNat ∧ c.toNat ≤ 0xDFFF) := by omega
    have high : ¬ (0xD800 ≤ c.toNat ∧ c.toNat ≤ 0xDBFF) := by omega
    simp [back, feed, control, stringBody, unit, low, high, Char.ofNat_toNat]
  · simp [back, feed, control, stringBody_cons quote backslash control]

/-- A text between quotes is read back as it is, whatever follows. -/
theorem stringBody_escaped (s rest : List Char) :
    stringBody (s.flatMap escapeChar ++ '"' :: rest) = some (s, rest) := by
  induction s with
  | nil => simp [stringBody]
  | cons c s ih =>
    rw [List.flatMap_cons, List.append_assoc, stringBody_escapeChar, ih]
    rfl

theorem quote_inj {s t : String} (same : quote s = quote t) : s = t := by
  have chars := (List.cons.inj (String.ofList_injective same)).2
  have read : some (s.toList, ([] : List Char)) = some (t.toList, []) := by
    rw [← stringBody_escaped s.toList, ← stringBody_escaped t.toList]
    exact congrArg stringBody chars
  exact String.toList_inj.mp (Prod.mk.inj (Option.some.inj read)).1

/-! ## Leaves -/

/-- The kinds of first characters: a digit or a sign stands for a number, and both truth values are one
    kind. -/
def leafKind (c : Char) : Char := if isIntegerChar c then '0' else if c = 'f' then 't' else c

/-- The kind of the first character of a leaf's text. -/
def initial : Value → Char
  | .null => 'n'
  | .bool _ => 't'
  | .number _ => '0'
  | .text _ => '"'
  | .list _ => '['
  | .object _ => '\x7b'

theorem head_leafText (v : Value) : (leafText v).toList.head?.map leafKind = some (initial v) := by
  cases v with
  | null => decide
  | bool b => cases b <;> decide
  | number n =>
    obtain ⟨c, rest, text, first⟩ := n.toText_eq_cons
    show n.toText.toList.head?.map leafKind = _
    rw [text]
    simp [leafKind, first, initial]
  | text s =>
    show (quote s).toList.head?.map leafKind = _
    rw [quote, String.toList_ofList]
    rfl
  | list items =>
    show ("[]".toList.head?.map leafKind) = some '['
    decide
  | object es =>
    show ("\x7b\x7d".toList.head?.map leafKind) = some '\x7b'
    decide

/-- Leaves with one text are the same tree, and the other way round. -/
theorem leafText_eq_iff {v w : Value} (left : v.isLeaf = true) (right : w.isLeaf = true) :
    leafText v = leafText w ↔ v.Alike w := by
  constructor
  · intro same
    have kinds : initial v = initial w := Option.some.inj (by rw [← head_leafText, ← head_leafText, same])
    cases v <;> cases w <;> simp only [initial, Char.reduceEq] at kinds
    case null => exact .null
    case bool b c =>
      cases b <;> cases c
      · exact .bool false
      · exact absurd same (by decide)
      · exact absurd same (by decide)
      · exact .bool true
    case number m n => exact .number ((Number.toText_eq_iff m n).mp same)
    case text s t =>
      rw [quote_inj same]
      exact .text t
    case list xs ys =>
      rw [Value.isLeaf_list.mp left, Value.isLeaf_list.mp right]
      exact .list rfl (by simp)
    case object es fs =>
      rw [Value.isLeaf_object.mp left, Value.isLeaf_object.mp right]
      exact .object (fun _ => rfl) (by simp [Value.lookup])
  · intro alike
    cases alike with
    | null | bool | text => rfl
    | number alike => exact (Number.toText_eq_iff ..).mpr alike
    | list => rfl
    | object => rfl

end Json
end Scorecard

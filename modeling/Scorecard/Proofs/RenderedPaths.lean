import Scorecard.Path
import Scorecard.Proofs.DigitRuns

/-!
# Rendered paths are told apart

The text of a step ends where the text of its path ends or a dot stands that no backslash precedes. So
the text of a path can be taken apart step by step (`render_split`), and two paths that lead somewhere
below the root are rendered alike only if they are the same (`renderChars_inj`).
-/

namespace Scorecard.PathStep

variable {r s : List Char}

/-- What follows the text of a step: nothing, or the dot in front of the next step. -/
def Ends (rest : List Char) : Prop := ∀ c more, rest = c :: more → c = '.'

theorem Ends.nil : Ends [] := by
  intro c more impossible
  cases impossible

theorem Ends.dot (more : List Char) : Ends ('.' :: more) := by
  intro c rest equal
  cases equal
  rfl

/-! ## Keys -/

theorem escapeChar_of_special {c : Char} (special : c = '\\' ∨ c = '.') : escapeChar c = ['\\', c] := by
  simp [escapeChar, special]

theorem escapeChar_of_plain {c : Char} (plain : ¬ (c = '\\' ∨ c = '.')) : escapeChar c = [c] := by
  simp [escapeChar, plain]

/-- A rendered character never looks like the end of its step. -/
theorem ends_ne_escapeChar (ends : Ends r) (c : Char) (more : List Char) : r ≠ escapeChar c ++ more := by
  intro same
  by_cases special : c = '\\' ∨ c = '.'
  · rw [escapeChar_of_special special] at same
    exact absurd (ends _ _ same) (by decide)
  · rw [escapeChar_of_plain special] at same
    exact special (.inr (ends _ _ same))

theorem escapeChar_split {c d : Char} (same : escapeChar c ++ r = escapeChar d ++ s) : c = d ∧ r = s := by
  by_cases left : c = '\\' ∨ c = '.' <;> by_cases right : d = '\\' ∨ d = '.'
  · rw [escapeChar_of_special left, escapeChar_of_special right] at same
    simpa using same
  · rw [escapeChar_of_special left, escapeChar_of_plain right] at same
    exact absurd (.inl (List.cons.inj same).1.symm) right
  · rw [escapeChar_of_plain left, escapeChar_of_special right] at same
    exact absurd (.inl (List.cons.inj same).1) left
  · rw [escapeChar_of_plain left, escapeChar_of_plain right] at same
    simpa using same

/-- Escaped characters can be told from what follows them. -/
theorem escaped_split {a b : List Char} (endsLeft : Ends r) (endsRight : Ends s)
    (same : a.flatMap escapeChar ++ r = b.flatMap escapeChar ++ s) : a = b ∧ r = s := by
  induction a generalizing b with
  | nil =>
    cases b with
    | nil => exact ⟨rfl, same⟩
    | cons d b =>
      rw [List.flatMap_cons, List.append_assoc] at same
      exact absurd same (ends_ne_escapeChar endsLeft d _)
  | cons c a ih =>
    cases b with
    | nil =>
      rw [List.flatMap_cons, List.append_assoc] at same
      exact absurd same.symm (ends_ne_escapeChar endsRight c _)
    | cons d b =>
      rw [List.flatMap_cons, List.flatMap_cons, List.append_assoc, List.append_assoc] at same
      obtain ⟨rfl, rest⟩ := escapeChar_split same
      obtain ⟨rfl, equal⟩ := ih rest
      exact ⟨rfl, equal⟩

theorem looksLikeIndex_iff (name : List Char) :
    looksLikeIndex name = true ↔ name ≠ [] ∧ ∀ c ∈ name, c.isDigit = true := by
  cases name <;> simp [looksLikeIndex]

theorem escapeChar_of_isDigit {c : Char} (digit : c.isDigit = true) : escapeChar c = [c] := by
  refine escapeChar_of_plain ?_
  rintro (rfl | rfl) <;> exact absurd digit (by decide)

/-- The backslash in front of a key of digits is none of an escaped character. -/
theorem marked_ne_escaped {a b : List Char} (index : looksLikeIndex a = true) (ends : Ends s) :
    '\\' :: (a.flatMap escapeChar ++ r) ≠ b.flatMap escapeChar ++ s := by
  intro same
  obtain ⟨nonempty, digits⟩ := (looksLikeIndex_iff a).mp index
  obtain ⟨first, a, rfl⟩ := List.exists_cons_of_ne_nil nonempty
  have digit := digits first List.mem_cons_self
  cases b with
  | nil =>
    exact absurd (ends _ _ same.symm) (by decide)
  | cons d b =>
    rw [List.flatMap_cons, List.flatMap_cons, escapeChar_of_isDigit digit] at same
    by_cases special : d = '\\' ∨ d = '.'
    · rw [escapeChar_of_special special] at same
      have equal : first = d := (List.cons.inj (List.cons.inj same).2).1
      subst equal
      rcases special with rfl | rfl <;> exact absurd digit (by decide)
    · rw [escapeChar_of_plain special] at same
      exact special (.inl (List.cons.inj same).1.symm)

theorem renderKey_split {a b : List Char} (endsLeft : Ends r) (endsRight : Ends s)
    (same : renderKey a ++ r = renderKey b ++ s) : a = b ∧ r = s := by
  by_cases left : looksLikeIndex a = true <;> by_cases right : looksLikeIndex b = true <;>
    simp only [renderKey, left, right, if_true, if_false, Bool.false_eq_true, List.nil_append, List.cons_append,
      List.cons.injEq, true_and] at same
  -- A backslash in front of both keys cancels; in front of one it would have to start an escaped character.
  · exact escaped_split endsLeft endsRight same
  · exact absurd same (marked_ne_escaped left endsRight)
  · exact absurd same.symm (marked_ne_escaped right endsLeft)
  · exact escaped_split endsLeft endsRight same

/-! ## Indices -/

theorem Ends.noDigitAhead (ends : Ends r) : NoDigitAhead r := by
  intro c more equal
  rw [ends c more equal]
  decide

theorem index_split {m n : Nat} (endsLeft : Ends r) (endsRight : Ends s)
    (same : Nat.toDigits 10 m ++ r = Nat.toDigits 10 n ++ s) : m = n ∧ r = s := by
  have left : (Nat.toDigits 10 m ++ r).takeWhile Char.isDigit = Nat.toDigits 10 m :=
    takeWhile_digits (fun _ => isDigit_of_mem_decimal) endsLeft.noDigitAhead
  have right : (Nat.toDigits 10 n ++ s).takeWhile Char.isDigit = Nat.toDigits 10 n :=
    takeWhile_digits (fun _ => isDigit_of_mem_decimal) endsRight.noDigitAhead
  have equal : m = n := toDigits_inj (by rw [← left, same, right])
  subst equal
  exact ⟨rfl, List.append_cancel_left same⟩

/-- A run of digits with the end of a step behind it is the text of its own digits only. -/
theorem escaped_eq_digits {a digits : List Char} (endsLeft : Ends r) (endsRight : Ends s)
    (all : ∀ c ∈ digits, c.isDigit = true) (same : a.flatMap escapeChar ++ r = digits ++ s) : a = digits := by
  induction a generalizing digits with
  | nil =>
    cases digits with
    | nil => rfl
    | cons c rest =>
      have dot := endsLeft c _ same
      subst dot
      exact absurd (all '.' List.mem_cons_self) (by decide)
  | cons d a ih =>
    rw [List.flatMap_cons, List.append_assoc] at same
    cases digits with
    | nil => exact absurd same.symm (ends_ne_escapeChar endsRight d _)
    | cons c rest =>
      have alone : escapeChar c = [c] := escapeChar_of_isDigit (all c List.mem_cons_self)
      have opened : escapeChar d ++ (a.flatMap escapeChar ++ r) = escapeChar c ++ (rest ++ s) := by
        rw [same, alone, List.cons_append, List.singleton_append]
      obtain ⟨rfl, later⟩ := escapeChar_split opened
      rw [ih (fun x here => all x (List.mem_cons_of_mem d here)) later]

/-- A text of digits alone is never that of a key. -/
theorem renderKey_ne_index {a : List Char} {n : Nat} (endsLeft : Ends r) (endsRight : Ends s) :
    renderKey a ++ r ≠ Nat.toDigits 10 n ++ s := by
  intro same
  -- A key of digits has a backslash in front, and any other key is empty or has more than digits.
  by_cases index : looksLikeIndex a = true
  · obtain ⟨c, rest, digits⟩ := List.exists_cons_of_ne_nil (Nat.toDigits_ne_nil (n := n) (b := 10))
    have digit : c.isDigit = true := isDigit_of_mem_decimal (digits ▸ List.mem_cons_self)
    rw [digits] at same
    simp only [renderKey, index, if_true, List.cons_append, List.nil_append] at same
    rw [← (List.cons.inj same).1] at digit
    exact absurd digit (by decide)
  · have key : renderKey a = a.flatMap escapeChar := by simp [renderKey, index]
    rw [key] at same
    have equal := escaped_eq_digits endsLeft endsRight (fun _ => isDigit_of_mem_decimal) same
    refine index ((looksLikeIndex_iff a).mpr ⟨?_, ?_⟩)
    · rw [equal]
      exact Nat.toDigits_ne_nil
    · rw [equal]
      exact fun _ => isDigit_of_mem_decimal

/-! ## Steps and paths -/

/-- The text of a step tells the step, and where it ends. -/
theorem render_split {one two : PathStep} (endsLeft : Ends r) (endsRight : Ends s)
    (same : one.render ++ r = two.render ++ s) : one = two ∧ r = s := by
  cases one with
  | key a =>
    cases two with
    | key b =>
      obtain ⟨names, rest⟩ := renderKey_split endsLeft endsRight same
      exact ⟨congrArg key (String.toList_inj.mp names), rest⟩
    | index n => exact absurd same (renderKey_ne_index endsLeft endsRight)
  | index m =>
    cases two with
    | key b => exact absurd same.symm (renderKey_ne_index endsRight endsLeft)
    | index n =>
      obtain ⟨equal, rest⟩ := index_split endsLeft endsRight same
      exact ⟨congrArg index equal, rest⟩

end PathStep

namespace Path

open PathStep

/-- What the text of a path has behind the text of its first step. -/
def behind : Path → List Char
  | [] => []
  | step :: rest => '.' :: renderChars (step :: rest)

theorem ends_behind (p : Path) : Ends (behind p) := by
  cases p with
  | nil => exact .nil
  | cons step rest => exact .dot _

theorem renderChars_cons (step : PathStep) (rest : Path) :
    renderChars (step :: rest) = step.render ++ behind rest := by
  cases rest with
  | nil => simp [renderChars, behind]
  | cons => rfl

/-- Below the root no two paths have one text. At the root there is one, the path of one empty key. -/
theorem renderChars_inj {p q : Path} (below : p ≠ []) (below' : q ≠ [])
    (same : renderChars p = renderChars q) : p = q := by
  induction p generalizing q with
  | nil => exact absurd rfl below
  | cons step rest ih =>
    obtain ⟨step', rest', rfl⟩ := List.exists_cons_of_ne_nil below'
    rw [renderChars_cons, renderChars_cons] at same
    obtain ⟨rfl, tails⟩ := render_split (ends_behind rest) (ends_behind rest') same
    -- Behind a last step there is nothing, behind any other a dot, so both paths end here or neither does.
    cases rest with
    | nil =>
      cases rest' with
      | nil => rfl
      | cons => cases tails
    | cons next more =>
      cases rest' with
      | nil => cases tails
      | cons next' more' => rw [ih (by simp) (by simp) (List.cons.inj tails).2]

theorem render_inj {p q : Path} (below : p ≠ []) (below' : q ≠ []) (same : p.render = q.render) : p = q :=
  renderChars_inj below below' (String.ofList_injective same)

/-- The text is that of the path, or continues it behind a dot. -/
def Encloses (p : Path) (text : String) : Prop := text = p.render ∨ ∃ rest, text = p.render ++ "." ++ rest

theorem behind_cons (step : PathStep) (rest : Path) : behind (step :: rest) = '.' :: (step.render ++ behind rest) :=
  congrArg _ (renderChars_cons step rest)

theorem behind_append (p q : Path) : behind (p ++ q) = behind p ++ behind q := by
  induction p with
  | nil => rfl
  | cons step rest ih => simp [behind_cons, ih]

theorem renderChars_append {p : Path} (below : p ≠ []) (q : Path) :
    renderChars (p ++ q) = renderChars p ++ behind q := by
  obtain ⟨step, rest, rfl⟩ := List.exists_cons_of_ne_nil below
  rw [List.cons_append, renderChars_cons, renderChars_cons, behind_append, List.append_assoc]

/-- Behind the text of a path a dot leads to the texts of longer paths only. -/
theorem prefix_of_renderChars {p q : Path} (below : p ≠ []) (below' : q ≠ []) {more : List Char}
    (same : renderChars q = renderChars p ++ '.' :: more) : p <+: q := by
  induction p generalizing q with
  | nil => exact absurd rfl below
  | cons step rest ih =>
    obtain ⟨step', rest', rfl⟩ := List.exists_cons_of_ne_nil below'
    have ends : Ends (behind rest ++ '.' :: more) := by
      cases rest with
      | nil => exact .dot _
      | cons next later => exact .dot _
    rw [renderChars_cons, renderChars_cons, List.append_assoc] at same
    obtain ⟨rfl, tails⟩ := render_split (ends_behind rest') ends same
    cases rest with
    | nil => exact ⟨rest', rfl⟩
    | cons next later =>
      cases rest' with
      | nil => cases tails
      | cons next' later' =>
        have further := ih (by simp) (by simp) (List.cons.inj tails).2
        exact (List.prefix_cons_inj step').mpr further

/-- The paths that the text of a path encloses are those that continue the path. -/
theorem encloses_render_iff {p q : Path} (below : p ≠ []) (below' : q ≠ []) : p.Encloses q.render ↔ p <+: q := by
  constructor
  · rintro (same | ⟨rest, same⟩)
    · exact render_inj below' below same ▸ List.prefix_refl _
    · have chars := congrArg String.toList same
      simp only [render, String.toList_append, String.toList_ofList, List.append_assoc] at chars
      exact prefix_of_renderChars below below' chars
  · rintro ⟨further, rfl⟩
    cases further with
    | nil => exact .inl (by rw [List.append_nil])
    | cons step rest =>
      refine .inr ⟨render (step :: rest), String.toList_inj.mp ?_⟩
      simp [render, renderChars_append below, behind]

end Path
end Scorecard

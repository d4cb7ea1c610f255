import Scorecard.Proofs.RenderedPaths

/-!
# The text of a path is decoded

The text of a path is cut at the dots that no backslash escapes. Between them stand the texts of its steps and nothing
else (`Path.segments_renderChars`): an escape holds a dot of a key together with the key, and the dots between steps
are never escaped. Each segment then tells its step, a run of digits an index and anything else a key
(`PathStep.ofSegment_render`). A path below the root is thereby read back from its text (`Path.render_decodable`).
-/

namespace Scorecard

namespace PathStep

/-! ## Segments -/

/-- The key that a segment stands for: a backslash only tells how to take the character behind it. -/
def unescape : List Char → List Char
  | '\\' :: c :: rest => c :: unescape rest
  | c :: rest => c :: unescape rest
  | [] => []

/-- The step that a segment stands for. -/
def ofSegment (segment : List Char) : PathStep :=
  if looksLikeIndex segment then .index (Nat.ofDigitChars 10 segment 0)
  else .key (String.ofList (unescape segment))

theorem unescape_cons_plain {c : Char} (plain : c ≠ '\\') (rest : List Char) :
    unescape (c :: rest) = c :: unescape rest := by
  cases rest <;> simp [unescape, plain]

theorem unescape_escaped (name : List Char) : unescape (name.flatMap escapeChar) = name := by
  induction name with
  | nil => rfl
  | cons c name ih =>
    by_cases special : c = '\\' ∨ c = '.'
    · rw [List.flatMap_cons, escapeChar_of_special special]
      simp [unescape, ih]
    · rw [List.flatMap_cons, escapeChar_of_plain special, List.singleton_append,
        unescape_cons_plain fun backslash => special (.inl backslash), ih]

/-- A key is written escaped, and behind a backslash if it is a run of digits. Such a backslash escapes the first
    digit, which has no escape of its own. -/
theorem renderKey_cases (name : List Char) :
    looksLikeIndex name ≠ true ∧ renderKey name = name.flatMap escapeChar ∨
      ∃ c rest, name = c :: rest ∧ renderKey name = ['\\', c] ++ rest.flatMap escapeChar := by
  by_cases index : looksLikeIndex name = true
  · obtain ⟨nonempty, digits⟩ := (looksLikeIndex_iff name).mp index
    obtain ⟨c, rest, rfl⟩ := List.exists_cons_of_ne_nil nonempty
    have alone : escapeChar c = [c] := escapeChar_of_isDigit (digits c List.mem_cons_self)
    exact .inr ⟨c, rest, rfl, by simp [renderKey, index, alone]⟩
  · exact .inl ⟨index, by rw [renderKey, if_neg index, List.nil_append]⟩

theorem unescape_renderKey (name : List Char) : unescape (renderKey name) = name := by
  rcases renderKey_cases name with ⟨-, escaped⟩ | ⟨c, rest, rfl, marked⟩
  · rw [escaped, unescape_escaped]
  · simp [marked, unescape, unescape_escaped]

theorem looksLikeIndex_renderKey (name : List Char) : looksLikeIndex (renderKey name) = false := by
  rw [Bool.eq_false_iff]
  intro digits
  rcases renderKey_cases name with ⟨other, escaped⟩ | ⟨c, rest, rfl, marked⟩
  · -- An escaped key of digits alone would be a key of digits itself.
    rw [escaped] at digits
    obtain ⟨-, all⟩ := (looksLikeIndex_iff _).mp digits
    have same : name = name.flatMap escapeChar := escaped_eq_digits .nil .nil all rfl
    rw [← same] at digits
    exact other digits
  · rw [marked] at digits
    obtain ⟨-, all⟩ := (looksLikeIndex_iff _).mp digits
    exact absurd (all '\\' (by simp)) (by decide)

theorem looksLikeIndex_decimal (n : Nat) : looksLikeIndex (Nat.toDigits 10 n) = true :=
  (looksLikeIndex_iff _).mpr ⟨Nat.toDigits_ne_nil, fun _ => isDigit_of_mem_decimal⟩

theorem ofSegment_render (step : PathStep) : ofSegment step.render = step := by
  cases step with
  | key name => simp [ofSegment, render, looksLikeIndex_renderKey, unescape_renderKey]
  | index place => simp [ofSegment, render, looksLikeIndex_decimal]

end PathStep

namespace Path

open PathStep

/-- The text cut at the dots that no backslash stands in front of to escape them. -/
def segments : List Char → List (List Char)
  | [] => [[]]
  | '.' :: rest => [] :: segments rest
  | '\\' :: c :: rest => (segments rest).modifyHead fun segment => '\\' :: c :: segment
  | c :: rest => (segments rest).modifyHead (c :: ·)

/-- Wherever the text stands, no cut is made in it. -/
def IsUncut (cs : List Char) : Prop := ∀ rest, segments (cs ++ rest) = (segments rest).modifyHead (cs ++ ·)

theorem IsUncut.nil : IsUncut [] := by
  intro rest
  rw [List.nil_append]
  cases segments rest <;> rfl

theorem IsUncut.append {cs ds : List Char} (front : IsUncut cs) (back : IsUncut ds) : IsUncut (cs ++ ds) := by
  intro rest
  rw [List.append_assoc, front, back, List.modifyHead_modifyHead]
  simp [Function.comp_def]

theorem IsUncut.flatMap {cs : List Char} {f : Char → List Char} (each : ∀ c ∈ cs, IsUncut (f c)) :
    IsUncut (cs.flatMap f) := by
  induction cs with
  | nil => exact .nil
  | cons c rest ih =>
    rw [List.flatMap_cons]
    exact (each c List.mem_cons_self).append (ih fun d here => each d (List.mem_cons_of_mem c here))

theorem isUncut_plain {c : Char} (plain : ¬ (c = '\\' ∨ c = '.')) : IsUncut [c] := by
  intro rest
  obtain ⟨noEscape, noDot⟩ := not_or.mp plain
  cases rest <;> simp [segments, noEscape]

theorem isUncut_pair (c : Char) : IsUncut ['\\', c] := fun _ => rfl

theorem isUncut_escapeChar (c : Char) : IsUncut (escapeChar c) := by
  by_cases special : c = '\\' ∨ c = '.'
  · rw [escapeChar_of_special special]
    exact isUncut_pair c
  · rw [escapeChar_of_plain special]
    exact isUncut_plain special

theorem isUncut_digits {ds : List Char} (digits : ∀ c ∈ ds, c.isDigit = true) : IsUncut ds := by
  rw [← List.flatMap_singleton' ds]
  refine .flatMap fun c here => ?_
  rw [← escapeChar_of_isDigit (digits c here)]
  exact isUncut_escapeChar c

theorem isUncut_renderKey (name : List Char) : IsUncut (renderKey name) := by
  rcases renderKey_cases name with ⟨-, escaped⟩ | ⟨c, rest, -, marked⟩
  · rw [escaped]
    exact .flatMap fun c _ => isUncut_escapeChar c
  · rw [marked]
    exact (isUncut_pair c).append (.flatMap fun c _ => isUncut_escapeChar c)

/-- No dot within the text of a step is one between steps. -/
theorem isUncut_render (step : PathStep) : IsUncut step.render := by
  cases step with
  | key name => exact isUncut_renderKey name.toList
  | index place => exact isUncut_digits fun _ => isDigit_of_mem_decimal

/-- The segments of the text of a path are the texts of its steps. -/
theorem segments_renderChars {p : Path} (below : p ≠ []) : segments (renderChars p) = p.map PathStep.render := by
  induction p with
  | nil => exact absurd rfl below
  | cons step rest ih =>
    rw [renderChars_cons, isUncut_render, List.map_cons]
    cases rest with
    | nil => simp [behind, segments]
    | cons next more => simp [behind, segments, ih]

theorem renderChars_eq_intercalate (p : Path) : renderChars p = ['.'].intercalate (p.map PathStep.render) := by
  induction p with
  | nil => rfl
  | cons step rest ih =>
    cases rest with
    | nil => simp [renderChars]
    | cons next more => simp_all [renderChars]

/-- The text of a path is cut into the texts of its steps, each of which tells its step; therefore it is the text of no
    other path. -/
theorem render_decodable :
    (∀ p : Path, p.render.toList = ['.'].intercalate (p.map PathStep.render)) ∧
      (∀ p : Path, p ≠ [] → segments p.render.toList = p.map PathStep.render) ∧
      (∀ step : PathStep, ofSegment step.render = step) ∧
      ∀ p q : Path, p ≠ [] → q ≠ [] → p.render = q.render → p = q := by
  have cut {p : Path} (below : p ≠ []) : segments p.render.toList = p.map PathStep.render := by
    rw [render, String.toList_ofList, segments_renderChars below]
  have told (p : Path) : (p.map PathStep.render).map ofSegment = p := by
    simp [List.map_map, Function.comp_def, ofSegment_render]
  refine ⟨fun p => ?_, fun p below => cut below, ofSegment_render, fun p q below below' same => ?_⟩
  · rw [render, String.toList_ofList, renderChars_eq_intercalate]
  · calc
      p = (segments p.render.toList).map ofSegment := by rw [cut below, told]
      _ = (segments q.render.toList).map ofSegment := by rw [same]
      _ = q := by rw [cut below', told]

/-- Empty keys, a key of digits beside an index, and a backslash in front of a dot between steps. -/
theorem render_decodable_hostile :
    segments "a\\.b..\\7.7.\\\\.".toList =
        [.key "a.b", .key "", .key "7", .index 7, .key "\\", .key ""].map PathStep.render ∧
      ∀ q : Path, q ≠ [] → q.render = "a\\.b..\\7.7.\\\\." →
        q = [.key "a.b", .key "", .key "7", .index 7, .key "\\", .key ""] := by
  have text : render [.key "a.b", .key "", .key "7", .index 7, .key "\\", .key ""] = "a\\.b..\\7.7.\\\\." := by
    decide +kernel
  rw [← text]
  exact ⟨render_decodable.2.1 _ (by simp), fun q below same => render_decodable.2.2.2 q _ below (by simp) same⟩

end Path
end Scorecard

import Mathlib.Data.List.Forall2
import Mathlib.Data.List.Nodup
import Mathlib.Data.Option.Basic
import Scorecard.Proofs.StepReports

/-!
# The entries of a log

The change of generation and the new scales look at each scenario by itself and enter it into their log if there is
something to say about it (`Generation.log_eq_filterMap`, `Rescaling.log_eq_filterMap`). An entry does not tell the
place of its scenario, only the id. Where ids do not repeat that is enough: two lists with the same ids and alike
entries have alike entries, or both none, at each place (`alike_entries`).
-/

namespace Scorecard

open Migration

/-! ## Entries under ids -/

theorem forall₂_map_eq_iff {α β : Type} (f : α → β) (xs ys : List α) :
    List.Forall₂ (fun x y => f x = f y) xs ys ↔ xs.map f = ys.map f := by
  rw [← List.forall₂_eq_eq_eq, List.forall₂_map_left_iff, List.forall₂_map_right_iff]

section Entries

variable {α β : Type} {logged? : α → Option β} {idOf : α → String} {key : β → String} {same : β → β → Prop}

/-- No entry of a list has an id that the list lacks. -/
theorem key_ne_of_not_mem (keyed : ∀ x e, logged? x = some e → key e = idOf x) {xs : List α} {id : String}
    (unknown : id ∉ xs.map idOf) {e : β} (listed : e ∈ xs.filterMap logged?) : key e ≠ id := by
  obtain ⟨x, here, entered⟩ := List.mem_filterMap.mp listed
  rintro rfl
  exact unknown (List.mem_map.mpr ⟨x, here, (keyed x e entered).symm⟩)

/-- Lists with the same ids, none of them twice, and with alike entries have alike entries at each place. The induction
    is on the lists: where only one of two first members had an entry, the other list would have that entry further
    down, under an id that it does not have there. -/
theorem alike_entries (key : β → String) (keyed : ∀ x e, logged? x = some e → key e = idOf x)
    (alike : ∀ d e, same d e → key d = key e) {xs ys : List α} (ids : xs.map idOf = ys.map idOf)
    (distinct : (xs.map idOf).Nodup) (entries : List.Forall₂ same (xs.filterMap logged?) (ys.filterMap logged?)) :
    List.Forall₂ (fun x y => Option.Rel same (logged? x) (logged? y)) xs ys := by
  induction xs generalizing ys with
  | nil =>
    cases ys with
    | nil => exact .nil
    | cons => cases ids
  | cons x rest ih =>
    cases ys with
    | nil => cases ids
    | cons y later =>
      obtain ⟨id, others⟩ := List.cons.inj ids
      obtain ⟨fresh, apart⟩ := List.nodup_cons.mp distinct
      cases left : logged? x with
      | none =>
        cases right : logged? y with
        | none =>
          rw [List.filterMap_cons_none left, List.filterMap_cons_none right] at entries
          exact .cons (by rw [left, right]; exact .none) (ih others apart entries)
        | some e =>
          rw [List.filterMap_cons_none left, List.filterMap_cons_some right] at entries
          obtain ⟨d, _, equal, -, further⟩ := List.forall₂_cons_right_iff.mp entries
          have listed : d ∈ rest.filterMap logged? := further ▸ List.mem_cons_self
          have known : key d = idOf x := (alike d e equal).trans ((keyed y e right).trans id.symm)
          exact absurd known (key_ne_of_not_mem keyed fresh listed)
      | some d =>
        cases right : logged? y with
        | none =>
          rw [List.filterMap_cons_some left, List.filterMap_cons_none right] at entries
          obtain ⟨e, _, equal, -, further⟩ := List.forall₂_cons_left_iff.mp entries
          have listed : e ∈ later.filterMap logged? := further ▸ List.mem_cons_self
          have known : key e = idOf x := (alike d e equal).symm.trans (keyed x d left)
          exact absurd known (key_ne_of_not_mem keyed (others ▸ fresh) listed)
        | some e =>
          rw [List.filterMap_cons_some left, List.filterMap_cons_some right] at entries
          obtain ⟨equal, entries⟩ := List.forall₂_cons.mp entries
          exact .cons (by rw [left, right]; exact .some equal) (ih others apart entries)

end Entries

/-! ## Entries of the change of generation -/

/-- The entries of a report of the change of generation; a report without a log has none. -/
def Migration.Report.reshaped (report : Report) : List ReshapedScenario :=
  match report.log with
  | some (.generation log) => log.scenarios
  | _ => []

instance (s : Third.Scenario) : Decidable s.IsReshaped := decidable_of_iff _ (Generation.reshaped_isEmpty s)

namespace Generation

/-- The entry of a scenario, if there is something to log about it. -/
def logged? (s : Third.Scenario) : Option ReshapedScenario := Option.guard (fun e => !e.isEmpty) (reshaped s)

theorem id_logged? (s : Third.Scenario) (entry : ReshapedScenario) (entered : logged? s = some entry) :
    entry.id = s.id := by
  obtain ⟨rfl, -⟩ := Option.guard_eq_some_iff.mp entered
  rfl

theorem reshaped_step (c : Third.Card) : (step c).2.reshaped = log c := by
  cases entries : log c <;> simp [step, report, Report.reshaped, entries]

theorem log_eq_filterMap (c : Third.Card) : log c = c.scenarios.filterMap logged? := by
  rw [log, ← List.filterMap_eq_filter, List.filterMap_map]
  rfl

theorem log_eq (c : Third.Card) : log c = (c.scenarios.filter fun s => s.IsReshaped).map reshaped := by
  rw [log, List.filter_map]
  refine congrArg _ (List.filter_congr fun s _ => ?_)
  simp [← reshaped_isEmpty]

/-- A scenario has its entry in the log exactly if there is something to log about it. -/
theorem reshaped_mem_log {c : Third.Card} {s : Third.Scenario} (here : s ∈ c.scenarios) :
    reshaped s ∈ (step c).2.reshaped ↔ s.IsReshaped := by
  simp only [reshaped_step, log, List.mem_filter, Bool.not_eq_true', reshaped_isEmpty, and_iff_right_iff_imp]
  exact fun _ => List.mem_map_of_mem here

end Generation

/-! ## Entries of the new scales -/

/-- The entries of a report of the new scales; a report without a log has none. -/
def Migration.Report.rescaled (report : Report) : List RescaledScenario :=
  match report.log with
  | some (.rescaling log) => log.scenarios
  | _ => []

namespace Rescaling

/-- The entry of a scenario, if a number changed. -/
def logged? (s : Fourth.Scenario) : Option RescaledScenario := Option.guard (fun e => !e.isEmpty) (rescaled s)

theorem id_logged? (s : Fourth.Scenario) (entry : RescaledScenario) (entered : logged? s = some entry) :
    entry.id = s.id := by
  obtain ⟨rfl, -⟩ := Option.guard_eq_some_iff.mp entered
  rfl

theorem rescaled_step (c : Fourth.Card) : (step c).2.rescaled = log c := by
  cases entries : log c <;> simp [step, report, Report.rescaled, entries]

theorem log_eq_filterMap (c : Fourth.Card) : log c = c.scenarios.filterMap logged? := by
  rw [log, ← List.filterMap_eq_filter, List.filterMap_map]
  rfl

end Rescaling
end Scorecard

import Mathlib.Data.List.Forall2
import Scorecard.Proofs.PublicationTime

/-!
# The stamping and its log

What the stamping owes is said without it (`Stamping.IsExact`): every action has the stamp, nothing but stamps
differs, and the log has one entry for each scenario with a stamp that was another one, in the order of the card,
and in the entry one line for each such action. Scenarios and actions are told apart by their places, so ids may
repeat. A card and a report owe that exactly if they are the result of the step (`Stamping.step_isExact_iff`).
-/

namespace Scorecard

open Migration

theorem forall₂_iff_eq_map {α β : Type} {related : β → α → Prop} {f : α → β}
    (only : ∀ y x, related y x ↔ y = f x) (ys : List β) (xs : List α) :
    List.Forall₂ related ys xs ↔ ys = xs.map f := by
  have equal : related = fun y x => y = f x := by
    funext y x
    exact propext (only y x)
  rw [equal, ← List.forall₂_eq_eq_eq, List.forall₂_map_right_iff]

/-! ## Entries -/

/-- The entries of a report of the stamping; a report without a log has none. -/
def Migration.Report.stamped (report : Report) : List StampedScenario :=
  match report.log with
  | some (.stamping log) => log.scenarios
  | _ => []

namespace Migration

variable (published : Option Timestamp)

/-- The line about an action that gets the stamp. -/
structure StampedAction.Records (entry : StampedAction) (a : Fourth.Action) : Prop where
  id : entry.id = a.id
  title : entry.title = a.title
  lastUpdated : entry.lastUpdated = published

/-- The entry about a scenario: its lines are about the actions that had another stamp, in their order. -/
structure StampedScenario.Records (entry : StampedScenario) (s : Fourth.Scenario) : Prop where
  id : entry.id = s.id
  title : entry.title = s.title
  changedActions : List.Forall₂ (StampedAction.Records published) entry.changedActions
    (s.actions.filter fun a => a.lastUpdated ≠ published)

theorem StampedAction.records_iff (entry : StampedAction) (a : Fourth.Action) :
    entry.Records published a ↔ entry = ⟨a.id, a.title, published⟩ := by
  obtain ⟨id, title, lastUpdated⟩ := entry
  constructor
  · rintro ⟨rfl, rfl, rfl⟩
    rfl
  · intro equal
    cases equal
    exact ⟨rfl, rfl, rfl⟩

theorem StampedScenario.records_iff (entry : StampedScenario) (s : Fourth.Scenario) :
    entry.Records published s ↔ entry = ⟨s.id, s.title, Stamping.stampedActions published s⟩ := by
  have lines (actions : List StampedAction) : List.Forall₂ (StampedAction.Records published) actions
      (s.actions.filter fun a => a.lastUpdated ≠ published) ↔ actions = Stamping.stampedActions published s :=
    forall₂_iff_eq_map (StampedAction.records_iff published) ..
  obtain ⟨id, title, actions⟩ := entry
  constructor
  · rintro ⟨rfl, rfl, about⟩
    exact congrArg _ ((lines actions).mp about)
  · intro equal
    cases equal
    exact ⟨rfl, rfl, (lines _).mpr rfl⟩

end Migration

/-- One of the actions has another stamp. -/
def Fourth.Scenario.IsStale (published : Option Timestamp) (s : Fourth.Scenario) : Prop :=
  ∃ a ∈ s.actions, a.lastUpdated ≠ published

instance (published : Option Timestamp) (s : Fourth.Scenario) : Decidable (s.IsStale published) :=
  inferInstanceAs (Decidable (∃ a ∈ s.actions, a.lastUpdated ≠ published))

namespace Stamping

variable {published : Option Timestamp} {c stamped : Fourth.Card} {report : Report}

theorem stamped?_eq (published : Option Timestamp) (s : Fourth.Scenario) : stamped? published s =
    if s.IsStale published then some ⟨s.id, s.title, stampedActions published s⟩ else none := by
  split
  · next stale =>
    cases entered : stamped? published s with
    | none =>
      obtain ⟨a, here, other⟩ := stale
      exact absurd ((stamped?_eq_none_iff published s).mp entered a here) other
    | some entry =>
      unfold stamped? at entered
      split at entered
      · cases entered
      · exact entered.symm
  · next fresh =>
    refine (stamped?_eq_none_iff published s).mpr fun a here => ?_
    by_contra other
    exact fresh ⟨a, here, other⟩

theorem log_eq (published : Option Timestamp) (c : Fourth.Card) : Stamping.log published c =
    (c.scenarios.filter fun s => s.IsStale published).map fun s => ⟨s.id, s.title, stampedActions published s⟩ := by
  rw [Stamping.log]
  induction c.scenarios with
  | nil => rfl
  | cons s rest ih =>
    rw [List.filterMap_cons, stamped?_eq, ih, List.filter_cons]
    by_cases stale : s.IsStale published <;> simp [stale]

theorem stamped_report (published : Option Timestamp) (c : Fourth.Card) :
    (Stamping.report published c).stamped = Stamping.log published c := by
  cases entries : Stamping.log published c <;> simp [Stamping.report, Report.stamped, entries]

/-- The entries of the log are about the scenarios with an action that had another stamp, one about each. -/
theorem records_iff_log (entries : List StampedScenario) (c : Fourth.Card) :
    List.Forall₂ (StampedScenario.Records published) entries (c.scenarios.filter fun s => s.IsStale published) ↔
      entries = Stamping.log published c := by
  rw [log_eq]
  exact forall₂_iff_eq_map (StampedScenario.records_iff published) ..

/-! ## Cards -/

theorem card_of_unstamped (published : Option Timestamp) (c : Fourth.Card) :
    card published c.unstamped = card published c := by
  simp [card, Fourth.Card.unstamped, Fourth.Scenario.unstamped, scenario, action_eq, Fourth.Action.unstamped]

theorem unstamped_card (published : Option Timestamp) (c : Fourth.Card) :
    (card published c).unstamped = c.unstamped := by
  simp [card, Fourth.Card.unstamped, Fourth.Scenario.unstamped, scenario, action_eq, Fourth.Action.unstamped]

/-- A card with the stamp on every action is made of a card if the two differ in stamps only: to stamp it again does
    nothing, and what its stamps were does not matter. -/
theorem eq_card_iff : stamped = card published c ↔
    (∀ s ∈ stamped.scenarios, ∀ a ∈ s.actions, a.lastUpdated = published) ∧ stamped.unstamped = c.unstamped := by
  constructor
  · rintro rfl
    refine ⟨fun s here a there => ?_, unstamped_card published c⟩
    exact stamps_card published c a.lastUpdated (Fourth.mem_stamps.mpr ⟨s, here, a, there, rfl⟩)
  · rintro ⟨stamps, rest⟩
    have settled : card published stamped = stamped := by
      refine card_eq_self fun stamp listed => ?_
      obtain ⟨s, here, a, there, rfl⟩ := Fourth.mem_stamps.mp listed
      exact stamps s here a there
    rw [← settled, ← card_of_unstamped, rest, card_of_unstamped]

theorem card_ne_self_iff (published : Option Timestamp) (c : Fourth.Card) :
    card published c ≠ c ↔ Stamping.log published c ≠ [] := by
  rw [log_ne_nil]
  constructor
  · intro differs
    by_contra settled
    refine differs (card_eq_self fun stamp here => ?_)
    by_contra other
    exact settled ⟨stamp, here, other⟩
  · rintro ⟨stamp, here, other⟩ same
    exact other (stamps_card published c stamp (same.symm ▸ here))

/-! ## The step -/

/-- What is owed for a card under a time of publication, said of the stamped card and the report. -/
structure IsExact (published : Option Timestamp) (c stamped : Fourth.Card) (report : Report) : Prop where
  stamps : ∀ s ∈ stamped.scenarios, ∀ a ∈ s.actions, a.lastUpdated = published
  rest : stamped.unstamped = c.unstamped
  entries : List.Forall₂ (StampedScenario.Records published) report.stamped
    (c.scenarios.filter fun s => s.IsStale published)
  log : report.log = if report.stamped = [] then none else some (.stamping ⟨report.stamped⟩)
  changes_iff_logged : report.changes = true ↔ report.stamped ≠ []
  changes_iff_differs : report.changes = true ↔ stamped ≠ c
  approval : report.requiresNewApproval = false

/-- The step gives what is owed, and nothing else would do. -/
theorem step_isExact_iff (published : Option Timestamp) (c stamped : Fourth.Card) (report : Report) :
    step published c = (stamped, report) ↔ IsExact published c stamped report := by
  have flag (entries : List StampedScenario) : (!entries.isEmpty) = true ↔ entries ≠ [] := by simp
  constructor
  · intro result
    cases result
    obtain ⟨stamps, rest⟩ := eq_card_iff.mp (Eq.refl (card published c))
    have entries := stamped_report published c
    refine ⟨stamps, rest, (records_iff_log ..).mpr entries, ?_, ?_, ?_, rfl⟩
    · rw [entries, Stamping.report]
      simp
    · rw [entries, Stamping.report, flag]
    · rw [card_ne_self_iff, Stamping.report, flag]
  · rintro ⟨stamps, rest, entries, log, changes_iff_logged, -, approval⟩
    have made := eq_card_iff.mpr ⟨stamps, rest⟩
    rw [(records_iff_log ..).mp entries] at log changes_iff_logged
    obtain ⟨changes, requiresNewApproval, kept⟩ := report
    have changes_eq : changes = !(Stamping.log published c).isEmpty :=
      Bool.eq_iff_iff.mpr (changes_iff_logged.trans (flag _).symm)
    change requiresNewApproval = false at approval
    change kept = _ at log
    simp [step, made, Stamping.report, changes_eq, approval, log]

end Stamping
end Scorecard

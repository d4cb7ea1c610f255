import Scorecard.Proofs.ExactStatus
import Scorecard.Proofs.LoggedEntries

/-!
# Results that are alike

Two results can be compared by value, so that the two zeros agree and not-a-number agrees with nothing, or as they
are. Both are one comparison over a relation of numbers: everything but the numbers is equal, and the numbers are
related (`Fourth.Card.SameBy`). What is proved of two runs with alike results for any such relation holds for both
notions (`Fourth.Card.sameBy_value_iff`, `Fourth.Card.sameBy_eq_iff`).
-/

namespace Scorecard

open Migration

/-- Two numbers have the same value. -/
def Binary64.SameValue (x y : Binary64) : Prop := (x == y) = true

theorem forall₂_beq_iff {α : Type} [BEq α] (xs ys : List α) :
    List.Forall₂ (fun x y => (x == y) = true) xs ys ↔ (xs == ys) = true := by
  induction xs generalizing ys with
  | nil => cases ys <;> simp
  | cons x rest ih =>
    cases ys with
    | nil => simp
    | cons y later => rw [List.forall₂_cons, ih, List.cons_beq_cons, Bool.and_eq_true]

section Relation

variable (same : Binary64 → Binary64 → Prop)

/-- The summaries are equal and the numbers are related. -/
def Risk.SameBy (r s : Risk) : Prop :=
  r.summary = s.summary ∧ same r.probability s.probability ∧ same r.consequence s.consequence

/-- The scenarios are equal but for their numbers, which are related. -/
def Fourth.Scenario.SameBy (s t : Fourth.Scenario) : Prop :=
  s.withoutRisks = t.withoutRisks ∧ s.risk.SameBy same t.risk ∧ s.remainingRisk.SameBy same t.remainingRisk

/-- The cards are equal but for their numbers, which are related. -/
structure Fourth.Card.SameBy (c d : Fourth.Card) : Prop where
  title : c.title = d.title
  scope : c.scope = d.scope
  valuations : c.valuations = d.valuations
  scenarios : List.Forall₂ (Fourth.Scenario.SameBy same) c.scenarios d.scenarios

end Relation

theorem Risk.sameBy_value_iff (r s : Risk) : r.SameBy Binary64.SameValue s ↔ (r == s) = true :=
  (Risk.beq_iff r s).symm

theorem Risk.sameBy_eq_iff (r s : Risk) : r.SameBy Eq s ↔ r = s := by
  cases r; cases s
  simp [Risk.SameBy]

namespace Fourth

theorem Scenario.SameBy.id_eq {same : Binary64 → Binary64 → Prop} {s t : Scenario} (alike : s.SameBy same t) :
    s.id = t.id := by
  have equal := congrArg Scenario.id alike.1
  exact equal

theorem Scenario.SameBy.title_eq {same : Binary64 → Binary64 → Prop} {s t : Scenario} (alike : s.SameBy same t) :
    s.title = t.title := by
  have equal := congrArg Scenario.title alike.1
  exact equal

theorem Scenario.sameBy_value_iff (s t : Scenario) : s.SameBy Binary64.SameValue t ↔ (s == t) = true := by
  rw [Scenario.SameBy, Risk.sameBy_value_iff, Risk.sameBy_value_iff, Scenario.beq_iff]

theorem Scenario.sameBy_eq_iff (s t : Scenario) : s.SameBy Eq t ↔ s = t := by
  rw [Scenario.SameBy, Risk.sameBy_eq_iff, Risk.sameBy_eq_iff]
  cases s; cases t
  simp only [Scenario.withoutRisks, Scenario.mk.injEq]
  tauto

theorem Card.sameBy_value_iff (c d : Card) : c.SameBy Binary64.SameValue d ↔ (c == d) = true := by
  have relation : Scenario.SameBy Binary64.SameValue = fun s t => (s == t) = true := by
    funext s t
    exact propext (Scenario.sameBy_value_iff s t)
  have scenarios := forall₂_beq_iff c.scenarios d.scenarios
  rw [← relation] at scenarios
  rw [Card.beq_iff, ← scenarios]
  constructor
  · rintro ⟨title, scope, valuations, scenarios⟩
    exact ⟨title, scope, valuations, scenarios⟩
  · rintro ⟨title, scope, valuations, scenarios⟩
    exact ⟨title, scope, valuations, scenarios⟩

theorem Card.sameBy_eq_iff (c d : Card) : c.SameBy Eq d ↔ c = d := by
  have relation : Scenario.SameBy Eq = Eq := by
    funext s t
    exact propext (Scenario.sameBy_eq_iff s t)
  constructor
  · rintro ⟨title, scope, valuations, scenarios⟩
    rw [relation, List.forall₂_eq_eq_eq] at scenarios
    cases c; cases d
    simp_all
  · rintro rfl
    refine ⟨rfl, rfl, rfl, ?_⟩
    rw [relation, List.forall₂_eq_eq_eq]

end Fourth

/-- The logs of equal reports are of one kind and have equal entries. -/
theorem Migration.Report.log_cases_of_beq {one two : Report} (same : (one == two) = true) :
    (one.log = none ∧ two.log = none) ∨
      (∃ log, one.log = some (.generation log) ∧ two.log = some (.generation log)) ∨
      (∃ log log', one.log = some (.rescaling log) ∧ two.log = some (.rescaling log') ∧
        (log.scenarios == log'.scenarios) = true) ∨
      ∃ log log', one.log = some (.stamping log) ∧ two.log = some (.stamping log') := by
  have fields : (_ && (_ && (one.log == two.log))) = true := same
  have logs := (Bool.and_eq_true_iff.mp (Bool.and_eq_true_iff.mp fields).2).2
  generalize one.log = log?, two.log = log?' at logs
  rcases log? with - | (log | log | log) <;> rcases log?' with - | (log' | log' | log')
  case none.none => exact .inl ⟨rfl, rfl⟩
  case some.generation.some.generation =>
    obtain rfl : log = log' := eq_of_beq logs
    exact .inr (.inl ⟨log, rfl, rfl⟩)
  case some.rescaling.some.rescaling => exact .inr (.inr (.inl ⟨log, log', rfl, rfl, logs⟩))
  case some.stamping.some.stamping => exact .inr (.inr (.inr ⟨log, log', rfl, rfl⟩))
  all_goals cases logs

end Scorecard

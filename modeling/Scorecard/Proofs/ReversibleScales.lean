import Scorecard.Proofs.EqualResults

/-!
# The new scales can be undone

The new scales send a preset to a number that another scenario may have had all along, so the card alone does not tell
what it was. The log does (`rescaling_reversible`): it lists the scenarios of which a number changed, with the number
before and after the step for each of the four that changed, and a number without such a pair is still what it was.
-/

namespace Scorecard

open Migration

/-! ## What an entry says -/

namespace Migration

/-- A pair is there exactly if the number changed, and holds the number before and after. -/
def Rescaled.IsPairOf (pair? : Option Rescaled) (old new : Binary64) : Prop :=
  ∀ pair, pair? = some pair ↔ (old == new) = false ∧ pair = ⟨old, new⟩

/-- An entry tells how a scenario came out of the step. -/
structure RescaledScenario.Tells (entry : RescaledScenario) (old new : Fourth.Scenario) : Prop where
  id : entry.id = old.id
  title : entry.title = old.title
  probability : Rescaled.IsPairOf entry.probability old.risk.probability new.risk.probability
  consequence : Rescaled.IsPairOf entry.consequence old.risk.consequence new.risk.consequence
  remainingProbability :
    Rescaled.IsPairOf entry.remainingProbability old.remainingRisk.probability new.remainingRisk.probability
  remainingConsequence :
    Rescaled.IsPairOf entry.remainingConsequence old.remainingRisk.consequence new.remainingRisk.consequence

/-- The pairs are equal but for their numbers, which are related. -/
def Rescaled.SameBy (same : Binary64 → Binary64 → Prop) (p q : Rescaled) : Prop :=
  same p.oldValue q.oldValue ∧ same p.newValue q.newValue

/-- The entries are equal but for their numbers, which are related. -/
structure RescaledScenario.SameBy (same : Binary64 → Binary64 → Prop) (d e : RescaledScenario) : Prop where
  id : d.id = e.id
  title : d.title = e.title
  probability : Option.Rel (Rescaled.SameBy same) d.probability e.probability
  consequence : Option.Rel (Rescaled.SameBy same) d.consequence e.consequence
  remainingProbability : Option.Rel (Rescaled.SameBy same) d.remainingProbability e.remainingProbability
  remainingConsequence : Option.Rel (Rescaled.SameBy same) d.remainingConsequence e.remainingConsequence

theorem RescaledScenario.sameBy_of_isEmpty {same : Binary64 → Binary64 → Prop} {d e : RescaledScenario}
    (left : d.isEmpty = true) (right : e.isEmpty = true) (id : d.id = e.id) (title : d.title = e.title) :
    d.SameBy same e := by
  simp only [RescaledScenario.isEmpty, Bool.and_eq_true, Option.isNone_iff_eq_none] at left right
  obtain ⟨⟨⟨probability, consequence⟩, remainingProbability⟩, remainingConsequence⟩ := left
  constructor <;> simp [*]

end Migration

namespace Rescaling

theorem isPairOf_changed? (old new : Binary64) : Rescaled.IsPairOf (changed? old new) old new := by
  intro pair
  cases same : old == new <;> simp [changed?, same, eq_comm]

theorem beq_of_changed? {old new : Binary64} (rests : changed? old new = none) : (old == new) = true := by
  simpa [changed?] using rests

theorem tells_rescaled (s : Fourth.Scenario) : (rescaled s).Tells s (scenario s) where
  id := rfl
  title := rfl
  probability := isPairOf_changed? _ _
  consequence := isPairOf_changed? _ _
  remainingProbability := isPairOf_changed? _ _
  remainingConsequence := isPairOf_changed? _ _

/-- The log has an entry for each scenario of which a number changed, in their order. -/
theorem tells_log (c : Fourth.Card) :
    List.Forall₂ (fun pair entry => entry.Tells pair.1 pair.2)
      ((c.scenarios.zip (card c).scenarios).filter fun pair => pair.1.NumbersDiffer pair.2) (log c) := by
  have pairs : c.scenarios.zip (card c).scenarios = c.scenarios.map fun s => (s, scenario s) :=
    List.map_prod_left_eq_zip.symm
  have listed : log c = (c.scenarios.filter fun s => s.NumbersDiffer (scenario s)).map rescaled := by
    rw [log, List.filter_map]
    refine congrArg _ (List.filter_congr fun s _ => ?_)
    simp [← rescaled_isEmpty_iff]
  rw [pairs, listed, List.filter_map, List.forall₂_map_left_iff, List.forall₂_map_right_iff]
  exact List.forall₂_same.mpr fun s _ => tells_rescaled s

/-! ## Numbers, estimates and scenarios -/

/-- A relation by which numbers can be followed back through the step: a number that a scale leaves at its value is
    related to what it is replaced by. -/
structure Comparison (same : Binary64 → Binary64 → Prop) : Prop where
  symm : ∀ {x y}, same x y → same y x
  trans : ∀ {x y z}, same x y → same y z → same x z
  kept : ∀ {presets x}, IsScale presets → x.isNaN = false → (x == replacement presets x) = true →
    same x (replacement presets x)

theorem comparison_value : Comparison Binary64.SameValue where
  symm := BEq.symm
  trans := BEq.trans
  kept _ _ stays := stays

theorem comparison_eq : Comparison Eq where
  symm := Eq.symm
  trans := Eq.trans
  kept {presets x} scale number stays := by
    have rests : ¬ IsMoved presets x := by simp [isMoved_iff scale number, stays]
    exact (replacement_eq_self scale number rests).symm

variable {same : Binary64 → Binary64 → Prop}

section Compared

variable (comparison : Comparison same)

include comparison

/-- A number is told by what replaces it and by its pair in the log. Where there is no pair, the number was kept. -/
theorem same_of_changed? {presets : List (Binary64 × Binary64)} (scale : IsScale presets) {x y : Binary64}
    (number : x.isNaN = false) (number' : y.isNaN = false)
    (moved : same (replacement presets x) (replacement presets y))
    (logged : Option.Rel (Rescaled.SameBy same) (changed? x (replacement presets x))
      (changed? y (replacement presets y))) : same x y := by
  generalize left : changed? x (replacement presets x) = pair?, right : changed? y (replacement presets y) = pair?'
    at logged
  cases logged with
  | none =>
    have before := comparison.kept scale number (beq_of_changed? left)
    have after := comparison.kept scale number' (beq_of_changed? right)
    exact comparison.trans before (comparison.trans moved (comparison.symm after))
  | some pairs =>
    obtain ⟨-, rfl⟩ := (isPairOf_changed? _ _ _).mp left
    obtain ⟨-, rfl⟩ := (isPairOf_changed? _ _ _).mp right
    exact pairs.1

theorem risk_sameBy {r s : Risk} (numeric : r.IsNumeric) (numeric' : s.IsNumeric)
    (moved : (risk r).SameBy same (risk s))
    (probability : Option.Rel (Rescaled.SameBy same) (changed? r.probability (risk r).probability)
      (changed? s.probability (risk s).probability))
    (consequence : Option.Rel (Rescaled.SameBy same) (changed? r.consequence (risk r).consequence)
      (changed? s.consequence (risk s).consequence)) : r.SameBy same s :=
  ⟨moved.1, same_of_changed? comparison isScale_probabilityPresets numeric.1 numeric'.1 moved.2.1 probability,
    same_of_changed? comparison isScale_consequencePresets numeric.2 numeric'.2 moved.2.2 consequence⟩

theorem scenario_sameBy {s t : Fourth.Scenario} (numeric : s.risk.IsNumeric ∧ s.remainingRisk.IsNumeric)
    (numeric' : t.risk.IsNumeric ∧ t.remainingRisk.IsNumeric) (moved : (scenario s).SameBy same (scenario t))
    (logged : (rescaled s).SameBy same (rescaled t)) : s.SameBy same t :=
  ⟨moved.1, risk_sameBy comparison numeric.1 numeric'.1 moved.2.1 logged.probability logged.consequence,
    risk_sameBy comparison numeric.2 numeric'.2 moved.2.2 logged.remainingProbability logged.remainingConsequence⟩

end Compared

/-! ## Cards -/

/-- Entries that are kept alike are alike, kept or not, for an entry that is left out holds no pair. -/
theorem rescaled_sameBy {s t : Fourth.Scenario} (id : s.id = t.id) (title : s.title = t.title)
    (logged : Option.Rel (RescaledScenario.SameBy same) (logged? s) (logged? t)) :
    (rescaled s).SameBy same (rescaled t) := by
  generalize left : logged? s = entered, right : logged? t = entered' at logged
  cases logged with
  | none =>
    have nothing : (rescaled s).isEmpty = true := by simpa [logged?] using left
    have nothing' : (rescaled t).isEmpty = true := by simpa [logged?] using right
    exact RescaledScenario.sameBy_of_isEmpty nothing nothing' id title
  | some alike =>
    obtain ⟨rfl, -⟩ := Option.guard_eq_some_iff.mp left
    obtain ⟨rfl, -⟩ := Option.guard_eq_some_iff.mp right
    exact alike

/-- Cards that lead to alike cards and leave alike logs are alike. -/
theorem card_sameBy (comparison : Comparison same) {one two : Fourth.Card}
    (distinct : (one.scenarios.map Fourth.Scenario.id).Nodup) (numeric : (Document.v4_0 one).IsNumeric)
    (numeric' : (Document.v4_0 two).IsNumeric) (moved : (card one).SameBy same (card two))
    (logged : List.Forall₂ (RescaledScenario.SameBy same) (log one) (log two)) : one.SameBy same two := by
  obtain ⟨title, scope, valuations, members⟩ := moved
  have members : List.Forall₂ (fun s t => (scenario s).SameBy same (scenario t)) one.scenarios two.scenarios :=
    List.forall₂_map_right_iff.mp (List.forall₂_map_left_iff.mp members)
  have ids : one.scenarios.map Fourth.Scenario.id = two.scenarios.map Fourth.Scenario.id :=
    (forall₂_map_eq_iff Fourth.Scenario.id _ _).mp (members.imp fun _ _ moved => moved.id_eq)
  rw [log_eq_filterMap, log_eq_filterMap] at logged
  have entries := alike_entries RescaledScenario.id id_logged? (fun _ _ alike => alike.id) ids distinct logged
  refine ⟨title, scope, valuations, List.forall₂_iff_zip.mpr ⟨members.length_eq, fun {s t} faced => ?_⟩⟩
  obtain ⟨here, there⟩ := List.of_mem_zip faced
  have moved := (List.forall₂_iff_zip.mp members).2 faced
  have alike : (rescaled s).SameBy same (rescaled t) :=
    rescaled_sameBy moved.id_eq moved.title_eq ((List.forall₂_iff_zip.mp entries).2 faced)
  exact scenario_sameBy comparison (Fourth.of_risks numeric here) (Fourth.of_risks numeric' there) moved alike

end Rescaling

/-! ## Equal results -/

theorem rel_self {α : Type} {related : α → α → Prop} (reflexive : ∀ a, related a a) (x : Option α) :
    Option.Rel related x x := by
  cases x with
  | none => exact .none
  | some a => exact .some (reflexive a)

namespace Migration

theorem RescaledScenario.sameBy_of_beq {d e : RescaledScenario} (same : (d == e) = true) :
    d.SameBy Binary64.SameValue e := by
  have pairs {p? q? : Option Rescaled} (equal : (p? == q?) = true) :
      Option.Rel (Rescaled.SameBy Binary64.SameValue) p? q? := by
    cases p? <;> cases q?
    case none.none => exact .none
    case some.some p q =>
      have numbers : ((p.oldValue == q.oldValue) && (p.newValue == q.newValue)) = true := equal
      exact .some (Bool.and_eq_true_iff.mp numbers)
    all_goals cases equal
  have fields : (_ && (_ && (_ && (_ && (_ && _))))) = true := same
  simp only [Bool.and_eq_true] at fields
  obtain ⟨id, title, probability, consequence, remainingProbability, remainingConsequence⟩ := fields
  exact ⟨eq_of_beq id, eq_of_beq title, pairs probability, pairs consequence, pairs remainingProbability,
    pairs remainingConsequence⟩

theorem RescaledScenario.sameBy_self (d : RescaledScenario) : d.SameBy Eq d := by
  have pairs : ∀ p? : Option Rescaled, Option.Rel (Rescaled.SameBy Eq) p? p? := rel_self fun _ => ⟨rfl, rfl⟩
  exact ⟨rfl, rfl, pairs _, pairs _, pairs _, pairs _⟩

theorem Report.rescaled_of_beq {one two : Report} (same : (one == two) = true) :
    List.Forall₂ (RescaledScenario.SameBy Binary64.SameValue) one.rescaled two.rescaled := by
  unfold Report.rescaled
  obtain ⟨left, right⟩ | ⟨log, left, right⟩ | ⟨log, log', left, right, equal⟩ | ⟨log, log', left, right⟩ :=
    log_cases_of_beq same
  case inr.inr.inl =>
    rw [left, right]
    exact ((forall₂_beq_iff _ _).mpr equal).imp fun _ _ => RescaledScenario.sameBy_of_beq
  all_goals
    rw [left, right]
    exact .nil

end Migration

/-- Of cards without a not-a-number and without repeated ids equal results of the new scales have equal cards behind
    them, whether equal means of one value or the same. And for every card the log lists in order exactly the scenarios
    of which a number changed, with a pair for exactly the numbers that changed. -/
theorem rescaling_reversible :
    (∀ one two : Fourth.Card, (one.scenarios.map Fourth.Scenario.id).Nodup → (Document.v4_0 one).IsNumeric →
      (Document.v4_0 two).IsNumeric →
        ((Rescaling.step one == Rescaling.step two) = true → (one == two) = true) ∧
          (Rescaling.step one = Rescaling.step two → one = two)) ∧
      ∀ c : Fourth.Card, List.Forall₂ (fun pair entry => entry.Tells pair.1 pair.2)
        ((c.scenarios.zip (Rescaling.step c).1.scenarios).filter fun pair => pair.1.NumbersDiffer pair.2)
        (Rescaling.step c).2.rescaled := by
  refine ⟨fun one two distinct numeric numeric' => ⟨fun equal => ?_, fun equal => ?_⟩, fun c => ?_⟩
  · obtain ⟨cards, reports⟩ := Bool.and_eq_true_iff.mp equal
    have moved := (Fourth.Card.sameBy_value_iff _ _).mpr cards
    have logged : List.Forall₂ _ (Rescaling.step one).2.rescaled (Rescaling.step two).2.rescaled :=
      Report.rescaled_of_beq reports
    rw [Rescaling.rescaled_step, Rescaling.rescaled_step] at logged
    exact (Fourth.Card.sameBy_value_iff _ _).mp
      (Rescaling.card_sameBy Rescaling.comparison_value distinct numeric numeric' moved logged)
  · have moved := (Fourth.Card.sameBy_eq_iff _ _).mpr (congrArg Prod.fst equal)
    have logged : List.Forall₂ (RescaledScenario.SameBy Eq) (Rescaling.step one).2.rescaled
        (Rescaling.step two).2.rescaled := by
      rw [equal]
      exact List.forall₂_same.mpr fun entry _ => entry.sameBy_self
    rw [Rescaling.rescaled_step, Rescaling.rescaled_step] at logged
    exact (Fourth.Card.sameBy_eq_iff _ _).mp
      (Rescaling.card_sameBy Rescaling.comparison_eq distinct numeric numeric' moved logged)
  · rw [Rescaling.rescaled_step]
    exact Rescaling.tells_log c

/-- A card with a consequence of some amount, and with a probability and a consequence that are presets of the old
    scale; a further scenario has numbers of its own. -/
def treasury (zero amount : Binary64) : Fourth.Card where
  title := "Treasury"
  scope := none
  valuations := []
  scenarios := [{
      id := "s1"
      title := "Fraud"
      description := ""
      url := none
      threatActors := [.insider]
      vulnerabilities := [.unmonitoredUse]
      risk := ⟨none, zero, amount⟩
      remainingRisk := ⟨none, Rescaling.preset 1 0, Rescaling.preset 8000 0⟩
      actions := [] }, {
      id := "s2"
      title := "Miscount"
      description := ""
      url := none
      threatActors := [.recklessEmployee]
      vulnerabilities := []
      risk := ⟨none, Rescaling.preset 7 0, Rescaling.preset 8000 0⟩
      remainingRisk := ⟨none, zero, zero⟩
      actions := [] }, {
      id := "s3"
      title := "Burglary"
      description := ""
      url := none
      threatActors := [.organisedCrime]
      vulnerabilities := []
      risk := ⟨none, Rescaling.preset 50 0, Rescaling.preset 9 0⟩
      remainingRisk := ⟨none, zero, Rescaling.preset 30000 0⟩
      actions := [] }]

/-- Zeros of either sign have results of one value and so are of one value themselves. An amount that was 8000 before the
    step and one that became 8000 lead to the same card, and only the log tells them apart. -/
theorem rescaling_reversible_treasury :
    let one := treasury (.ofWord false 0) (Rescaling.preset 1000 0)
    let two := treasury (.ofWord true 0) (Rescaling.preset 1000 0)
    let custom := treasury (.ofWord false 0) (Rescaling.preset 8000 0)
    (one.scenarios.map Fourth.Scenario.id).Nodup ∧ (Document.v4_0 one).IsNumeric ∧ (Document.v4_0 two).IsNumeric ∧
      (Rescaling.step one == Rescaling.step two) = true ∧ (one == two) = true ∧
      (Rescaling.step one).2.rescaled.map RescaledScenario.id = ["s1", "s3"] ∧
      (Rescaling.card one == Rescaling.card custom) = true ∧ (Rescaling.step one == Rescaling.step custom) = false := by
  intro one two custom
  have distinct : (one.scenarios.map Fourth.Scenario.id).Nodup := by decide
  have numeric : (Document.v4_0 one).IsNumeric := by decide +kernel
  have numeric' : (Document.v4_0 two).IsNumeric := by decide +kernel
  have alike : (Rescaling.step one == Rescaling.step two) = true := by decide +kernel
  exact ⟨distinct, numeric, numeric', alike, (rescaling_reversible.1 one two distinct numeric numeric').1 alike,
    by decide +kernel, by decide +kernel, by decide +kernel⟩

end Scorecard

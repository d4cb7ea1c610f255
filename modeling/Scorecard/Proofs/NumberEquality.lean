import Mathlib.Tactic.Tauto
import Scorecard.FourthCard
import Scorecard.ThirdCard

/-!
# Equality up to numbers

Numbers are compared by value, so that the two zeros agree and not-a-number agrees with nothing. Among
numbers, and so among risks and scenarios, that equality is symmetric and transitive but not
reflexive.
-/

namespace Scorecard

theorem Binary64.beq_iff (x y : Binary64) :
    (x == y) = true ↔ x.isNaN = false ∧ y.isNaN = false ∧ ((x.isZero = true ∧ y.isZero = true) ∨ x = y) := by
  have fields : x = y ↔ x.negative = y.negative ∧ x.exponent = y.exponent ∧ x.fraction = y.fraction := by
    cases x; cases y; simp
  show x.same y = true ↔ _
  simp [Binary64.same, fields, and_assoc]

instance : PartialEquivBEq Binary64 where
  symm {x y} same := by
    rw [Binary64.beq_iff] at same ⊢
    obtain ⟨left, right, zeros | equal⟩ := same
    · exact ⟨right, left, .inl ⟨zeros.2, zeros.1⟩⟩
    · exact ⟨right, left, .inr equal.symm⟩
  trans {x y z} first second := by
    rw [Binary64.beq_iff] at first second ⊢
    obtain ⟨left, -, zeros | rfl⟩ := first
    · obtain ⟨-, right, further | rfl⟩ := second
      · exact ⟨left, right, .inl ⟨zeros.1, further.2⟩⟩
      · exact ⟨left, right, .inl zeros⟩
    · exact second

theorem Risk.beq_iff (r s : Risk) : (r == s) = true ↔
    r.summary = s.summary ∧ (r.probability == s.probability) = true ∧ (r.consequence == s.consequence) = true := by
  cases r; cases s
  show (_ && (_ && _)) = true ↔ _
  simp

instance : PartialEquivBEq Risk where
  symm same := by
    rw [Risk.beq_iff] at same ⊢
    exact ⟨same.1.symm, BEq.symm same.2.1, BEq.symm same.2.2⟩
  trans first second := by
    rw [Risk.beq_iff] at first second ⊢
    exact ⟨first.1.trans second.1, BEq.trans first.2.1 second.2.1, BEq.trans first.2.2 second.2.2⟩

/-! Of two equal scenarios only the numbers of the risks may differ. -/

/-- A risk that takes the place of another where risks do not count. -/
def Risk.blank : Risk := ⟨none, .ofWord false 0, .ofWord false 0⟩

namespace Third

/-- The scenario but for its risks. -/
def Scenario.withoutRisks (s : Scenario) : Scenario := { s with risk := .blank, remainingRisk := .blank }

theorem Scenario.beq_iff (s t : Scenario) : (s == t) = true ↔
    s.withoutRisks = t.withoutRisks ∧ (s.risk == t.risk) = true ∧ (s.remainingRisk == t.remainingRisk) = true := by
  cases s; cases t
  show (_ && (_ && (_ && (_ && (_ && (_ && (_ && (_ && (_ && _))))))))) = true ↔ _
  simp only [Bool.and_eq_true, beq_iff_eq, Scenario.withoutRisks, Scenario.mk.injEq]
  tauto

instance : PartialEquivBEq Scenario where
  symm same := by
    rw [Scenario.beq_iff] at same ⊢
    exact ⟨same.1.symm, BEq.symm same.2.1, BEq.symm same.2.2⟩
  trans first second := by
    rw [Scenario.beq_iff] at first second ⊢
    exact ⟨first.1.trans second.1, BEq.trans first.2.1 second.2.1, BEq.trans first.2.2 second.2.2⟩

end Third

namespace Fourth

/-- The scenario but for its risks. -/
def Scenario.withoutRisks (s : Scenario) : Scenario := { s with risk := .blank, remainingRisk := .blank }

theorem Scenario.beq_iff (s t : Scenario) : (s == t) = true ↔
    s.withoutRisks = t.withoutRisks ∧ (s.risk == t.risk) = true ∧ (s.remainingRisk == t.remainingRisk) = true := by
  cases s; cases t
  show (_ && (_ && (_ && (_ && (_ && (_ && (_ && (_ && _)))))))) = true ↔ _
  simp only [Bool.and_eq_true, beq_iff_eq, Scenario.withoutRisks, Scenario.mk.injEq]
  tauto

instance : PartialEquivBEq Scenario where
  symm same := by
    rw [Scenario.beq_iff] at same ⊢
    exact ⟨same.1.symm, BEq.symm same.2.1, BEq.symm same.2.2⟩
  trans first second := by
    rw [Scenario.beq_iff] at first second ⊢
    exact ⟨first.1.trans second.1, BEq.trans first.2.1 second.2.1, BEq.trans first.2.2 second.2.2⟩

end Fourth
end Scorecard

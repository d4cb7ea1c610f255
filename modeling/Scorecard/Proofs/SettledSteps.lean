import Scorecard.Proofs.StepReports

/-!
# Steps that do not compound

Behind the new scales no number is a preset that moves (`not_isMoved_replacement`), and behind the stamping every
action has the stamp. Each of the two steps therefore finds nothing to do on a card that it made, and since the one
touches numbers only and the other stamps only, their order does not matter (`steps_settle`).
-/

namespace Scorecard

open Migration

namespace Rescaling

variable {presets : List (Binary64 × Binary64)}

/-- What a scale puts in the place of its presets are presets that stay, or none. -/
def IsSettled (presets : List (Binary64 × Binary64)) : Prop := ∀ p ∈ presets, ¬ IsMoved presets p.2

instance (presets : List (Binary64 × Binary64)) : Decidable (IsSettled presets) :=
  inferInstanceAs (Decidable (∀ p ∈ presets, ¬ IsMoved presets p.2))

theorem replacement_of_custom {x : Binary64} (custom : ∀ p ∈ presets, (p.1 == x) = false) :
    replacement presets x = x := by
  have unlisted : presets.find? (fun p => p.1 == x) = none :=
    List.find?_eq_none.mpr fun p listed => by simp [custom p listed]
  rw [replacement, unlisted]

/-- No number is moved twice: a preset is replaced by what stays, and any other number is no preset. -/
theorem not_isMoved_replacement (settled : IsSettled presets) (x : Binary64) :
    ¬ IsMoved presets (replacement presets x) := by
  unfold replacement
  cases found : presets.find? fun p => p.1 == x with
  | some p => exact settled p (List.mem_of_find?_eq_some found)
  | none =>
    rintro ⟨p, listed, same, -⟩
    exact List.find?_eq_none.mp found p listed same

theorem isSettled_probabilityPresets : IsSettled probabilityPresets := by decide +kernel

theorem isSettled_consequencePresets : IsSettled consequencePresets := by decide +kernel

/-- Behind the new scales no estimate has a preset that moves. -/
theorem settled_card (c : Fourth.Card) : ∀ r ∈ (Document.v4_0 (card c)).risks, ¬ r.HasMovedPreset := by
  intro r here
  obtain ⟨old, -, rfl⟩ := List.mem_map.mp (risks_card c ▸ here)
  exact not_or.mpr ⟨not_isMoved_replacement isSettled_probabilityPresets old.probability,
    not_isMoved_replacement isSettled_consequencePresets old.consequence⟩

theorem step_of_settled {c : Fourth.Card} (numeric : (Document.v4_0 c).IsNumeric)
    (settled : ∀ r ∈ (Document.v4_0 c).risks, ¬ r.HasMovedPreset) : step c = (c, .unchanged) := by
  have silent : log c = [] := by
    by_contra logged
    obtain ⟨r, here, moved⟩ := (log_ne_nil numeric).mp logged
    exact settled r here moved
  rw [step, card_eq_self numeric settled, report, silent]
  rfl

end Rescaling

namespace Stamping

theorem step_of_settled {published : Option Timestamp} {c : Fourth.Card}
    (settled : ∀ stamp ∈ (Document.v4_1 c).stamps, stamp = published) : step published c = (c, .unchanged) := by
  have silent : log published c = [] := by
    by_contra logged
    obtain ⟨stamp, here, other⟩ := (log_ne_nil published c).mp logged
    exact other (settled stamp here)
  rw [step, card_eq_self settled, report, silent]
  rfl

/-- The new scales leave the actions alone, and the stamping the estimates. -/
theorem card_rescaled (published : Option Timestamp) (c : Fourth.Card) :
    card published (Rescaling.card c) = Rescaling.card (card published c) := by
  simp only [card, Rescaling.card, List.map_map]
  rfl

end Stamping

/-- Neither of the two steps within the fourth generation does anything to a card that it made, and they may be taken in
    either order. For the new scales that is so number by number: what replaces a preset is not replaced by something
    else, and what is no preset is not replaced at all. -/
theorem steps_settle (c : Fourth.Card) :
    ((Document.v4_0 c).IsNumeric →
        Rescaling.step (Rescaling.step c).1 = ((Rescaling.step c).1, Report.unchanged)) ∧
      (∀ presets ∈ [Rescaling.probabilityPresets, Rescaling.consequencePresets], ∀ x : Binary64,
        ¬ Rescaling.IsMoved presets (Rescaling.replacement presets x) ∧
          ((∀ p ∈ presets, (p.1 == x) = false) → Rescaling.replacement presets x = x)) ∧
      (∀ published, Stamping.step published (Stamping.step published c).1 =
        ((Stamping.step published c).1, Report.unchanged)) ∧
      ∀ published, (Stamping.step published (Rescaling.step c).1).1 =
        (Rescaling.step (Stamping.step published c).1).1 := by
  refine ⟨fun numeric => ?_, fun presets listed x => ⟨?_, Rescaling.replacement_of_custom⟩, fun published => ?_,
    fun published => Stamping.card_rescaled published c⟩
  · exact Rescaling.step_of_settled (Rescaling.isNumeric_card numeric) (Rescaling.settled_card c)
  · have settled : ∀ presets ∈ [Rescaling.probabilityPresets, Rescaling.consequencePresets],
        Rescaling.IsSettled presets := by
      simp [Rescaling.isSettled_probabilityPresets, Rescaling.isSettled_consequencePresets]
    exact Rescaling.not_isMoved_replacement (settled presets listed) x
  · exact Stamping.step_of_settled (Stamping.stamps_card published c)

/-- A card with presets that move, a preset that stays and what a preset is replaced by, and with a stamp. -/
def harbour : Fourth.Card where
  title := "Harbour"
  scope := none
  valuations := []
  scenarios := [{
    id := "s1"
    title := "Smuggling"
    description := ""
    url := none
    threatActors := [.organisedCrime]
    vulnerabilities := []
    risk := ⟨none, Rescaling.preset 50 0, Rescaling.preset 1000 0⟩
    remainingRisk := ⟨none, Rescaling.preset 1 0, Rescaling.preset 8000 0⟩
    actions := [⟨"a1", "Patrols", "", none, .completed,
      some ⟨⟨2023, 11, 20, by decide⟩, 8, 30, 15, 0, by decide⟩⟩] }]

/-- Both steps change the card, and neither changes it a second time. -/
theorem steps_settle_harbour :
    (Document.v4_0 harbour).IsNumeric ∧ (Rescaling.step harbour).2.changes = true ∧
      Rescaling.step (Rescaling.step harbour).1 = ((Rescaling.step harbour).1, Report.unchanged) ∧
      (Stamping.step none harbour).2.changes = true ∧
      Stamping.step none (Stamping.step none harbour).1 = ((Stamping.step none harbour).1, Report.unchanged) ∧
      (∀ p ∈ Rescaling.probabilityPresets, (p.1 == Rescaling.preset 7 0) = false) ∧
      Rescaling.replacement Rescaling.probabilityPresets (Rescaling.preset 7 0) = Rescaling.preset 7 0 := by
  obtain ⟨rescaled, scales, stamped, -⟩ := steps_settle harbour
  have numeric : (Document.v4_0 harbour).IsNumeric := by decide +kernel
  have custom : ∀ p ∈ Rescaling.probabilityPresets, (p.1 == Rescaling.preset 7 0) = false := by decide +kernel
  have kept := (scales Rescaling.probabilityPresets List.mem_cons_self (Rescaling.preset 7 0)).2 custom
  exact ⟨numeric, by decide +kernel, rescaled numeric, by decide, stamped none, custom, kept⟩

end Scorecard

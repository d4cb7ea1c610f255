import Scorecard.Proofs.FirstOccurrences
import Scorecard.Proofs.LoggedEntries

/-!
# The vulnerabilities behind the change of generation

The change of generation goes once through the vulnerabilities of a scenario and keeps two lists. A new category is
entered where the first of its old ones stands and never again, but a renamed value is noted as often as it occurs
(`remappings_exact`). The note is all that the log tells of a vulnerability, so a value that repeats under its own name
is dropped without a trace: a scenario that is missing from the log lost nothing exactly if its vulnerabilities do not
repeat (`lossless_iff_unlogged`, `repetition_dropped_unlogged`).
-/

namespace Scorecard

open Migration

/-! ## New categories and noted values -/

/-- The new categories of a list of old ones: each new category once, and in the order in which the first of their old
    ones occur. -/
structure Generation.IsRemapping (old : List Third.Vulnerability) (new : List Fourth.Vulnerability) : Prop where
  distinct : new.Nodup
  members : ∀ w, w ∈ new ↔ ∃ v ∈ old, v.remapped = w
  ordered : new.Pairwise fun w x => old.findIdx (fun v => v.remapped = w) < old.findIdx fun v => v.remapped = x

/-- The notes on a list of old categories: those of which the new category has another name, in order and as often as
    they occur, each with its new category. -/
structure Generation.IsNoted (old : List Third.Vulnerability) (notes : List Remap) : Prop where
  oldValues : notes.map Remap.oldValue = old.filter fun v => Vocabulary.name v.remapped ≠ Vocabulary.name v
  newValues : ∀ note ∈ notes, note.newValue = note.oldValue.remapped

/-- A category is found under the same name in the new generation. -/
def Third.Vulnerability.IsKeptAs (v : Third.Vulnerability) (w : Fourth.Vulnerability) : Prop :=
  Vocabulary.name w = Vocabulary.name v

/-- A value of the new list comes from a noted one of the old list, or from one that keeps its name. -/
def Generation.Accounts (c : Third.Card) (s : Third.Scenario) (w : Fourth.Vulnerability) : Prop :=
  (∃ entry ∈ (Generation.step c).2.reshaped, entry.id = s.id ∧
      ∃ note ∈ entry.changedVulnerabilities, note.oldValue ∈ s.vulnerabilities ∧ note.newValue = w) ∨
    ∃ v ∈ s.vulnerabilities, v.IsKeptAs w

theorem Third.Vulnerability.isKeptAs_iff (v : Third.Vulnerability) (w : Fourth.Vulnerability) :
    v.IsKeptAs w ↔ v.isRenamed = false ∧ v.remapped = w := by
  unfold IsKeptAs
  cases v <;> cases w <;> decide

namespace Generation

theorem isRemapping_scenario (s : Third.Scenario) : IsRemapping s.vulnerabilities (scenario s).vulnerabilities := by
  have placed (w : Fourth.Vulnerability) : (s.vulnerabilities.map Third.Vulnerability.remapped).idxOf w =
      s.vulnerabilities.findIdx fun v => v.remapped = w := by
    rw [List.idxOf, List.findIdx_map]
    rfl
  have ordered := eraseDups_ordered (s.vulnerabilities.map Third.Vulnerability.remapped)
  simp only [placed] at ordered
  have listed : (scenario s).vulnerabilities = _ := remapping_vulnerabilities s.vulnerabilities
  rw [listed]
  refine ⟨nodup_eraseDups _, fun w => ?_, ordered⟩
  rw [List.mem_eraseDups, List.mem_map]

theorem isNoted_reshaped (s : Third.Scenario) : IsNoted s.vulnerabilities (reshaped s).changedVulnerabilities := by
  have noted : (reshaped s).changedVulnerabilities = _ := remapping_renamed s.vulnerabilities
  rw [noted]
  constructor
  case oldValues =>
    rw [List.map_map]
    refine (List.map_id _).trans (List.filter_congr fun v _ => ?_)
    rw [Bool.eq_iff_iff, Third.Vulnerability.isRenamed_iff, decide_eq_true_iff]
  case newValues =>
    intro note listed
    obtain ⟨v, -, rfl⟩ := List.mem_map.mp listed
    rfl

/-- A renamed value has its scenario logged, and there its note; any other keeps its name. -/
theorem accounts_scenario {c : Third.Card} {s : Third.Scenario} (here : s ∈ c.scenarios) :
    ∀ w ∈ (scenario s).vulnerabilities, Accounts c s w := by
  intro w listed
  obtain ⟨v, there, rfl⟩ := ((isRemapping_scenario s).members w).mp listed
  by_cases renamed : v.isRenamed = true
  · have logged : reshaped s ∈ (step c).2.reshaped :=
      (reshaped_mem_log here).mpr (.inr (.inr ⟨v, there, v.isRenamed_iff.mp renamed⟩))
    have noted : (⟨v, v.remapped⟩ : Remap) ∈ (reshaped s).changedVulnerabilities := by
      show _ ∈ (remapping s.vulnerabilities).renamed
      rw [remapping_renamed]
      exact List.mem_map_of_mem (List.mem_filter.mpr ⟨there, renamed⟩)
    exact .inl ⟨_, logged, rfl, _, noted, there, rfl⟩
  · exact .inr ⟨v, there, (v.isKeptAs_iff v.remapped).mpr ⟨by simpa using renamed, rfl⟩⟩

end Generation

/-- The change of generation remaps the vulnerabilities of every scenario, notes the renamed ones of every scenario that
    it logs, and leaves no new value unaccounted for. -/
theorem remappings_exact (c : Third.Card) :
    List.Forall₂ (fun s t => Generation.IsRemapping s.vulnerabilities t.vulnerabilities) c.scenarios
        (Generation.step c).1.scenarios ∧
      List.Forall₂ (fun s entry => entry.id = s.id ∧
          Generation.IsNoted s.vulnerabilities entry.changedVulnerabilities)
        (c.scenarios.filter fun s => s.IsReshaped) (Generation.step c).2.reshaped ∧
      List.Forall₂ (fun s t => ∀ w ∈ t.vulnerabilities, Generation.Accounts c s w) c.scenarios
        (Generation.step c).1.scenarios := by
  refine ⟨?_, ?_, ?_⟩
  · exact List.forall₂_map_right_iff.mpr (List.forall₂_same.mpr fun s _ => Generation.isRemapping_scenario s)
  · rw [Generation.reshaped_step, Generation.log_eq]
    exact List.forall₂_map_right_iff.mpr (List.forall₂_same.mpr fun s _ => ⟨rfl, Generation.isNoted_reshaped s⟩)
  · exact List.forall₂_map_right_iff.mpr (List.forall₂_same.mpr fun s here => Generation.accounts_scenario here)

/-- A scenario with some vulnerabilities. -/
def leak (vulnerabilities : List Third.Vulnerability) : Third.Scenario where
  id := "s1"
  title := "Leak"
  description := ""
  url := none
  threatActors := []
  vulnerabilities := vulnerabilities
  risk := .blank
  remainingRisk := .blank
  existingActions := none
  actions := []

/-- A card with some scenarios. -/
def archive (scenarios : List Third.Scenario) : Third.Card where
  title := "Archive"
  scope := ""
  valuations := []
  scenarios := scenarios

/-- Three old categories become one that occurs in its own right, and one of them repeats: each new category is entered
    once, and each renamed value is noted. -/
theorem remappings_exact_collapsed :
    let old := [.disclosedSecret, .compromisedAdminUser, .informationLeak, .escalationOfRights, .compromisedAdminUser]
    let step := Generation.step (archive [leak old])
    ∃ t entry, step.1.scenarios = [t] ∧ step.2.reshaped = [entry] ∧
      t.vulnerabilities = [.informationLeak, .unauthorizedAccess] ∧
      entry.changedVulnerabilities.map Remap.oldValue =
        [.disclosedSecret, .compromisedAdminUser, .escalationOfRights, .compromisedAdminUser] ∧
      Generation.IsRemapping old t.vulnerabilities ∧ Generation.IsNoted old entry.changedVulnerabilities ∧
      .informationLeak ∈ t.vulnerabilities ∧ Generation.Accounts (archive [leak old]) (leak old) .informationLeak := by
  intro old step
  obtain ⟨remapped, noted, accounted⟩ := remappings_exact (archive [leak old])
  have here : .informationLeak ∈ (Generation.scenario (leak old)).vulnerabilities := by decide
  exact ⟨_, _, rfl, rfl, rfl, rfl, (List.forall₂_cons.mp remapped).1, (List.forall₂_cons.mp noted).1.2, here,
    (List.forall₂_cons.mp accounted).1 _ here⟩

/-! ## Scenarios that lose nothing -/

/-- The vulnerabilities of a scenario are found again one by one, and the scenario has no text that is dropped. -/
structure Third.Scenario.LosesNothing (old : Third.Scenario) (new : Fourth.Scenario) : Prop where
  vulnerabilities : List.Forall₂ Third.Vulnerability.IsKeptAs old.vulnerabilities new.vulnerabilities
  existingActions : ∀ text, old.existingActions = some text → text = ""
  owners : ∀ a ∈ old.actions, ∀ text, a.owner = some text → text = ""
  deadlines : ∀ a ∈ old.actions, ∀ text, a.deadline = some text → text = ""

namespace Generation

/-- The categories of a list that are all kept move one by one. -/
theorem forall₂_isKeptAs_iff (old : List Third.Vulnerability) (new : List Fourth.Vulnerability) :
    List.Forall₂ Third.Vulnerability.IsKeptAs old new ↔
      (∀ v ∈ old, v.isRenamed = false) ∧ old.map Third.Vulnerability.remapped = new := by
  have kept : Third.Vulnerability.IsKeptAs = fun v w => v.isRenamed = false ∧ v.remapped = w := by
    funext v w
    exact propext (v.isKeptAs_iff w)
  rw [kept, List.forall₂_and_left, ← List.forall₂_map_left_iff (R := Eq), List.forall₂_eq_eq_eq]

/-- Categories that keep their names are told apart by the new ones. -/
theorem remapped_injective {old : List Third.Vulnerability} (kept : ∀ v ∈ old, v.isRenamed = false) :
    ∀ v ∈ old, ∀ w ∈ old, v.remapped = w.remapped → v = w := by
  intro v here w there same
  have left : v.IsKeptAs v.remapped := (v.isKeptAs_iff _).mpr ⟨kept v here, rfl⟩
  have right : w.IsKeptAs v.remapped := (w.isKeptAs_iff _).mpr ⟨kept w there, same.symm⟩
  exact Vocabulary.name_injective v w (left.symm.trans right)

theorem not_isReshaped_iff (s : Third.Scenario) : ¬ s.IsReshaped ↔
    (∀ text, s.existingActions = some text → text = "") ∧
      (∀ a ∈ s.actions, ∀ text, a.owner = some text ∨ a.deadline = some text → text = "") ∧
      ∀ v ∈ s.vulnerabilities, v.isRenamed = false := by
  simp only [Third.Scenario.IsReshaped, ← Third.Vulnerability.isRenamed_iff]
  simp

/-- Of a scenario without an entry nothing is lost but repetitions of vulnerabilities. -/
theorem losesNothing_of_not_isReshaped {s : Third.Scenario} (plain : ¬ s.IsReshaped) :
    { s with vulnerabilities := s.vulnerabilities.eraseDups }.LosesNothing (scenario s) := by
  obtain ⟨existingActions, texts, kept⟩ := (not_isReshaped_iff s).mp plain
  have vulnerabilities :
      List.Forall₂ Third.Vulnerability.IsKeptAs s.vulnerabilities.eraseDups (scenario s).vulnerabilities := by
    have listed : (scenario s).vulnerabilities = _ := remapping_vulnerabilities s.vulnerabilities
    rw [forall₂_isKeptAs_iff, listed, eraseDups_map (remapped_injective kept)]
    exact ⟨fun v here => kept v (List.mem_eraseDups.mp here), rfl⟩
  exact ⟨vulnerabilities, existingActions, fun a here text owner => texts a here text (.inl owner),
    fun a here text deadline => texts a here text (.inr deadline)⟩

theorem losesNothing_iff (s : Third.Scenario) :
    s.LosesNothing (scenario s) ↔ ¬ s.IsReshaped ∧ s.vulnerabilities.Nodup := by
  constructor
  · rintro ⟨vulnerabilities, existingActions, owners, deadlines⟩
    obtain ⟨kept, moved⟩ := (forall₂_isKeptAs_iff _ _).mp vulnerabilities
    have plain : ¬ s.IsReshaped := (not_isReshaped_iff s).mpr
      ⟨existingActions, fun a here text => Or.rec (owners a here text) (deadlines a here text), kept⟩
    have distinct := (isRemapping_scenario s).distinct
    rw [← moved] at distinct
    exact ⟨plain, List.Nodup.of_map _ distinct⟩
  · rintro ⟨plain, distinct⟩
    have kept := losesNothing_of_not_isReshaped plain
    rw [(eraseDups_eq_self_iff _).mpr distinct] at kept
    exact kept

end Generation

/-- A scenario loses nothing exactly if it is missing from the log and its vulnerabilities do not repeat. All that a
    scenario missing from the log can lose is repetitions. -/
theorem lossless_iff_unlogged (c : Third.Card) :
    List.Forall₂ (fun s t =>
        (s.LosesNothing t ↔ Generation.reshaped s ∉ (Generation.step c).2.reshaped ∧ s.vulnerabilities.Nodup) ∧
          (Generation.reshaped s ∉ (Generation.step c).2.reshaped →
            { s with vulnerabilities := s.vulnerabilities.eraseDups }.LosesNothing t))
      c.scenarios (Generation.step c).1.scenarios := by
  refine List.forall₂_map_right_iff.mpr (List.forall₂_same.mpr fun s here => ?_)
  rw [Generation.reshaped_mem_log here]
  exact ⟨Generation.losesNothing_iff s, Generation.losesNothing_of_not_isReshaped⟩

/-- A value that repeats under its own name is dropped, and nothing is logged. -/
theorem repetition_dropped_unlogged :
    let twice := leak [.misconfiguration, .misconfiguration]
    let step := Generation.step (archive [twice])
    step.2.log = none ∧ Generation.reshaped twice ∉ step.2.reshaped ∧
      ∃ t, step.1.scenarios = [t] ∧ t.vulnerabilities = [.misconfiguration] ∧ ¬ twice.LosesNothing t := by
  intro twice step
  have repeated : ¬ twice.LosesNothing (Generation.scenario twice) := by
    rw [Generation.losesNothing_iff]
    decide
  exact ⟨rfl, List.not_mem_nil, Generation.scenario twice, rfl, rfl, repeated⟩

end Scorecard

import Scorecard.Proofs.StatusFlags

/-!
# Scenarios are migrated one by one

What a migration makes of a scenario does not depend on the scenarios beside it. If the scenarios of a document are
those of two others, one list behind the other, then the same holds of what the three are migrated to and of the
logs of the three runs (`toVersion_joins`). The three runs go side by side (`SideBySide.next`): a step keeps the cards
joined, and the logs stay joined since no step finds a log of its own kind in the status (`Status.IsBehind`).
-/

namespace Scorecard

theorem isEmpty_append {α : Type} (xs ys : List α) : (xs ++ ys).isEmpty = (xs.isEmpty && ys.isEmpty) := by
  cases xs <;> rfl

/-! ## Joined documents -/

/-- The scenarios of a card are those of two others that share everything else with it. -/
structure Third.Card.JoinsTo (one two whole : Third.Card) : Prop where
  title : one.title = whole.title ∧ two.title = whole.title
  scope : one.scope = whole.scope ∧ two.scope = whole.scope
  valuations : one.valuations = whole.valuations ∧ two.valuations = whole.valuations
  scenarios : whole.scenarios = one.scenarios ++ two.scenarios

structure Fourth.Card.JoinsTo (one two whole : Fourth.Card) : Prop where
  title : one.title = whole.title ∧ two.title = whole.title
  scope : one.scope = whole.scope ∧ two.scope = whole.scope
  valuations : one.valuations = whole.valuations ∧ two.valuations = whole.valuations
  scenarios : whole.scenarios = one.scenarios ++ two.scenarios

/-- Two documents make up a third one of the same version. -/
inductive Document.JoinsTo : Document → Document → Document → Prop where
  | v3_2 {one two whole : Third.Card} : one.JoinsTo two whole → JoinsTo (.v3_2 one) (.v3_2 two) (.v3_2 whole)
  | v3_3 {one two whole : Third.Card} : one.JoinsTo two whole → JoinsTo (.v3_3 one) (.v3_3 two) (.v3_3 whole)
  | v4_0 {one two whole : Fourth.Card} : one.JoinsTo two whole → JoinsTo (.v4_0 one) (.v4_0 two) (.v4_0 whole)
  | v4_1 {one two whole : Fourth.Card} : one.JoinsTo two whole → JoinsTo (.v4_1 one) (.v4_1 two) (.v4_1 whole)
  | v4_2 {one two whole : Fourth.Card} : one.JoinsTo two whole → JoinsTo (.v4_2 one) (.v4_2 two) (.v4_2 whole)

theorem Document.JoinsTo.version? {one two whole : Document} (joins : one.JoinsTo two whole) :
    one.version? = whole.version? ∧ two.version? = whole.version? := by
  cases joins <;> exact ⟨rfl, rfl⟩

section Steps

theorem Generation.card_joins {one two whole : Third.Card} (joins : one.JoinsTo two whole) :
    (Generation.card one).JoinsTo (Generation.card two) (Generation.card whole) where
  title := joins.title
  scope := by simp [Generation.card, joins.scope]
  valuations := joins.valuations
  scenarios := by simp [Generation.card, joins.scenarios]

theorem Generation.log_joins {one two whole : Third.Card} (joins : one.JoinsTo two whole) :
    Generation.log whole = Generation.log one ++ Generation.log two := by
  simp [Generation.log, joins.scenarios]

variable {one two whole : Fourth.Card} (joins : one.JoinsTo two whole)

include joins

theorem Rescaling.card_joins : (Rescaling.card one).JoinsTo (Rescaling.card two) (Rescaling.card whole) where
  title := joins.title
  scope := joins.scope
  valuations := joins.valuations
  scenarios := by simp [Rescaling.card, joins.scenarios]

theorem Rescaling.log_joins : Rescaling.log whole = Rescaling.log one ++ Rescaling.log two := by
  simp [Rescaling.log, joins.scenarios]

theorem Stamping.card_joins (published : Option Timestamp) :
    (Stamping.card published one).JoinsTo (Stamping.card published two) (Stamping.card published whole) where
  title := joins.title
  scope := joins.scope
  valuations := joins.valuations
  scenarios := by simp [Stamping.card, joins.scenarios]

theorem Stamping.log_joins (published : Option Timestamp) :
    Stamping.log published whole = Stamping.log published one ++ Stamping.log published two := by
  simp [Stamping.log, joins.scenarios]

end Steps

namespace Migration

/-! ## Joined statuses -/

/-- The entries of the log of the change of generation; no log has none. -/
def Status.reshaped (status : Status) : List ReshapedScenario :=
  (status.generation.map GenerationLog.scenarios).getD []

/-- The entries of the log of the new scales. -/
def Status.rescaled (status : Status) : List RescaledScenario :=
  (status.rescaling.map RescalingLog.scenarios).getD []

/-- The entries of the log of the stamping. -/
def Status.stamped (status : Status) : List StampedScenario :=
  (status.stamping.map StampingLog.scenarios).getD []

/-- A status says what two others say together of the same steps: every flag that either sets, and the entries of the
    one in front of those of the other in every log. -/
structure Status.JoinsTo (one two whole : Status) : Prop where
  changes : whole.changes = (one.changes || two.changes)
  requiresNewApproval : whole.requiresNewApproval = (one.requiresNewApproval || two.requiresNewApproval)
  span : one.span = whole.span ∧ two.span = whole.span
  appliedSteps : one.appliedSteps = whole.appliedSteps ∧ two.appliedSteps = whole.appliedSteps
  reshaped : whole.reshaped = one.reshaped ++ two.reshaped
  rescaled : whole.rescaled = one.rescaled ++ two.rescaled
  stamped : whole.stamped = one.stamped ++ two.stamped

variable {options : Options} {document reached : Document} {leg : Span} {report : Report}

/-- The status keeps no log of a step that is still ahead of the document. -/
def Status.IsBehind (status : Status) (document : Document) : Prop :=
  ∀ leg ∈ status.logged, ∀ version, document.version? = some version → leg.target ≤ version

theorem initial_isBehind (document : Document) : Status.initial.IsBehind document := by
  simp [Status.IsBehind, Status.logged, Status.logs, Status.initial]

/-- A step does not find a log of its own kind. -/
theorem Raises.not_logged (raises : Raises options document leg report reached) {status : Status}
    (behind : status.IsBehind document) : leg ∉ status.logged :=
  fun logged => absurd (source_lt_target raises.listed) (behind leg logged _ raises.source)

theorem Raises.isBehind (raises : Raises options document leg report reached) {status : Status}
    (behind : status.IsBehind document) : (status.after leg report).IsBehind reached := by
  intro kept logged version known
  cases raises.target.symm.trans known
  rcases (logged_after status kept leg report).mp logged with before | ⟨log, reported, rfl⟩
  · exact Version.le_trans (behind kept before _ raises.source) (Version.le_of_lt (source_lt_target raises.listed))
  · rw [raises.log_leg reported]
    exact Version.le_refl _

/-! ## Logs after a step -/

@[simp] theorem after_span (status : Status) (leg : Span) (report : Report) :
    (status.after leg report).span = status.span := by
  obtain ⟨changes, approval, log⟩ := report
  rcases log with - | (log | log | log) <;> rfl

/-- The log of one step: the entries that a status keeps of it, and those that the step owes for a document. -/
structure LogSlot (options : Options) (ε : Type) where
  step : Span
  kept : Status → List ε
  wrap : List ε → Log
  owed : Document → List ε
  kept_after : ∀ (status : Status) (leg : Span) (report : Report),
    kept (status.after leg report) = kept (status.enter report.log)
  kept_wrap : ∀ (status : Status) (entries : List ε), kept (status.enter (some (wrap entries))) = entries
  kept_other : ∀ (status : Status) (log : Log), log.leg ≠ step → kept (status.enter (some log)) = kept status
  kept_fresh : ∀ status : Status, step ∉ status.logged → kept status = []
  reported : ∀ {document report reached}, Raises options document step report reached →
    report.log = if (owed document).isEmpty then none else some (wrap (owed document))
  owed_joins : ∀ {one two whole : Document}, one.JoinsTo two whole → owed whole = owed one ++ owed two

namespace LogSlot

theorem entries_of_fresh {L ε : Type} {log : Option L} {entries : L → List ε} {status : Status}
    (logged : log.isSome = true ↔ leg ∈ status.logged) (fresh : leg ∉ status.logged) :
    (log.map entries).getD [] = [] := by
  rw [← logged, Option.not_isSome_iff_eq_none] at fresh
  rw [fresh, Option.map_none, Option.getD_none]

def generation (options : Options) : LogSlot options ReshapedScenario where
  step := ⟨.v3_3, .v4_0⟩
  kept := Status.reshaped
  wrap entries := .generation ⟨entries⟩
  owed
    | .v3_3 c => Generation.log c
    | _ => []
  kept_after _ _ _ := rfl
  kept_wrap _ _ := rfl
  kept_other
    | _, .generation _, other => absurd rfl other
    | _, .rescaling _, _ => rfl
    | _, .stamping _, _ => rfl
  kept_fresh status := entries_of_fresh (isSome_generation status)
  reported raises := by
    cases raises
    rfl
  owed_joins joins := by
    cases joins with
    | v3_3 cards => exact Generation.log_joins cards
    | _ => rfl

def rescaling (options : Options) : LogSlot options RescaledScenario where
  step := ⟨.v4_0, .v4_1⟩
  kept := Status.rescaled
  wrap entries := .rescaling ⟨entries⟩
  owed
    | .v4_0 c => Rescaling.log c
    | _ => []
  kept_after _ _ _ := rfl
  kept_wrap _ _ := rfl
  kept_other
    | _, .generation _, _ => rfl
    | _, .rescaling _, other => absurd rfl other
    | _, .stamping _, _ => rfl
  kept_fresh status := entries_of_fresh (isSome_rescaling status)
  reported raises := by
    cases raises
    rfl
  owed_joins joins := by
    cases joins with
    | v4_0 cards => exact Rescaling.log_joins cards
    | _ => rfl

def stamping (options : Options) : LogSlot options StampedScenario where
  step := ⟨.v4_1, .v4_2⟩
  kept := Status.stamped
  wrap entries := .stamping ⟨entries⟩
  owed
    | .v4_1 c => Stamping.log options.lastPublished c
    | _ => []
  kept_after _ _ _ := rfl
  kept_wrap _ _ := rfl
  kept_other
    | _, .generation _, _ => rfl
    | _, .rescaling _, _ => rfl
    | _, .stamping _, other => absurd rfl other
  kept_fresh status := entries_of_fresh (isSome_stamping status)
  reported raises := by
    cases raises
    rfl
  owed_joins joins := by
    cases joins with
    | v4_1 cards => exact Stamping.log_joins cards options.lastPublished
    | _ => rfl

/-- A step fills the slot of its own log, which was empty before, and leaves the others alone. -/
theorem kept_raises {ε : Type} (slot : LogSlot options ε) {status : Status} (behind : status.IsBehind document)
    (raises : Raises options document leg report reached) :
    slot.kept (status.after leg report) = if leg = slot.step then slot.owed document else slot.kept status := by
  rw [slot.kept_after]
  split
  case isTrue own =>
    subst own
    rw [slot.reported raises]
    split
    case isTrue empty => exact (slot.kept_fresh status (raises.not_logged behind)).trans (List.isEmpty_iff.mp empty).symm
    case isFalse => exact slot.kept_wrap status _
  case isFalse other =>
    cases reported : report.log with
    | none => rfl
    | some log => exact slot.kept_other status log (raises.log_leg reported ▸ other)

end LogSlot

/-! ## Steps of joined documents -/

/-- Invariant of three runs side by side. -/
structure SideBySide (one two whole : Document × Status) : Prop where
  documents : one.1.JoinsTo two.1 whole.1
  statuses : one.2.JoinsTo two.2 whole.2
  behind : one.2.IsBehind one.1 ∧ two.2.IsBehind two.1 ∧ whole.2.IsBehind whole.1

/-- Where one of three joined documents has a step upward, the others have it too. -/
theorem Raises.beside {one two whole : Document} (raises : Raises options one leg report reached)
    (joins : one.JoinsTo two whole) :
    ∃ second two' third whole', Raises options two leg second two' ∧ Raises options whole leg third whole' := by
  cases raises with
  | version => cases joins with | v3_2 => exact ⟨_, _, _, _, .version _, .version _⟩
  | generation => cases joins with | v3_3 => exact ⟨_, _, _, _, .generation _, .generation _⟩
  | rescaling => cases joins with | v4_0 => exact ⟨_, _, _, _, .rescaling _, .rescaling _⟩
  | stamping => cases joins with | v4_1 => exact ⟨_, _, _, _, .stamping _, .stamping _⟩

section Beside

variable {one two whole one' two' whole' : Document} {left right both : Status} {first second third : Report}
  (beside : SideBySide (one, left) (two, right) (whole, both)) (raises : Raises options one leg first one')
  (raises' : Raises options two leg second two') (raises'' : Raises options whole leg third whole')

include beside raises raises' raises''

theorem SideBySide.next_documents : one'.JoinsTo two' whole' := by
  obtain ⟨documents, -, -⟩ := beside
  cases documents with
  | v3_2 cards => cases raises; cases raises'; cases raises''; exact .v3_3 cards
  | v3_3 cards => cases raises; cases raises'; cases raises''; exact .v4_0 (Generation.card_joins cards)
  | v4_0 cards => cases raises; cases raises'; cases raises''; exact .v4_1 (Rescaling.card_joins cards)
  | v4_1 cards =>
    cases raises; cases raises'; cases raises''
    exact .v4_2 (Stamping.card_joins cards options.lastPublished)
  | v4_2 => cases raises

theorem SideBySide.next_flags : third.changes = (first.changes || second.changes) ∧
    third.requiresNewApproval = (first.requiresNewApproval || second.requiresNewApproval) := by
  obtain ⟨documents, -, -⟩ := beside
  cases documents with
  | v3_2 => cases raises; cases raises'; cases raises''; exact ⟨rfl, rfl⟩
  | v3_3 => cases raises; cases raises'; cases raises''; exact ⟨rfl, rfl⟩
  | v4_0 cards =>
    cases raises; cases raises'; cases raises''
    simp [Rescaling.report, Rescaling.log_joins cards, isEmpty_append]
  | v4_1 cards =>
    cases raises; cases raises'; cases raises''
    simp [Stamping.report, Stamping.log_joins cards, isEmpty_append]
  | v4_2 => cases raises

theorem SideBySide.next_slot {ε : Type} (slot : LogSlot options ε)
    (joins : slot.kept both = slot.kept left ++ slot.kept right) :
    slot.kept (both.after leg third) = slot.kept (left.after leg first) ++ slot.kept (right.after leg second) := by
  obtain ⟨documents, -, behind, behind', behind''⟩ := beside
  rw [slot.kept_raises behind raises, slot.kept_raises behind' raises', slot.kept_raises behind'' raises'']
  split
  · exact slot.owed_joins documents
  · exact joins

/-- Step lemma. -/
theorem SideBySide.next :
    SideBySide (one', left.after leg first) (two', right.after leg second) (whole', both.after leg third) := by
  have statuses : left.JoinsTo right both := beside.statuses
  obtain ⟨changes, approval⟩ := beside.next_flags raises raises' raises''
  refine ⟨beside.next_documents raises raises' raises'', ?_, raises.isBehind beside.behind.1,
    raises'.isBehind beside.behind.2.1, raises''.isBehind beside.behind.2.2⟩
  constructor
  case changes =>
    simp only [Status.after, statuses.changes, changes]
    ac_rfl
  case requiresNewApproval =>
    simp only [Status.after, statuses.requiresNewApproval, approval]
    ac_rfl
  case span => simp [statuses.span]
  case appliedSteps => simp [Status.after, statuses.appliedSteps]
  case reshaped => exact beside.next_slot raises raises' raises'' (.generation options) statuses.reshaped
  case rescaled => exact beside.next_slot raises raises' raises'' (.rescaling options) statuses.rescaled
  case stamped => exact beside.next_slot raises raises' raises'' (.stamping options) statuses.stamped

end Beside

/-! ## Runs of joined documents -/

/-- Run lemma. -/
theorem Run.beside {one two whole first : Document} {left right both : Status} {trace : List (Span × Report)}
    (run : Run options one trace first) (beside : SideBySide (one, left) (two, right) (whole, both)) :
    ∃ trace' second trace'' all, Run options two trace' second ∧ Run options whole trace'' all ∧
      SideBySide (first, left.absorbed trace) (second, right.absorbed trace') (all, both.absorbed trace'') := by
  -- By induction on the run of the first document, which the other two follow step by step.
  induction run generalizing two whole left right both with
  | stay => exact ⟨[], two, [], whole, .stay two, .stay whole, beside⟩
  | step raises _ ih =>
    obtain ⟨report', two', report'', whole', raises', raises''⟩ := raises.beside beside.documents
    obtain ⟨trace', second, trace'', all, run', run'', finish⟩ := ih (beside.next raises raises' raises'')
    exact ⟨_, second, _, all, .step raises' run', .step raises'' run'', finish⟩

theorem Status.JoinsTo.ofRun {source target : Version} {trace trace' trace'' : List (Span × Report)}
    (joins : (Status.initial.absorbed trace).JoinsTo (Status.initial.absorbed trace')
      (Status.initial.absorbed trace'')) :
    (Status.ofRun source target trace).JoinsTo (Status.ofRun source target trace')
      (Status.ofRun source target trace'') where
  changes := joins.changes
  requiresNewApproval := joins.requiresNewApproval
  span := ⟨rfl, rfl⟩
  appliedSteps := joins.appliedSteps
  reshaped := joins.reshaped
  rescaled := joins.rescaled
  stamped := joins.stamped

theorem initial_beside {one two whole : Document} (joins : one.JoinsTo two whole) :
    SideBySide (one, .initial) (two, .initial) (whole, .initial) :=
  ⟨joins, ⟨rfl, rfl, ⟨rfl, rfl⟩, ⟨rfl, rfl⟩, rfl, rfl, rfl⟩,
    initial_isBehind one, initial_isBehind two, initial_isBehind whole⟩

/-- Documents that make up a third one are migrated to documents that make up what the third is migrated to, and their
    statuses make up its status. Nothing is assumed about the ids of the scenarios. -/
theorem toVersion_joins (options : Options) {one two whole : Document} {source target : Version}
    (joins : one.JoinsTo two whole) (start : whole.version? = some source) (supported : target.IsSupported)
    (upward : source ≤ target) :
    ∃ first left second right all both, toVersion one target options = .ok (first, left) ∧
      toVersion two target options = .ok (second, right) ∧ toVersion whole target options = .ok (all, both) ∧
      first.JoinsTo second all ∧ left.JoinsTo right both := by
  obtain ⟨startOne, startTwo⟩ := joins.version?
  obtain ⟨trace, first, run, finish⟩ := run_exists options one (startOne.trans start) supported upward
  obtain ⟨trace', second, trace'', all, run', run'', beside⟩ := run.beside (initial_beside joins)
  obtain ⟨finishOne, finishTwo⟩ := beside.documents.version?
  have finish'' : all.version? = some target := finishOne.symm.trans finish
  exact ⟨first, _, second, _, all, _, toVersion_run run (startOne.trans start) finish,
    toVersion_run run' (startTwo.trans start) (finishTwo.trans finish''), toVersion_run run'' start finish'',
    beside.documents, beside.statuses.ofRun⟩

/-- A scenario with the id of the outage, of which the new generation drops nothing. -/
def maintenance : Third.Card :=
  { outage with
    scenarios := [{
      id := "s1"
      title := "Maintenance"
      description := ""
      url := none
      threatActors := [.insider]
      vulnerabilities := [.misconfiguration]
      risk := ⟨none, Rescaling.preset 50 0, Rescaling.preset 7 0⟩
      remainingRisk := ⟨none, Rescaling.preset 1 0, Rescaling.preset 7 0⟩
      existingActions := none
      actions := [] }] }

/-- The outage and the maintenance under one id. -/
def operations : Third.Card := { outage with scenarios := outage.scenarios ++ maintenance.scenarios }

/-- Only the outage is in the log of the new generation, both are in that of the new scales. -/
theorem toVersion_joins_operations :
    ∃ first left second right all both, toVersion (.v3_3 outage) .v4_2 .none = .ok (first, left) ∧
      toVersion (.v3_3 maintenance) .v4_2 .none = .ok (second, right) ∧
      toVersion (.v3_3 operations) .v4_2 .none = .ok (all, both) ∧
      first.JoinsTo second all ∧ left.JoinsTo right both ∧
      both.reshaped.map ReshapedScenario.title = ["Outage"] ∧
      both.rescaled.map RescaledScenario.title = ["Outage", "Maintenance"] := by
  have joins : (Document.v3_3 outage).JoinsTo (.v3_3 maintenance) (.v3_3 operations) :=
    .v3_3 ⟨⟨rfl, rfl⟩, ⟨rfl, rfl⟩, ⟨rfl, rfl⟩, rfl⟩
  obtain ⟨first, left, second, right, all, both, one, two, whole, documents, statuses⟩ :=
    toVersion_joins .none joins rfl (by decide : Version.v4_2.IsSupported) (by decide)
  have migrated : toVersion (.v3_3 operations) .v4_2 .none = _ :=
    toVersion_run (.step (.generation operations) (.step (.rescaling _) (.step (.stamping _) (.stay _)))) rfl rfl
  cases migrated.symm.trans whole
  exact ⟨first, left, second, right, _, _, one, two, migrated, documents, statuses, by decide +kernel,
    by decide +kernel⟩

end Migration
end Scorecard

import Scorecard.Proofs.MigrationRun

/-!
# Migrating in stages

A migration that stops at a version in between and goes on from there ends with the same document as
one that goes all the way, and its two statuses add up to the status of the whole
(`toVersion_stages`). No log is overwritten on the way, since each kind of log belongs to one step
(`Log.leg`) and the two stages have no step in common (`logs_apart`).
-/

namespace Scorecard.Migration

variable {options : Options} {document first second : Document} {source middle target : Version}

/-- The step that keeps a log of that kind. -/
def Log.leg : Log → Span
  | .generation _ => ⟨.v3_3, .v4_0⟩
  | .rescaling _ => ⟨.v4_0, .v4_1⟩
  | .stamping _ => ⟨.v4_1, .v4_2⟩

theorem Raises.log_leg {leg : Span} {report : Report} {log : Log}
    (raises : Raises options document leg report first) (reported : report.log = some log) : log.leg = leg := by
  cases raises with
  | version => cases reported
  | generation c =>
    simp only [Generation.report] at reported
    split at reported <;> cases reported
    rfl
  | rescaling c =>
    simp only [Rescaling.report] at reported
    split at reported <;> cases reported
    rfl
  | stamping c =>
    simp only [Stamping.report] at reported
    split at reported <;> cases reported
    rfl

/-- A log that a run reports belongs to a step on the way. -/
theorem Run.log_between {trace : List (Span × Report)} (run : Run options document trace first)
    (start : document.version? = some source) (finish : first.version? = some target)
    {step : Span × Report} (listed : step ∈ trace) {log : Log} (reported : step.2.log = some log) :
    source ≤ log.leg.source ∧ log.leg.target ≤ target := by
  induction run generalizing source with
  | stay => cases listed
  | @step document middle reached leg report rest raises later ih =>
    cases raises.source.symm.trans start
    rcases List.mem_cons.mp listed with rfl | deeper
    · rw [raises.log_leg reported]
      exact ⟨Version.le_refl _, later.le raises.target finish⟩
    · obtain ⟨above, below⟩ := ih raises.target finish deeper
      exact ⟨Version.le_trans (Version.le_of_lt (source_lt_target raises.listed)) above, below⟩

theorem Run.log_of_status {trace : List (Span × Report)} (run : Run options document trace first)
    (start : document.version? = some source) (finish : first.version? = some target)
    {log : Log} (kept : log ∈ (Status.ofRun source target trace).logs) :
    source ≤ log.leg.source ∧ log.leg.target ≤ target := by
  have origin : log ∈ Status.initial.logs ∨ ∃ step ∈ trace, step.2.log = some log := mem_logs_absorbed kept
  rcases origin with before | ⟨step, listed, reported⟩
  · cases before
  · exact run.log_between start finish listed reported

theorem leg_climbs (log : Log) : log.leg.source < log.leg.target := by
  have listed : log.leg ∈ ladder := by cases log <;> simp [Log.leg, ladder]
  exact source_lt_target listed

/-- Two stages that follow each other never keep a log of the same step. -/
theorem logs_apart {early late : List (Span × Report)} (lower : Run options document early first)
    (upper : Run options first late second) (start : document.version? = some source)
    (between : first.version? = some middle) (finish : second.version? = some target)
    {one two : Log} (keptEarly : one ∈ (Status.ofRun source middle early).logs)
    (keptLate : two ∈ (Status.ofRun middle target late).logs) : one.leg ≠ two.leg := by
  intro same
  have below := (lower.log_of_status start between keptEarly).2
  have above := (upper.log_of_status between finish keptLate).1
  rw [← same] at above
  exact absurd (leg_climbs one) (Version.le_trans below above)

/-- A place for logs of one step is filled by at most one of two stages, and the whole run has there
    what the one or the other has. -/
theorem slot_of_stages {α : Type} (slot : Status → Option α) (kind : α → Log)
    (kept : ∀ status a, slot status = some a → kind a ∈ status.logs)
    (sameLeg : ∀ a b, (kind a).leg = (kind b).leg)
    (spanless : ∀ source target trace, slot (Status.ofRun source target trace) = slot (Status.initial.absorbed trace))
    (joins : ∀ early late : Status, slot (early.joined late) = (slot late).or (slot early))
    {early late : List (Span × Report)} (lower : Run options document early first)
    (upper : Run options first late second) (start : document.version? = some source)
    (between : first.version? = some middle) (finish : second.version? = some target) :
    (slot (Status.ofRun source middle early) = none ∨ slot (Status.ofRun middle target late) = none) ∧
      slot (Status.ofRun source target (early ++ late)) =
        (slot (Status.ofRun source middle early)).or (slot (Status.ofRun middle target late)) := by
  have whole : slot (Status.ofRun source target (early ++ late)) =
      (slot (Status.ofRun middle target late)).or (slot (Status.ofRun source middle early)) := by
    rw [spanless, spanless, spanless, absorbed_append, absorbed_eq_joined late, joins]
  rw [whole]
  cases one : slot (Status.ofRun source middle early) with
  | none => simp
  | some a =>
    cases two : slot (Status.ofRun middle target late) with
    | none => simp
    | some b =>
      have apart := logs_apart lower upper start between finish (kept _ a one) (kept _ b two)
      exact absurd (sameLeg a b) apart

/-- A migration in two stages amounts to the migration in one. Nothing has to be assumed about the
    order of the three versions: a stage that succeeds leads upward. -/
theorem toVersion_stages {early late : Status} (start : document.version? = some source)
    (lower : toVersion document middle options = .ok (first, early))
    (upper : toVersion first target options = .ok (second, late)) :
    ∃ status, toVersion document target options = .ok (second, status) ∧
      status.appliedSteps = early.appliedSteps ++ late.appliedSteps ∧
      status.changes = (early.changes || late.changes) ∧
      status.requiresNewApproval = (early.requiresNewApproval || late.requiresNewApproval) ∧
      ((early.generation = none ∨ late.generation = none) ∧
        status.generation = early.generation.or late.generation) ∧
      ((early.rescaling = none ∨ late.rescaling = none) ∧
        status.rescaling = early.rescaling.or late.rescaling) ∧
      ((early.stamping = none ∨ late.stamping = none) ∧
        status.stamping = early.stamping.or late.stamping) ∧
      status.span = if source < target then some ⟨source, target⟩ else none := by
  obtain ⟨source', firstTrace, start', between, firstRun, rfl⟩ := (toVersion_ok_iff ..).mp lower
  obtain ⟨middle', secondTrace, between', finish, secondRun, rfl⟩ := (toVersion_ok_iff ..).mp upper
  cases start.symm.trans start'
  cases between.symm.trans between'
  have whole := firstRun.append secondRun
  have folded : Status.initial.absorbed (firstTrace ++ secondTrace) =
      (Status.initial.absorbed firstTrace).joined (Status.initial.absorbed secondTrace) := by
    rw [absorbed_append, absorbed_eq_joined secondTrace]
  refine ⟨_, toVersion_run whole start finish, ?_, ?_, ?_, ?_, ?_, ?_, ?_⟩
  · simp [Status.ofRun, folded, Status.joined]
  · simp [Status.ofRun, folded, Status.joined]
  · simp [Status.ofRun, folded, Status.joined]
  · refine slot_of_stages Status.generation .generation ?_ (fun _ _ => rfl) (fun _ _ _ => rfl)
      (fun _ _ => rfl) firstRun secondRun start between finish
    intro status log kept
    simp [Status.logs, kept]
  · refine slot_of_stages Status.rescaling .rescaling ?_ (fun _ _ => rfl) (fun _ _ _ => rfl)
      (fun _ _ => rfl) firstRun secondRun start between finish
    intro status log kept
    simp [Status.logs, kept]
  · refine slot_of_stages Status.stamping .stamping ?_ (fun _ _ => rfl) (fun _ _ _ => rfl)
      (fun _ _ => rfl) firstRun secondRun start between finish
    intro status log kept
    simp [Status.logs, kept]
  · rcases (Version.le_iff_lt_or_eq source target).mp (whole.le start finish) with below | rfl
    · simp [Status.ofRun, Version.ne_of_lt below, below]
    · simp [Status.ofRun, Version.lt_irrefl]

/-- A card that every step from 3.3 on changes: a renamed vulnerability, a preset probability and an
    action with an owner. -/
def outage : Third.Card where
  title := "Payments"
  scope := ""
  valuations := []
  scenarios := [{
    id := "s1"
    title := "Outage"
    description := ""
    url := none
    threatActors := [.hacktivist]
    vulnerabilities := [.denialOfService, .misconfiguration]
    risk := ⟨some "Likely", Rescaling.preset 1 (-2), Rescaling.preset 7 0⟩
    remainingRisk := ⟨none, Rescaling.preset 1 0, Rescaling.preset 1000 0⟩
    existingActions := some "Rate limit"
    actions := [⟨"a1", "Scale out", "", none, .inProgress, some "team", none⟩] }]

/-- Over 4.0 to 4.2. -/
theorem toVersion_stages_outage :
    ∃ first early second late status,
      toVersion (.v3_3 outage) .v4_0 .none = .ok (first, early) ∧
      toVersion first .v4_2 .none = .ok (second, late) ∧
      toVersion (.v3_3 outage) .v4_2 .none = .ok (second, status) ∧
      early.generation.isSome ∧ late.rescaling.isSome ∧ status.generation = early.generation ∧
      status.rescaling = late.rescaling ∧
      status.appliedSteps = [⟨.v3_3, .v4_0⟩, ⟨.v4_0, .v4_1⟩, ⟨.v4_1, .v4_2⟩] ∧
      status.span = some ⟨.v3_3, .v4_2⟩ := by
  have lower : toVersion (.v3_3 outage) .v4_0 .none = _ :=
    toVersion_run (.step (.generation outage) (.stay _)) rfl rfl
  have upper : toVersion (.v4_0 (Generation.card outage)) .v4_2 .none = _ :=
    toVersion_run (.step (.rescaling _) (.step (.stamping _) (.stay _))) rfl rfl
  obtain ⟨status, migrated, steps, -, -, generation, rescaling, -, span⟩ := toVersion_stages rfl lower upper
  exact ⟨_, _, _, _, status, lower, upper, migrated, by decide +kernel, by decide +kernel,
    generation.2, rescaling.2, steps, span⟩

end Scorecard.Migration

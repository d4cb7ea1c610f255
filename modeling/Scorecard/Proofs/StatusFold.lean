import Scorecard.MigrationStatus

/-!
# Folding reports into a status

A run folds the reports of its steps into its status one after the other (`Status.absorbed`). What the
later steps add can be folded on its own and joined behind what the earlier ones left
(`absorbed_eq_joined`), and every log of a status was reported by one of the steps
(`mem_logs_absorbed`).
-/

namespace Scorecard.Migration

/-- The status once the reports of a trace are folded into it. -/
def Status.absorbed (status : Status) (trace : List (Span × Report)) : Status :=
  trace.foldl (fun status step => status.after step.1 step.2) status

/-- What two statuses say together; where both keep a log of one kind, the later one counts. -/
def Status.joined (early late : Status) : Status where
  changes := early.changes || late.changes
  requiresNewApproval := early.requiresNewApproval || late.requiresNewApproval
  span := early.span
  appliedSteps := early.appliedSteps ++ late.appliedSteps
  generation := late.generation.or early.generation
  rescaling := late.rescaling.or early.rescaling
  stamping := late.stamping.or early.stamping

theorem joined_assoc (a b c : Status) : (a.joined b).joined c = a.joined (b.joined c) := by
  simp [Status.joined, Bool.or_assoc, Option.or_assoc]

theorem joined_initial (status : Status) : status.joined .initial = status := by
  simp [Status.joined, Status.initial]

/-- One report more is joined behind a status as it would be entered into an empty one. -/
theorem after_eq_joined (status : Status) (leg : Span) (report : Report) :
    status.after leg report = status.joined (Status.initial.after leg report) := by
  obtain ⟨changes, approval, log⟩ := report
  rcases log with - | (log | log | log) <;>
    simp [Status.after, Status.enter, Status.joined, Status.initial]

theorem absorbed_cons (status : Status) (leg : Span) (report : Report) (rest : List (Span × Report)) :
    status.absorbed ((leg, report) :: rest) = (status.after leg report).absorbed rest := rfl

theorem absorbed_append (status : Status) (first second : List (Span × Report)) :
    status.absorbed (first ++ second) = (status.absorbed first).absorbed second := by
  simp [Status.absorbed]

/-- What a trace adds to a status does not depend on the status. -/
theorem absorbed_eq_joined (trace : List (Span × Report)) (status : Status) :
    status.absorbed trace = status.joined (Status.initial.absorbed trace) := by
  induction trace generalizing status with
  | nil => exact (joined_initial status).symm
  | cons step rest ih =>
    obtain ⟨leg, report⟩ := step
    calc
      status.absorbed ((leg, report) :: rest)
        = (status.after leg report).joined (Status.initial.absorbed rest) := ih _
      _ = status.joined ((Status.initial.after leg report).joined (Status.initial.absorbed rest)) := by
        rw [after_eq_joined status, joined_assoc]
      _ = status.joined (Status.initial.absorbed ((leg, report) :: rest)) := by
        rw [absorbed_cons, ih (Status.initial.after leg report)]

theorem absorbed_appliedSteps (trace : List (Span × Report)) (status : Status) :
    (status.absorbed trace).appliedSteps = status.appliedSteps ++ trace.map Prod.fst := by
  induction trace generalizing status with
  | nil => simp [Status.absorbed]
  | cons step rest ih =>
    have entered : (status.after step.1 step.2).appliedSteps = status.appliedSteps ++ [step.1] := rfl
    rw [absorbed_cons, ih, entered]
    simp

/-! ## Where the logs come from -/

/-- The logs that a status keeps. -/
def Status.logs (status : Status) : List Log :=
  (status.generation.map Log.generation).toList ++ (status.rescaling.map Log.rescaling).toList ++
    (status.stamping.map Log.stamping).toList

theorem mem_logs_after {status : Status} {leg : Span} {report : Report} {log : Log}
    (kept : log ∈ (status.after leg report).logs) : log ∈ status.logs ∨ report.log = some log := by
  obtain ⟨changes, approval, entered⟩ := report
  rcases entered with - | (new | new | new)
  · exact .inl kept
  all_goals
    simp only [Status.logs, Status.after, Status.enter, List.mem_append, Option.mem_toList,
      Option.map_some, Option.some.injEq] at kept ⊢
    grind

/-- Every log that a trace leaves in a status was there before or is the log of one of its steps. -/
theorem mem_logs_absorbed {trace : List (Span × Report)} {status : Status} {log : Log}
    (kept : log ∈ (status.absorbed trace).logs) :
    log ∈ status.logs ∨ ∃ step ∈ trace, step.2.log = some log := by
  induction trace generalizing status with
  | nil => exact .inl kept
  | cons step rest ih =>
    rcases ih kept with early | ⟨later, listed, reported⟩
    · rcases mem_logs_after early with before | reported
      · exact .inl before
      · exact .inr ⟨step, by simp, reported⟩
    · exact .inr ⟨later, by simp [listed], reported⟩

end Scorecard.Migration

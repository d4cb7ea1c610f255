import Scorecard.Proofs.MarkedLists
import Scorecard.Proofs.StatusFlags

/-!
# What a status says is exact

The status of a run upward says exactly what the run did (`toVersion_isExact`): it asks for a new approval if the
generation changes or a preset moves, it reports changes if the record is another one, and it keeps the log of a
step if the step had something to log. A status that says nothing is the status of a run that changed nothing.
-/

namespace Scorecard

/-! ## Equal cards -/

theorem beq_self_of_forall {α : Type} [BEq α] {xs : List α} (reflexive : ∀ x ∈ xs, (x == x) = true) :
    (xs == xs) = true := by
  induction xs with
  | nil => rfl
  | cons x rest ih =>
    rw [List.cons_beq_cons, Bool.and_eq_true]
    exact ⟨reflexive x List.mem_cons_self, ih fun y here => reflexive y (List.mem_cons_of_mem x here)⟩

theorem beq_of_beq_map {α : Type} [BEq α] {f : α → α} {xs : List α} (same : (xs == xs.map f) = true) :
    ∀ x ∈ xs, (x == f x) = true := by
  induction xs with
  | nil => simp
  | cons x rest ih =>
    rw [List.map_cons, List.cons_beq_cons, Bool.and_eq_true] at same
    intro y here
    rcases List.mem_cons.mp here with rfl | here
    · exact same.1
    · exact ih same.2 y here

namespace Fourth

theorem Card.beq_iff (c d : Card) : (c == d) = true ↔
    c.title = d.title ∧ c.scope = d.scope ∧ c.valuations = d.valuations ∧ (c.scenarios == d.scenarios) = true := by
  cases c; cases d
  show (_ && (_ && (_ && _))) = true ↔ _
  simp only [Bool.and_eq_true, beq_iff_eq]

theorem Card.beq_self {c : Card} (numeric : (Document.v4_0 c).IsNumeric) : (c == c) = true :=
  (Card.beq_iff c c).mpr
    ⟨rfl, rfl, rfl, beq_self_of_forall fun _ here => Scenario.beq_self (Fourth.of_risks numeric here)⟩

/-- Equal cards have equal estimates. -/
theorem risks_beq {c d : Card} (same : (c == d) = true) :
    ((Document.v4_0 c).risks == (Document.v4_0 d).risks) = true := by
  have lists : ∀ ss ts : List Scenario, (ss == ts) = true →
      ((ss.flatMap fun s => [s.risk, s.remainingRisk]) == ts.flatMap fun s => [s.risk, s.remainingRisk]) = true := by
    intro ss
    induction ss with
    | nil =>
      intro ts same
      cases ts with
      | nil => rfl
      | cons => cases same
    | cons s rest ih =>
      intro ts same
      cases ts with
      | nil => cases same
      | cons t later =>
        rw [List.cons_beq_cons, Bool.and_eq_true] at same
        have risks := ((Scenario.beq_iff s t).mp same.1).2
        simp [risks.1, risks.2, ih later same.2]
  exact lists _ _ ((Card.beq_iff c d).mp same).2.2.2

/-- Equal cards have the same stamps. -/
theorem stamps_eq {c d : Card} (same : (c == d) = true) : (Document.v4_1 c).stamps = (Document.v4_1 d).stamps := by
  have common : ∀ s t : Scenario, (s == t) = true →
      s.actions.map Action.lastUpdated = t.actions.map Action.lastUpdated := by
    intro s t same
    exact congrArg (fun u => u.actions.map Action.lastUpdated) ((Scenario.beq_iff s t).mp same).1
  have lists := map_eq_of_beq common ((Card.beq_iff c d).mp same).2.2.2
  simp only [Document.stamps, List.flatMap_def, lists]

end Fourth

namespace Migration

/-- What the status of a run from one version to a higher one has to say. -/
structure Status.IsExact (options : Options) (document reached : Document) (run : Span) (status : Status) : Prop where
  /-- A new approval is needed for the new generation and for moved presets. -/
  requiresNewApproval : status.requiresNewApproval = true ↔ run.Crosses ⟨.v3_3, .v4_0⟩ ∨
    (run.Crosses ⟨.v4_0, .v4_1⟩ ∧ ∃ r ∈ document.risks, r.HasMovedPreset)
  /-- From the fourth generation on, changes are reported exactly if the record is another one. -/
  changes_fourth : ∀ old, document.record? = some (.fourth old) → ∃ new, reached.record? = some (.fourth new) ∧
    (status.changes = true ↔ (old == new) = false) ∧ (status.changes = false ↔ new = old)
  /-- Within the third generation nothing changes. -/
  changes_third : run.target ≤ .v3_3 → status.changes = false ∧ reached.record? = document.record?
  /-- The new generation always is a change. -/
  changes_generation : run.Crosses ⟨.v3_3, .v4_0⟩ → status.changes = true
  generation : status.generation.isSome = true ↔ run.Crosses ⟨.v3_3, .v4_0⟩ ∧
    ∃ old, document.record? = some (.third old) ∧ ∃ s ∈ old.scenarios, s.IsReshaped
  rescaling : status.rescaling.isSome = true ↔ run.Crosses ⟨.v4_0, .v4_1⟩ ∧
    ∃ pair ∈ document.risks.zip reached.risks, pair.1.NumbersDiffer pair.2
  /-- The stamps that count are those in front of the step, hence after a migration to 4.1. -/
  stamping : status.stamping.isSome = true ↔ run.Crosses ⟨.v4_1, .v4_2⟩ ∧
    ∃ before early, toVersion document .v4_1 options = .ok (before, early) ∧
      ∃ stamp ∈ before.stamps, stamp ≠ options.lastPublished
  filled : ∀ log ∈ status.logs, log.IsFilled
  isEmpty_changes : status.isEmpty = true ↔ status.changes = false
  isEmpty_record : status.isEmpty = true ↔ reached.record? = document.record?

variable {options : Options} {document reached : Document} {source target : Version} {trace : List (Span × Report)}

section Records

theorem risks_of_record {c : Fourth.Card} (record : document.record? = some (.fourth c)) :
    document.risks = (Document.v4_0 c).risks := by
  cases document <;> cases record <;> rfl

theorem stamps_of_record {c : Fourth.Card} (record : document.record? = some (.fourth c)) :
    document.stamps = (Document.v4_1 c).stamps := by
  cases document <;> cases record <;> rfl

variable (run : Run options document trace reached) (numeric : document.IsNumeric)

include run numeric

/-- A run whose steps report no change leaves the record as it is. -/
theorem Run.record_of_quiet (quiet : ∀ step ∈ trace, step.2.changes = false) :
    reached.record? = document.record? := by
  induction run with
  | stay => rfl
  | step raises later ih =>
    have first := raises.record_of_quiet numeric (quiet _ List.mem_cons_self)
    exact (ih (raises.isNumeric numeric) fun step here => quiet step (List.mem_cons_of_mem _ here)).trans first

theorem Run.record_of_unchanged (unchanged : (Status.ofRun source target trace).changes = false) :
    reached.record? = document.record? := by
  refine run.record_of_quiet numeric fun step here => ?_
  rw [Bool.eq_false_iff]
  intro changes
  cases unchanged.symm.trans (changes_iff_step.mpr ⟨step, here, changes⟩)

variable (start : document.version? = some source) (finish : reached.version? = some target)

include start finish

/-- Where a preset moved or a stamp was set, the card is another one. -/
theorem Run.differs_of_changes {old new : Fourth.Card} (departed : document.record? = some (.fourth old))
    (arrived : reached.record? = some (.fourth new)) (changes : (Status.ofRun source target trace).changes = true) :
    (old == new) = false := by
  rw [Bool.eq_false_iff]
  intro same
  obtain ⟨old', new', departed', arrived', carried⟩ := run.carries start finish
  cases departed.symm.trans departed'
  cases arrived.symm.trans arrived'
  rcases (run.changes_iff start finish).mp changes with crosses | ⟨leg, logged⟩
  · exact carried.1 crosses
  · -- A log of the new scales shows in the estimates, one of the stamping in the stamps.
    rcases (mem_logged _ leg).mp logged with ⟨-, rfl⟩ | ⟨-, rfl⟩ | ⟨-, rfl⟩
    · exact carried.1 (run.crosses_of_logged start finish logged)
    · obtain ⟨crosses, r, here, moved⟩ := (run.rescaling_logged_iff start finish numeric).mp logged
      have risks := run.risks_rescaled start finish numeric crosses
      have equal : (document.risks == document.risks.map Rescaling.risk) = true := by
        rw [← risks, risks_of_record departed, risks_of_record arrived]
        exact Fourth.risks_beq same
      obtain ⟨-, probability, consequence⟩ := (Risk.beq_iff _ _).mp (beq_of_beq_map equal r here)
      rcases (Rescaling.differ_risk_iff (numeric r here)).mpr moved with differs | differs
      · cases probability.symm.trans differs
      · cases consequence.symm.trans differs
    · obtain ⟨crosses, stamp, here, other⟩ := (run.stamping_logged_iff start finish numeric).mp logged
      rw [stamps_of_record departed, Fourth.stamps_eq same, ← stamps_of_record arrived] at here
      exact other (run.stamps_set start finish numeric crosses stamp here)

theorem Run.changes_iff_differs {old new : Fourth.Card} (departed : document.record? = some (.fourth old))
    (arrived : reached.record? = some (.fourth new)) :
    ((Status.ofRun source target trace).changes = true ↔ (old == new) = false) ∧
      ((Status.ofRun source target trace).changes = false ↔ new = old) := by
  have itself : (old == old) = true := by
    refine Fourth.Card.beq_self fun r here => numeric r ?_
    rwa [risks_of_record departed]
  have kept : (Status.ofRun source target trace).changes = false → new = old := by
    intro unchanged
    cases arrived.symm.trans ((run.record_of_unchanged numeric unchanged).trans departed)
    rfl
  have differs := run.differs_of_changes numeric start finish departed arrived
  refine ⟨⟨differs, ?_⟩, kept, ?_⟩
  · intro other
    cases changes : (Status.ofRun source target trace).changes with
    | true => rfl
    | false =>
      rw [kept changes] at other
      cases itself.symm.trans other
  · rintro rfl
    rw [Bool.eq_false_iff]
    intro changes
    cases itself.symm.trans (differs changes)

end Records

section Runs

variable (run : Run options document trace reached) (start : document.version? = some source)
  (finish : reached.version? = some target)

include run start finish

theorem Run.unchanged_third (below : target ≤ .v3_3) : (Status.ofRun source target trace).changes = false := by
  rw [Bool.eq_false_iff]
  intro changes
  rcases (run.changes_iff start finish).mp changes with crosses | ⟨leg, logged⟩
  · exact absurd (Version.le_trans crosses.2 below) (by decide)
  · have upper := Version.le_trans (run.crosses_of_logged start finish logged).2 below
    rcases (mem_logged _ leg).mp logged with ⟨-, rfl⟩ | ⟨-, rfl⟩ | ⟨-, rfl⟩ <;> exact absurd upper (by decide)

/-- Approvals and logs come with changes. -/
theorem Run.isEmpty_iff_unchanged :
    (Status.ofRun source target trace).isEmpty = true ↔ (Status.ofRun source target trace).changes = false := by
  constructor
  · intro empty
    simp only [Status.isEmpty, Bool.and_eq_true, Bool.not_eq_true'] at empty
    exact empty.1.1.1.1
  · intro unchanged
    obtain ⟨uncrossed, unlogged⟩ := not_or.mp (mt (run.changes_iff start finish).mpr (by simp [unchanged]))
    have absent (leg : Span) : leg ∉ (Status.ofRun source target trace).logged := fun logged => unlogged ⟨leg, logged⟩
    have approval : (Status.ofRun source target trace).requiresNewApproval = false := by
      rw [Bool.eq_false_iff, ne_eq, run.approval_iff start finish, not_or]
      exact ⟨uncrossed, absent _⟩
    have generation := mt (isSome_generation _).mp (absent ⟨.v3_3, .v4_0⟩)
    have rescaling := mt (isSome_rescaling _).mp (absent ⟨.v4_0, .v4_1⟩)
    have stamping := mt (isSome_stamping _).mp (absent ⟨.v4_1, .v4_2⟩)
    simp_all [Status.isEmpty]

theorem Run.isEmpty_iff_record (numeric : document.IsNumeric) :
    (Status.ofRun source target trace).isEmpty = true ↔ reached.record? = document.record? := by
  rw [run.isEmpty_iff_unchanged start finish]
  refine ⟨run.record_of_unchanged numeric, fun same => ?_⟩
  obtain ⟨old, new, departed, arrived, carried⟩ := run.carries start finish
  cases arrived.symm.trans (same.trans departed)
  cases old with
  | third card =>
    refine run.unchanged_third start finish ?_
    cases reached <;> cases arrived <;> cases finish <;> decide
  | fourth card => exact (run.changes_iff_differs numeric start finish departed arrived).2.mpr rfl

theorem Run.rescaling_logged_iff_differ (numeric : document.IsNumeric) :
    ⟨.v4_0, .v4_1⟩ ∈ (Status.ofRun source target trace).logged ↔ Span.Crosses ⟨source, target⟩ ⟨.v4_0, .v4_1⟩ ∧
      ∃ pair ∈ document.risks.zip reached.risks, pair.1.NumbersDiffer pair.2 := by
  rw [run.rescaling_logged_iff start finish numeric]
  refine and_congr_right fun crosses => ?_
  have pairs : (∃ pair ∈ document.risks.map fun r => (r, Rescaling.risk r), pair.1.NumbersDiffer pair.2) ↔
      ∃ r ∈ document.risks, r.NumbersDiffer (Rescaling.risk r) := by
    simp
  rw [run.risks_rescaled start finish numeric crosses, ← List.map_prod_left_eq_zip, pairs]
  exact exists_congr fun r => and_congr_right fun here => (Rescaling.differ_risk_iff (numeric r here)).symm

theorem Run.stamping_logged_iff_before (numeric : document.IsNumeric) :
    ⟨.v4_1, .v4_2⟩ ∈ (Status.ofRun source target trace).logged ↔ Span.Crosses ⟨source, target⟩ ⟨.v4_1, .v4_2⟩ ∧
      ∃ before early, toVersion document .v4_1 options = .ok (before, early) ∧
        ∃ stamp ∈ before.stamps, stamp ≠ options.lastPublished := by
  rw [run.stamping_logged_iff start finish numeric]
  refine and_congr_right fun crosses => ?_
  obtain ⟨early, before, report, after, late, lower, raises, -, -⟩ :=
    run.crossing numeric start finish (by decide) crosses
  have migrated : toVersion document .v4_1 options = _ := toVersion_run lower start raises.source
  rw [← lower.keeps_below Raises.keeps_stamps raises.listed start raises.source, migrated]
  simp

end Runs

/-- Every migration upward succeeds, and its status is exact. -/
theorem toVersion_isExact (options : Options) (numeric : document.IsNumeric) (start : document.version? = some source)
    (supported : target.IsSupported) (above : source < target) :
    ∃ reached status, toVersion document target options = .ok (reached, status) ∧
      status.IsExact options document reached ⟨source, target⟩ := by
  obtain ⟨trace, reached, run, finish⟩ := run_exists options document start supported (Version.le_of_lt above)
  obtain ⟨old, new, departed, arrived, carried⟩ := run.carries start finish
  have rescaled := run.rescaling_logged_iff start finish numeric
  refine ⟨reached, _, toVersion_run run start finish, ?_⟩
  constructor
  case requiresNewApproval => rw [run.approval_iff start finish, rescaled]
  case changes_fourth =>
    intro card record
    cases departed.symm.trans record
    cases new with
    | third => exact carried.elim
    | fourth new => exact ⟨new, arrived, run.changes_iff_differs numeric start finish departed arrived⟩
  case changes_third =>
    intro below
    have unchanged := run.unchanged_third start finish below
    exact ⟨unchanged, run.record_of_unchanged numeric unchanged⟩
  case changes_generation => exact fun crosses => (run.changes_iff start finish).mpr (.inl crosses)
  case generation => rw [isSome_generation, run.generation_logged_iff start finish numeric]
  case rescaling => rw [isSome_rescaling, run.rescaling_logged_iff_differ start finish numeric]
  case stamping => rw [isSome_stamping, run.stamping_logged_iff_before start finish numeric]
  case filled => exact fun _ => run.logs_filled
  case isEmpty_changes => exact run.isEmpty_iff_unchanged start finish
  case isEmpty_record => exact run.isEmpty_iff_record start finish numeric

/-- A card of 4.0 with the one preset that stays, and with an action that was never stamped. -/
def warehouse : Fourth.Card where
  title := "Warehouse"
  scope := none
  valuations := []
  scenarios := [{
    id := "s1"
    title := "Theft"
    description := ""
    url := none
    threatActors := [.insider]
    vulnerabilities := [.unauthorizedAccess]
    risk := ⟨none, Rescaling.preset 1 0, Rescaling.preset 7 0⟩
    remainingRisk := ⟨none, Rescaling.preset 1 0, Rescaling.preset 3 0⟩
    actions := [⟨"a1", "Locks", "", none, .completed, none⟩] }]

/-- When the card was published. -/
def opening : Options := ⟨some ⟨⟨2024, 5, 1, by decide⟩, 12, 0, 0, 0, by decide⟩⟩

/-- The stamp is a change but needs no new approval. -/
theorem toVersion_isExact_warehouse : ∃ reached status,
    toVersion (.v4_0 warehouse) .v4_2 opening = .ok (reached, status) ∧ status.changes = true ∧
      status.requiresNewApproval = false ∧ status.stamping.isSome = true := by
  have numeric : (Document.v4_0 warehouse).IsNumeric := by decide +kernel
  obtain ⟨reached, status, migrated, exact⟩ :=
    toVersion_isExact opening numeric rfl (by decide : Version.v4_2.IsSupported) (by decide)
  have approval : status.requiresNewApproval = false := by
    rw [Bool.eq_false_iff, ne_eq, exact.requiresNewApproval]
    decide +kernel
  have before : toVersion (.v4_0 warehouse) .v4_1 opening = _ :=
    toVersion_run (.step (.rescaling warehouse) (.stay _)) rfl rfl
  have stamping : status.stamping.isSome = true :=
    exact.stamping.mpr ⟨by decide, _, _, before, none, by decide +kernel, by decide⟩
  have changes : status.changes = true := by
    rw [← Bool.not_eq_false, ← exact.isEmpty_changes]
    intro empty
    simp only [Status.isEmpty, Bool.and_eq_true, Option.isNone_iff_eq_none] at empty
    simp [empty.2] at stamping
  exact ⟨reached, status, migrated, changes, approval, stamping⟩

end Migration
end Scorecard

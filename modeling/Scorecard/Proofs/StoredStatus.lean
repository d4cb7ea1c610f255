import Scorecard.Proofs.AcceptedDocuments
import Scorecard.Proofs.VersionText

/-!
# Reading back a stored status

The status of a run is stored with whatever it has and without what it has not: no span if no step was applied, no empty
list of steps, no log that was not kept. Read back it is the same status, as long as the tree has a place for
its numbers (`reader_toValue_iff`).
-/

namespace Scorecard.Migration

/-! ## The numbers of a status -/

/-- Both numbers are finite. -/
def Rescaled.IsFinite (r : Rescaled) : Prop := r.oldValue.isFinite = true ∧ r.newValue.isFinite = true

/-- The numbers of a scenario that changed, in order. -/
def RescaledScenario.numbers (s : RescaledScenario) : List Rescaled :=
  s.probability.toList ++ s.consequence.toList ++ s.remainingProbability.toList ++ s.remainingConsequence.toList

theorem RescaledScenario.forall_mem_numbers (s : RescaledScenario) {holds : Rescaled → Prop} :
    (∀ r ∈ s.numbers, holds r) ↔ (∀ r ∈ s.probability, holds r) ∧ (∀ r ∈ s.consequence, holds r) ∧
      (∀ r ∈ s.remainingProbability, holds r) ∧ ∀ r ∈ s.remainingConsequence, holds r := by
  simp [numbers, or_imp, forall_and]

/-- All numbers of a log are finite. -/
def RescalingLog.IsFinite (l : RescalingLog) : Prop := ∀ s ∈ l.scenarios, ∀ r ∈ s.numbers, r.IsFinite

/-- All numbers of a status are finite. Only one of its logs has numbers. -/
def Status.IsFinite (s : Status) : Prop := ∀ l ∈ s.rescaling, l.IsFinite

instance (s : Status) : Decidable s.IsFinite :=
  inferInstanceAs (Decidable (∀ l ∈ s.rescaling, ∀ s ∈ l.scenarios, ∀ r ∈ s.numbers,
    r.oldValue.isFinite = true ∧ r.newValue.isFinite = true))

/-! ## What is written is read -/

theorem boolean_ok (b : Bool) : Reader.boolean (Value.bool b).ordered = .ok b := rfl

theorem version_ok (v : Version) : Reader.version (Value.ofVersion v).ordered = .ok v := by
  simp only [Value.ofVersion, Value.ordered, Reader.version, Version.parse?_toText]

theorem Span.reads (s : Span) : Span.reader s.toValue.ordered = .ok s := by
  obtain ⟨source, target⟩ := s
  refine Part.record_ok ?_
  refine Part.seq_ok ?_ (Part.field_ok (by simp) (version_ok _))
  exact Part.map_ok (Part.field_ok (by simp) (version_ok _))

theorem Remap.reads (r : Remap) : Remap.reader r.toValue.ordered = .ok r := by
  obtain ⟨oldValue, newValue⟩ := r
  refine Part.record_ok ?_
  refine Part.seq_ok ?_ (Part.field_ok (by simp) (Reader.member_ok _))
  exact Part.map_ok (Part.field_ok (by simp) (Reader.member_ok _))

theorem StrippedAction.reads (a : StrippedAction) : StrippedAction.reader a.toValue.ordered = .ok a := by
  obtain ⟨id, title, removedOwner, removedDeadline⟩ := a
  refine Part.record_ok ?_
  refine Part.seq_ok ?_ (Part.optional_text_ok (by simp))
  refine Part.seq_ok ?_ (Part.optional_text_ok (by simp))
  refine Part.seq_ok ?_ (Part.field_ok (by simp) (Reader.text_ok _))
  exact Part.map_ok (Part.field_ok (by simp) (Reader.text_ok _))

theorem ReshapedScenario.reads (s : ReshapedScenario) : ReshapedScenario.reader s.toValue.ordered = .ok s := by
  obtain ⟨id, title, removedExistingActions, changedVulnerabilities, changedActions⟩ := s
  refine Part.record_ok ?_
  refine Part.seq_ok ?_ (Part.items_ok (by simp) fun a _ => a.reads)
  refine Part.seq_ok ?_ (Part.items_ok (by simp) fun r _ => r.reads)
  refine Part.seq_ok ?_ (Part.optional_text_ok (by simp))
  refine Part.seq_ok ?_ (Part.field_ok (by simp) (Reader.text_ok _))
  exact Part.map_ok (Part.field_ok (by simp) (Reader.text_ok _))

theorem GenerationLog.reads (l : GenerationLog) : GenerationLog.reader l.toValue.ordered = .ok l := by
  obtain ⟨scenarios⟩ := l
  refine Part.record_ok ?_
  exact Part.map_ok (Part.field_ok (by simp) (Reader.list_ok fun s _ => s.reads))

theorem Rescaled.reads {r : Rescaled} (finite : r.IsFinite) : Rescaled.reader r.toValue.ordered = .ok r := by
  obtain ⟨oldValue, newValue⟩ := r
  refine Part.record_ok ?_
  refine Part.seq_ok ?_ (Part.field_ok (by simp) (Reader.double_ok finite.2))
  exact Part.map_ok (Part.field_ok (by simp) (Reader.double_ok finite.1))

theorem RescaledScenario.reads {s : RescaledScenario} (finite : ∀ r ∈ s.numbers, r.IsFinite) :
    RescaledScenario.reader s.toValue.ordered = .ok s := by
  obtain ⟨probability, consequence, remainingProbability, remainingConsequence⟩ := s.forall_mem_numbers.mp finite
  cases s
  have object (r : Rescaled) : r.toValue.ordered ≠ .null := Value.ordered_object_ne_null _
  refine Part.record_ok ?_
  refine Part.seq_ok ?_ (Part.optional_ok (by simp) (fun r here => Rescaled.reads (remainingConsequence r here)) object)
  refine Part.seq_ok ?_ (Part.optional_ok (by simp) (fun r here => Rescaled.reads (remainingProbability r here)) object)
  refine Part.seq_ok ?_ (Part.optional_ok (by simp) (fun r here => Rescaled.reads (consequence r here)) object)
  refine Part.seq_ok ?_ (Part.optional_ok (by simp) (fun r here => Rescaled.reads (probability r here)) object)
  refine Part.seq_ok ?_ (Part.field_ok (by simp) (Reader.text_ok _))
  exact Part.map_ok (Part.field_ok (by simp) (Reader.text_ok _))

theorem RescalingLog.reads {l : RescalingLog} (finite : l.IsFinite) : RescalingLog.reader l.toValue.ordered = .ok l := by
  obtain ⟨scenarios⟩ := l
  refine Part.record_ok ?_
  exact Part.map_ok (Part.field_ok (by simp) (Reader.list_ok fun s here => RescaledScenario.reads (finite s here)))

theorem StampedAction.reads (a : StampedAction) : StampedAction.reader a.toValue.ordered = .ok a := by
  obtain ⟨id, title, lastUpdated⟩ := a
  have stamp (t : Timestamp) : (Value.ofTimestamp t).ordered ≠ .null := by simp [Value.ofTimestamp, Value.ordered]
  refine Part.record_ok ?_
  refine Part.seq_ok ?_ (Part.optional_ok (by simp) (fun t _ => Reader.timestamp_ok t) stamp)
  refine Part.seq_ok ?_ (Part.field_ok (by simp) (Reader.text_ok _))
  exact Part.map_ok (Part.field_ok (by simp) (Reader.text_ok _))

theorem StampedScenario.reads (s : StampedScenario) : StampedScenario.reader s.toValue.ordered = .ok s := by
  obtain ⟨id, title, changedActions⟩ := s
  refine Part.record_ok ?_
  refine Part.seq_ok ?_ (Part.field_ok (by simp) (Reader.list_ok fun a _ => a.reads))
  refine Part.seq_ok ?_ (Part.field_ok (by simp) (Reader.text_ok _))
  exact Part.map_ok (Part.field_ok (by simp) (Reader.text_ok _))

theorem StampingLog.reads (l : StampingLog) : StampingLog.reader l.toValue.ordered = .ok l := by
  obtain ⟨scenarios⟩ := l
  refine Part.record_ok ?_
  exact Part.map_ok (Part.field_ok (by simp) (Reader.list_ok fun s _ => s.reads))

theorem Status.reads {s : Status} (finite : s.IsFinite) : Status.reader s.toValue.ordered = .ok s := by
  obtain ⟨changes, requiresNewApproval, span, appliedSteps, generation, rescaling, stamping⟩ := s
  have spanned (s : Span) : s.toValue.ordered ≠ .null := Value.ordered_object_ne_null _
  have reshaped (l : GenerationLog) : l.toValue.ordered ≠ .null := Value.ordered_object_ne_null _
  have rescaled (l : RescalingLog) : l.toValue.ordered ≠ .null := Value.ordered_object_ne_null _
  have stamped (l : StampingLog) : l.toValue.ordered ≠ .null := Value.ordered_object_ne_null _
  refine Part.record_ok ?_
  -- The fields are taken off from behind: the three logs, the steps, the span and the two flags.
  refine Part.seq_ok ?_ (Part.optional_ok (by simp) (fun l _ => l.reads) stamped)
  refine Part.seq_ok ?_ (Part.optional_ok (by simp) (fun l here => RescalingLog.reads (finite l here)) rescaled)
  refine Part.seq_ok ?_ (Part.optional_ok (by simp) (fun l _ => l.reads) reshaped)
  refine Part.seq_ok ?_ (Part.items_ok (by simp) fun s _ => s.reads)
  refine Part.seq_ok ?_ (Part.optional_ok (by simp) (fun s _ => s.reads) spanned)
  refine Part.seq_ok ?_ (Part.field_ok (by simp) (boolean_ok _))
  exact Part.map_ok (Part.field_ok (by simp) (boolean_ok _))

/-! ## What is read has finite numbers -/

theorem Rescaled.reader_gives : Rescaled.reader.Gives Rescaled.IsFinite := by
  refine Part.record_gives ?_
  refine Part.seq_gives ?_ (Part.required_gives Reader.double_gives)
  exact Part.map_gives (Part.required_gives Reader.double_gives) fun _ old _ new => ⟨old, new⟩

theorem RescaledScenario.reader_gives : RescaledScenario.reader.Gives fun s => ∀ r ∈ s.numbers, r.IsFinite := by
  have number (place : Nat) (name : String) :
      (Part.optional place name Rescaled.reader).Gives fun r => ∀ x ∈ r, x.IsFinite :=
    Part.optional_gives Rescaled.reader_gives
  refine Part.record_gives ?_
  refine Part.seq_gives ?_ (number 5 "changeRemainingConsequence")
  refine Part.seq_gives ?_ (number 4 "changeRemainingProbability")
  refine Part.seq_gives ?_ (number 3 "changeConsequence")
  refine Part.seq_gives ?_ (number 2 "changeProbability")
  refine Part.seq_gives_any (Part.map_gives_any ?_)
  intro id title probability first consequence second remainingProbability third remainingConsequence fourth
  exact (RescaledScenario.forall_mem_numbers _).mpr ⟨first, second, third, fourth⟩

theorem RescalingLog.reader_gives : RescalingLog.reader.Gives RescalingLog.IsFinite := by
  refine Part.record_gives ?_
  exact Part.map_gives (Part.required_gives (Reader.list_gives RescaledScenario.reader_gives)) fun _ each => each

theorem Status.reader_gives : Status.reader.Gives Status.IsFinite := by
  refine Part.record_gives ?_
  refine Part.seq_gives_any ?_
  refine Part.seq_gives ?_ (Part.optional_gives RescalingLog.reader_gives)
  refine Part.seq_gives_any (Part.seq_gives_any (Part.seq_gives_any (Part.seq_gives_any (Part.map_gives_any ?_))))
  exact fun _ _ _ _ _ _ finite _ => finite

/-! ## Statuses -/

/-- A stored status is read back as the same status exactly if its numbers are finite, whatever it has and whatever it
    leaves out; the readers take timestamps of any year. An infinity is stored as null, for which a reader has no
    number. -/
theorem reader_toValue_iff (s : Status) : Status.reader s.toValue.ordered = .ok s ↔ s.IsFinite :=
  ⟨Status.reader_gives _ s, Status.reads⟩

/-- A status with a span between two extreme versions, a step twice, scenarios of which little or nothing is logged, a
    negative zero among its numbers, a stamp in a leap second and one that is absent. -/
def crowded : Status where
  changes := true
  requiresNewApproval := false
  span := some ⟨⟨4294967295, 0⟩, ⟨0, 4294967295⟩⟩
  appliedSteps := [⟨.v3_2, .v3_3⟩, ⟨.v3_2, .v3_3⟩]
  generation := some ⟨[⟨"s1", "Breach", some "", [⟨.disclosedSecret, .unauthorizedAccess⟩], []⟩,
    ⟨"s2", "Outage", none, [], [⟨"a1", "Scale out", none, some "2024-06-01"⟩]⟩, ⟨"", "", none, [], []⟩]⟩
  rescaling := some ⟨[⟨"s1", "Breach", some ⟨.ofWord true 0, Rescaling.preset 5 (-2)⟩, none, none,
    some ⟨Rescaling.preset 30000 0, .ofWord false 1⟩⟩]⟩
  stamping := some ⟨[⟨"s1", "Breach", [⟨"a1", "Patch", some ⟨⟨2015, 6, 30, by decide⟩, 23, 59, 60, 500000000,
    by decide⟩⟩, ⟨"a2", "Test", none⟩]⟩, ⟨"s2", "Outage", []⟩]⟩

/-- A status whose logs have no scenarios. -/
def hollow : Status := { Status.initial with generation := some ⟨[]⟩, rescaling := some ⟨[]⟩, stamping := some ⟨[]⟩ }

/-- A status that holds an infinity. -/
def overflowing : Status :=
  { Status.initial with rescaling := some ⟨[⟨"s1", "Breach", some ⟨.infinity, .ofWord false 0⟩, none, none, none⟩]⟩ }

theorem reader_toValue_iff_crowded :
    Status.reader crowded.toValue.ordered = .ok crowded ∧ Status.reader hollow.toValue.ordered = .ok hollow ∧
      Status.reader overflowing.toValue.ordered ≠ .ok overflowing := by
  have numbers : crowded.IsFinite ∧ hollow.IsFinite ∧ ¬ overflowing.IsFinite := by decide +kernel
  refine ⟨(reader_toValue_iff crowded).mpr numbers.1, (reader_toValue_iff hollow).mpr numbers.2.1, ?_⟩
  exact fun read => numbers.2.2 ((reader_toValue_iff overflowing).mp read)

end Scorecard.Migration

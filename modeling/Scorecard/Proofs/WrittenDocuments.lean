import Scorecard.Document
import Scorecard.Proofs.WrittenRecords

/-!
# Reading written documents

A written document carries its version, which picks the reader of the right generation, and the record reads
back field by field. A tree of no supported version is kept as it is. So a document is read back from what
it is written as (`ofValue_toValue`), but for numbers that a tree has no place for.
-/

namespace Scorecard.Document

/-- All numbers of a document are finite. -/
def IsFinite (d : Document) : Prop := ∀ r ∈ d.risks, r.IsFinite

instance (d : Document) : Decidable d.IsFinite := inferInstanceAs (Decidable (∀ r ∈ d.risks, r.IsFinite))

/-! ## The version -/

section Version

variable {version : Version} {entries : List (String × Value)}

theorem get?_withVersion : (withVersion version entries).get? versionField = some (.text version.toText) := by
  rw [withVersion, Value.ordered_object]
  simp [Value.get?, Value.ofVersion, Value.ordered]

theorem supportedVersion?_toText (supported : version.IsSupported) :
    supportedVersion? version.toText = some version := by
  have each : ∀ version ∈ Version.supported, supportedVersion? version.toText = some version := by decide +kernel
  exact each version supported

/-- A written version is found again. -/
theorem ofValue_withVersion (supported : version.IsSupported) :
    ofValue (withVersion version entries) = ofVersion version (withVersion version entries) := by
  have named : versionText? (withVersion version entries) = some version.toText := by
    rw [versionText?, get?_withVersion]
  have object : (withVersion version entries).isObject = true := rfl
  rw [ofValue, if_pos object, named, Option.bind_some, supportedVersion?_toText supported]

end Version

/-! ## The record -/

theorem ofVersion_third {version : Version} {v : Value} {c : Third.Card} (family : version.family? = some .third)
    (read : Third.Card.reader v = .ok c) : ofVersion version v = .ok (ofThird version c) := by
  unfold ofVersion
  rw [family]
  dsimp only
  rw [read]
  rfl

theorem ofVersion_fourth {version : Version} {v : Value} {c : Fourth.Card} (family : version.family? = some .fourth)
    (read : Fourth.Card.reader v = .ok c) : ofVersion version v = .ok (ofFourth version c) := by
  unfold ofVersion
  rw [family]
  dsimp only
  rw [read]
  rfl

theorem ofVersion_toValue {d : Document} {version : Version} (known : d.version? = some version) (finite : d.IsFinite) :
    ofVersion version d.toValue = .ok d := by
  cases d with
  | v3_2 c | v3_3 c =>
    cases known
    exact ofVersion_third rfl (Third.Card.reads (fun _ => Third.of_risks finite) _)
  | v4_0 c | v4_1 c | v4_2 c =>
    cases known
    exact ofVersion_fourth rfl (Fourth.Card.reads (fun _ => Fourth.of_risks finite) _)
  | unknown => cases known

theorem ofThird_ne_unknown (version : Version) (c : Third.Card) (label : Option String) (payload : Value) :
    ofThird version c ≠ unknown label payload := by
  unfold ofThird
  split <;> nofun

theorem ofFourth_ne_unknown (version : Version) (c : Fourth.Card) (label : Option String) (payload : Value) :
    ofFourth version c ≠ unknown label payload := by
  unfold ofFourth
  repeat' split
  all_goals nofun

/-- A tree that is read under a version does not come out as unknown. -/
theorem ofVersion_ne_unknown (version : Version) (v : Value) (label : Option String) (payload : Value) :
    ofVersion version v ≠ .ok (unknown label payload) := by
  intro read
  unfold ofVersion at read
  split at read
  · cases run : Third.Card.reader v with
    | error => rw [run] at read; cases read
    | ok c =>
      rw [run] at read
      exact ofThird_ne_unknown version c label payload (Except.ok.inj read)
  · cases run : Fourth.Card.reader v with
    | error => rw [run] at read; cases read
    | ok c =>
      rw [run] at read
      exact ofFourth_ne_unknown version c label payload (Except.ok.inj read)
  · cases read

/-- A tree that comes out as unknown is kept as it is. -/
theorem payload_of_ofValue {v payload : Value} {label : Option String}
    (read : ofValue v = .ok (unknown label payload)) : payload = v := by
  unfold ofValue at read
  split at read
  · split at read
    · exact absurd read (ofVersion_ne_unknown _ v label payload)
    · cases read
      rfl
  · cases read

/-! ## Documents -/

/-- A document is read back from what it is written as. One with a version is written as an object with that
    version; one without is written as the tree that it was read from. -/
theorem ofValue_toValue :
    (∀ d version, d.version? = some version → d.IsFinite → d.toValue.isObject = true ∧
      d.toValue.get? versionField = some (.text version.toText) ∧ ofValue d.toValue = .ok d) ∧
    (∀ v label payload, ofValue v = .ok (unknown label payload) → (unknown label payload).toValue = payload ∧
      payload = v ∧ ofValue (unknown label payload).toValue = .ok (unknown label payload)) := by
  constructor
  · intro d version known finite
    have supported := Migration.version_supported known
    have written : ∃ entries, d.toValue = withVersion version entries := by
      cases d <;> cases known <;> exact ⟨_, rfl⟩
    have record := ofVersion_toValue known finite
    obtain ⟨entries, equal⟩ := written
    rw [equal] at record ⊢
    exact ⟨rfl, get?_withVersion, (ofValue_withVersion supported).trans record⟩
  · intro v label payload read
    obtain rfl := payload_of_ofValue read
    exact ⟨rfl, rfl, read⟩

/-- A card with fields that are left out, a stamp within a leap second and a fraction among its numbers. -/
def patched : Fourth.Card where
  title := "Payments"
  scope := none
  valuations := [⟨"Card data", "HIGH", "HIGH", "LOW"⟩]
  scenarios := [{
    id := "s1"
    title := "Breach"
    description := ""
    url := none
    threatActors := [.organisedCrime, .insider]
    vulnerabilities := [.unauthorizedAccess]
    risk := ⟨some "Likely", Rescaling.preset 5 (-2), Rescaling.preset 8000 0⟩
    remainingRisk := ⟨none, Rescaling.preset 25 (-4), Rescaling.preset 12345 (-1)⟩
    actions := [⟨"a1", "Patch", "Within a \"week\"", some "https://example.org/a1", .completed,
      some ⟨⟨2016, 12, 31, by decide⟩, 23, 59, 60, 250000000, by decide⟩⟩] }]

/-- A tree of a version to come. -/
def upcoming : Value := .object [("schemaVersion", .text "5.0"), ("title", .text "Payments")]

/-- The card as 4.2, and the tree that no reader knows. -/
theorem ofValue_toValue_patched :
    (v4_2 patched).toValue.get? "schemaVersion" = some (.text "4.2") ∧
      ofValue (v4_2 patched).toValue = .ok (v4_2 patched) ∧ (unknown (some "5.0") upcoming).toValue = upcoming ∧
      ofValue (unknown (some "5.0") upcoming).toValue = .ok (unknown (some "5.0") upcoming) := by
  have finite : (v4_2 patched).IsFinite := by decide +kernel
  have unread : ofValue upcoming = .ok (unknown (some "5.0") upcoming) := by rfl
  obtain ⟨-, version, read⟩ := ofValue_toValue.1 (v4_2 patched) .v4_2 rfl finite
  obtain ⟨kept, -, again⟩ := ofValue_toValue.2 upcoming (some "5.0") upcoming unread
  exact ⟨version, read, kept, again⟩

end Scorecard.Document

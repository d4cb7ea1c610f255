import Scorecard.Proofs.AcceptedDocuments

/-!
# What a tree is read as

The version field alone decides which way a tree takes: without a supported version the tree is kept as it is, and
with one it either has the shape of the version's generation or is malformed (`ofValue_classified`). The
ways are listed version by version (`ReadsAs`), apart from the choices that the reader makes on its way.
-/

namespace Scorecard.Document

/-! ## The version -/

/-- What the version field of a tree says: a text says itself, a number says how it is written, and anything else
    says nothing. -/
inductive Says (v : Value) : Option String → Prop where
  | text {s : String} : v.get? versionField = some (.text s) → Says v (some s)
  | number {n : Number} : v.get? versionField = some (.number n) → Says v (some n.toText)
  | absent : v.get? versionField = none → Says v none
  | other {field : Value} : v.get? versionField = some field → (∀ s, field ≠ .text s) → (∀ n, field ≠ .number n) →
    Says v none

/-- The text, without the blanks around it, is a way to write one of the supported versions. -/
def Denotes (raw : Option String) (version : Version) : Prop :=
  ∃ s, raw = some s ∧ Version.parse? (trimmed s) = some version ∧ version ∈ Version.supported

theorem says_iff (v : Value) (raw : Option String) : Says v raw ↔ versionText? v = raw := by
  constructor
  · intro said
    unfold versionText?
    cases said with
    | text found => rw [found]
    | number found => rw [found]
    | absent found => rw [found]
    | @other field found noText noNumber =>
      rw [found]
      cases field with
      | text s => exact absurd rfl (noText s)
      | number n => exact absurd rfl (noNumber n)
      | _ => rfl
  · rintro rfl
    unfold versionText?
    split
    · next found => exact .text found
    · next found => exact .number found
    · next noText noNumber =>
      cases found : v.get? versionField with
      | none => exact .absent found
      | some field =>
        rw [found] at noText noNumber
        exact .other found (fun s same => noText s (congrArg some same)) fun n same => noNumber n (congrArg some same)

theorem denotes_iff (raw : Option String) (version : Version) :
    Denotes raw version ↔ raw.bind supportedVersion? = some version := by
  simp only [Denotes, supportedVersion?, Option.bind_eq_some_iff, Option.filter_eq_some_iff, decide_eq_true_eq]
  rfl

theorem Denotes.supported {raw : Option String} {version : Version} (denotes : Denotes raw version) :
    version ∈ Version.supported := by
  obtain ⟨-, -, -, supported⟩ := denotes
  exact supported

/-! ## The record -/

/-- The document that a tree is read as under a version: a card of the version's generation, kept as a document of
    that version. -/
inductive ReadsAs (v : Value) : Version → Document → Prop where
  | v3_2 {c : Third.Card} : Third.Card.reader v = .ok c → ReadsAs v .v3_2 (.v3_2 c)
  | v3_3 {c : Third.Card} : Third.Card.reader v = .ok c → ReadsAs v .v3_3 (.v3_3 c)
  | v4_0 {c : Fourth.Card} : Fourth.Card.reader v = .ok c → ReadsAs v .v4_0 (.v4_0 c)
  | v4_1 {c : Fourth.Card} : Fourth.Card.reader v = .ok c → ReadsAs v .v4_1 (.v4_1 c)
  | v4_2 {c : Fourth.Card} : Fourth.Card.reader v = .ok c → ReadsAs v .v4_2 (.v4_2 c)

/-- Why a tree does not have the shape of a version's generation. -/
inductive Misfits (v : Value) : Version → Mismatch → Prop where
  | third {version : Version} {cause : Mismatch} : version = .v3_2 ∨ version = .v3_3 →
    Third.Card.reader v = .error cause → Misfits v version cause
  | fourth {version : Version} {cause : Mismatch} : version = .v4_0 ∨ version = .v4_1 ∨ version = .v4_2 →
    Fourth.Card.reader v = .error cause → Misfits v version cause

section Record

variable {v : Value} {version : Version}

theorem ReadsAs.known {d : Document} (reads : ReadsAs v version d) : d.version? = some version := by
  cases reads <;> rfl

theorem ReadsAs.ofVersion {d : Document} (reads : ReadsAs v version d) : ofVersion version v = .ok d := by
  cases reads with
  | v3_2 read | v3_3 read => exact ofVersion_third rfl read
  | v4_0 read | v4_1 read | v4_2 read => exact ofVersion_fourth rfl read

theorem Misfits.ofVersion {cause : Mismatch} (misfits : Misfits v version cause) :
    ofVersion version v = .error (.malformed version cause) := by
  unfold Document.ofVersion
  cases misfits with
  | third generation refused =>
    rcases generation with rfl | rfl <;> exact congrArg (fun read => (Except.mapError _ read).map _) refused
  | fourth generation refused =>
    rcases generation with rfl | rfl | rfl <;> exact congrArg (fun read => (Except.mapError _ read).map _) refused

/-- Under a supported version a tree fits or has a reason not to. -/
theorem reads_or_misfits (v : Value) (supported : version ∈ Version.supported) :
    (∃ d, ReadsAs v version d) ∨ ∃ cause, Misfits v version cause := by
  have generations : (version = .v3_2 ∨ version = .v3_3) ∨ version = .v4_0 ∨ version = .v4_1 ∨ version = .v4_2 := by
    simpa [Version.supported, or_assoc] using supported
  rcases generations with third | fourth
  · cases read : Third.Card.reader v with
    | error cause => exact .inr ⟨cause, .third third read⟩
    | ok c =>
      rcases third with rfl | rfl
      · exact .inl ⟨_, .v3_2 read⟩
      · exact .inl ⟨_, .v3_3 read⟩
  · cases read : Fourth.Card.reader v with
    | error cause => exact .inr ⟨cause, .fourth fourth read⟩
    | ok c =>
      rcases fourth with rfl | rfl | rfl
      · exact .inl ⟨_, .v4_0 read⟩
      · exact .inl ⟨_, .v4_1 read⟩
      · exact .inl ⟨_, .v4_2 read⟩

theorem ofVersion_eq_ok_iff (supported : version ∈ Version.supported) (d : Document) :
    ofVersion version v = .ok d ↔ ReadsAs v version d := by
  constructor
  · intro read
    rcases reads_or_misfits v supported with ⟨d', reads⟩ | ⟨cause, misfits⟩
    · cases reads.ofVersion.symm.trans read
      exact reads
    · cases misfits.ofVersion.symm.trans read
  · exact ReadsAs.ofVersion

theorem ofVersion_eq_error_iff (supported : version ∈ Version.supported) (e : LoadError) :
    ofVersion version v = .error e ↔ ∃ cause, Misfits v version cause ∧ e = .malformed version cause := by
  constructor
  · intro refused
    rcases reads_or_misfits v supported with ⟨d, reads⟩ | ⟨cause, misfits⟩
    · cases reads.ofVersion.symm.trans refused
    · cases misfits.ofVersion.symm.trans refused
      exact ⟨cause, misfits, rfl⟩
  · rintro ⟨cause, misfits, rfl⟩
    exact misfits.ofVersion

/-- A tree is malformed exactly if no document is read. -/
theorem ofVersion_malformed_iff (supported : version ∈ Version.supported) :
    (∃ cause, ofVersion version v = .error (.malformed version cause)) ↔ ¬ ∃ d, ReadsAs v version d := by
  constructor
  · rintro ⟨cause, refused⟩ ⟨d, reads⟩
    cases reads.ofVersion.symm.trans refused
  · intro unread
    obtain ⟨cause, misfits⟩ := (reads_or_misfits v supported).resolve_left unread
    exact ⟨cause, misfits.ofVersion⟩

end Record

/-! ## Trees -/

section Routes

variable {v : Value} {raw : Option String}

theorem ofValue_notAnObject (other : v.isObject = false) : ofValue v = .error .notAnObject := by
  rw [ofValue, if_neg (by simp [other])]

theorem ofValue_unknown (object : v.isObject = true) (said : Says v raw) (none : ∀ version, ¬ Denotes raw version) :
    ofValue v = .ok (unknown raw v) := by
  obtain rfl := (says_iff v raw).mp said
  have unsupported : (versionText? v).bind supportedVersion? = .none :=
    Option.eq_none_iff_forall_ne_some.mpr fun version found => none version ((denotes_iff _ version).mpr found)
  rw [ofValue, if_pos object, unsupported]

theorem ofValue_known {version : Version} (object : v.isObject = true) (said : Says v raw)
    (denotes : Denotes raw version) : ofValue v = ofVersion version v := by
  obtain rfl := (says_iff v raw).mp said
  rw [ofValue, if_pos object, (denotes_iff _ version).mp denotes]

/-- There are two reasons for which a tree is refused. -/
theorem refusal_of_ofValue {e : LoadError} (refused : ofValue v = .error e) :
    (v.isObject = false ∧ e = .notAnObject) ∨ ∃ version cause, e = .malformed version cause := by
  cases object : v.isObject with
  | false =>
    cases (ofValue_notAnObject object).symm.trans refused
    exact .inl ⟨rfl, rfl⟩
  | true =>
    have said := (says_iff v _).mpr rfl
    by_cases known : ∃ version, Denotes (versionText? v) version
    · obtain ⟨version, denotes⟩ := known
      have supported := denotes.supported
      rw [ofValue_known object said denotes, ofVersion_eq_error_iff supported] at refused
      obtain ⟨cause, -, rfl⟩ := refused
      exact .inr ⟨version, cause, rfl⟩
    · have none := not_exists.mp known
      cases (ofValue_unknown object said none).symm.trans refused

end Routes

/-- The complete table of what a tree is read as. What is no object is refused. An object says one thing in its version
    field: if that is no way to write a supported version, the object is kept as it is, and if it is, the object is a
    document of that version or malformed, according to the shape of the version's generation. -/
theorem ofValue_classified (v : Value) :
    (ofValue v = .error .notAnObject ↔ v.isObject = false) ∧
    (∀ text, ofValue v ≠ .error (.invalidVersion text)) ∧
    ∃ raw, (∀ text, Says v text ↔ text = raw) ∧
      (v.isObject = true →
        (ofValue v = .ok (unknown raw v) ↔ ∀ version, ¬ Denotes raw version) ∧
        ∀ version, Denotes raw version →
          (∀ d, ofValue v = .ok d ↔ d.version? = some version ∧ ReadsAs v version d) ∧
          (∀ e, ofValue v = .error e ↔ ∃ cause, Misfits v version cause ∧ e = .malformed version cause ∧
            e.message = "malformed " ++ (toString version.major.toNat ++ "." ++ toString version.minor.toNat) ++
              " document: " ++ cause.message) ∧
          ((∃ cause, ofValue v = .error (.malformed version cause)) ↔ ¬ ∃ d, ReadsAs v version d)) := by
  refine ⟨⟨?_, ofValue_notAnObject⟩, ?_, versionText? v, fun text => (says_iff v text).trans eq_comm, ?_⟩
  · intro refused
    rcases refusal_of_ofValue refused with ⟨other, -⟩ | ⟨version, cause, malformed⟩
    · exact other
    · cases malformed
  · intro text refused
    rcases refusal_of_ofValue refused with ⟨-, other⟩ | ⟨version, cause, malformed⟩
    · cases other
    · cases malformed
  · intro object
    have said := (says_iff v _).mpr rfl
    refine ⟨⟨?_, ofValue_unknown object said⟩, ?_⟩
    · intro kept version denotes
      rw [ofValue_known object said denotes] at kept
      exact ofVersion_ne_unknown version v _ v kept
    · intro version denotes
      have supported := denotes.supported
      rw [ofValue_known object said denotes]
      refine ⟨fun d => ?_, fun e => ?_, ?_⟩
      · rw [ofVersion_eq_ok_iff supported]
        exact ⟨fun reads => ⟨reads.known, reads⟩, And.right⟩
      · rw [ofVersion_eq_error_iff supported]
        constructor
        · rintro ⟨cause, misfits, rfl⟩
          exact ⟨cause, misfits, rfl, rfl⟩
        · rintro ⟨cause, misfits, rfl, -⟩
          exact ⟨cause, misfits, rfl⟩
      · exact ofVersion_malformed_iff supported

/-- A card that consists of its version and a title. -/
def leaflet (version : Value) : Value := .object [("schemaVersion", version), ("title", .text "Payments")]

/-- The number 4.2. -/
def decimal : Number := .double (.nearest false 42 (-1)) (by decide +kernel)

/-- A list, a version to come, a padded version with a zero in front, a version as a number, and a card without
    a title. -/
theorem ofValue_classified_leaflets :
    ofValue (.list []) = .error .notAnObject ∧
      ofValue (leaflet (.text "4.3")) = .ok (unknown (some "4.3") (leaflet (.text "4.3"))) ∧
      ofValue (leaflet (.text " 03.3\n")) = .ok (.v3_3 ⟨"Payments", "", [], []⟩) ∧
      ofValue (leaflet (.number decimal)) = .ok (.v4_2 ⟨"Payments", none, [], []⟩) ∧
      ofValue (.object [("schemaVersion", .text "4.1")]) = .error (.malformed .v4_1 (.missing "title")) := by
  refine ⟨(ofValue_classified (.list [])).1.mpr rfl, ?_, ?_, ?_, ?_⟩
  · obtain ⟨-, -, raw, said, routes⟩ := ofValue_classified (leaflet (.text "4.3"))
    obtain rfl := (said (some "4.3")).mp (.text rfl)
    refine (routes rfl).1.mpr ?_
    rintro version ⟨s, same, parsed, supported⟩
    cases same
    have minor : Version.parse? (trimmed "4.3") = some ⟨4, 3⟩ := by decide +kernel
    cases minor.symm.trans parsed
    exact absurd supported (by decide)
  · obtain ⟨-, -, raw, said, routes⟩ := ofValue_classified (leaflet (.text " 03.3\n"))
    obtain rfl := (said (some " 03.3\n")).mp (.text rfl)
    have denotes : Denotes (some " 03.3\n") .v3_3 := ⟨_, rfl, by decide +kernel, by decide⟩
    exact (((routes rfl).2 _ denotes).1 _).mpr ⟨rfl, .v3_3 rfl⟩
  · obtain ⟨-, -, raw, said, routes⟩ := ofValue_classified (leaflet (.number decimal))
    obtain rfl := (said (some decimal.toText)).mp (.number rfl)
    have denotes : Denotes (some decimal.toText) .v4_2 := ⟨_, rfl, by decide +kernel, by decide⟩
    exact (((routes rfl).2 _ denotes).1 _).mpr ⟨rfl, .v4_2 rfl⟩
  · obtain ⟨-, -, raw, said, routes⟩ := ofValue_classified (.object [("schemaVersion", .text "4.1")])
    obtain rfl := (said (some "4.1")).mp (.text rfl)
    have denotes : Denotes (some "4.1") .v4_1 := ⟨_, rfl, by decide +kernel, by decide⟩
    exact (((routes rfl).2 _ denotes).2.1 _).mpr ⟨_, .fourth (.inr (.inl rfl)) rfl, rfl, rfl⟩

end Scorecard.Document

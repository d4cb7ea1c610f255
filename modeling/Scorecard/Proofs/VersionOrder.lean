import Scorecard.MigrationStatus

/-!
# The order of versions

Versions are ordered by their components, and the supported ones form a ladder of four steps. Between
the two ends of a step there is no supported version (`target_le_of_lt`), so the steps from one
supported version to a higher one are the consecutive pairs of the versions from the one to the
other (`legs_cons`).
-/

namespace Scorecard

namespace Version

theorem lt_iff_toNat (v w : Version) : v < w ↔
    v.major.toNat < w.major.toNat ∨ (v.major.toNat = w.major.toNat ∧ v.minor.toNat < w.minor.toNat) := by
  show v.major < w.major ∨ (v.major = w.major ∧ v.minor < w.minor) ↔ _
  rw [UInt32.lt_iff_toNat_lt, UInt32.lt_iff_toNat_lt, ← UInt32.toNat_inj]

theorem not_lt_iff_le (v w : Version) : ¬ v < w ↔ w ≤ v := Iff.rfl

theorem le_iff_lt_or_eq (v w : Version) : v ≤ w ↔ v < w ∨ v = w := by
  have equal : v = w ↔ v.major.toNat = w.major.toNat ∧ v.minor.toNat = w.minor.toNat := by
    rw [UInt32.toNat_inj, UInt32.toNat_inj]
    cases v; cases w; simp
  rw [← not_lt_iff_le, lt_iff_toNat, lt_iff_toNat, equal]
  omega

theorem lt_irrefl (v : Version) : ¬ v < v := by
  rw [lt_iff_toNat]; omega

theorem le_refl (v : Version) : v ≤ v := lt_irrefl v

theorem le_of_lt {v w : Version} (below : v < w) : v ≤ w := (le_iff_lt_or_eq v w).mpr (.inl below)

theorem ne_of_lt {v w : Version} (below : v < w) : v ≠ w :=
  fun equal => lt_irrefl w (equal ▸ below)

theorem lt_of_lt_of_le {u v w : Version} (first : u < v) (second : v ≤ w) : u < w := by
  rw [← not_lt_iff_le, lt_iff_toNat] at second
  rw [lt_iff_toNat] at first ⊢
  omega

theorem le_trans {u v w : Version} (first : u ≤ v) (second : v ≤ w) : u ≤ w := by
  rw [← not_lt_iff_le, lt_iff_toNat] at first second ⊢
  omega

end Version

namespace Migration

/-- The ends of the four steps, in ascending order. -/
def ladder : List Span :=
  [⟨.v3_2, .v3_3⟩, ⟨.v3_3, .v4_0⟩, ⟨.v4_0, .v4_1⟩, ⟨.v4_1, .v4_2⟩]

/-- The supported versions from one to another, both included, in ascending order. -/
def stations (source target : Version) : List Version :=
  Version.supported.filter fun v => decide (source ≤ v) && decide (v ≤ target)

/-- The consecutive pairs of the supported versions from one to another. -/
def legs (source target : Version) : List Span :=
  (stations source target).zipWith Span.mk (stations source target).tail

theorem source_lt_target {leg : Span} (listed : leg ∈ ladder) : leg.source < leg.target := by
  have table : ∀ leg ∈ ladder, leg.source < leg.target := by decide
  exact table leg listed

/-- No supported version lies between the two ends of a step. -/
theorem target_le_of_lt {leg : Span} {target : Version} (listed : leg ∈ ladder)
    (supported : target.IsSupported) (above : leg.source < target) : leg.target ≤ target := by
  have table : ∀ leg ∈ ladder, ∀ target ∈ Version.supported, leg.source < target → leg.target ≤ target := by
    decide
  exact table leg listed target supported above

theorem legs_self {version : Version} (supported : version.IsSupported) : legs version version = [] := by
  have table : ∀ version ∈ Version.supported, legs version version = [] := by decide
  exact table version supported

/-- The way up from the lower end of a step begins with that step. -/
theorem legs_cons {leg : Span} {target : Version} (listed : leg ∈ ladder)
    (supported : target.IsSupported) (above : leg.source < target) :
    legs leg.source target = leg :: legs leg.target target := by
  have table : ∀ leg ∈ ladder, ∀ target ∈ Version.supported, leg.source < target →
      legs leg.source target = leg :: legs leg.target target := by
    decide
  exact table leg listed target supported above

end Migration
end Scorecard

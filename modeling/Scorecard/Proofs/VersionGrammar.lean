import Scorecard.Proofs.VersionText

/-!
# The grammar of versions

A text denotes a version exactly if it consists of two components with a dot between them, each a run of ASCII digits
with a value of at most 32 bits (`Version.parse?_eq_some_iff`). The value of a run decides, not its length, so zeros in
front are without meaning: a version is written as its texts are without them (`Version.toText_of_writes`), and two
texts denote one version exactly if they agree without them.
-/

namespace Scorecard

/-! ## Runs of digits without superfluous zeros -/

theorem digit_lt_ten {c : Char} (digit : c.isDigit = true) : c.toNat - '0'.toNat < 10 := by
  have high : c.toNat ≤ '0'.toNat + 9 := (Char.isDigit_iff_toNat.mp digit).2
  omega

theorem toDigits_digit {c : Char} (digit : c.isDigit = true) : Nat.toDigits 10 (c.toNat - '0'.toNat) = [c] := by
  have low : '0'.toNat ≤ c.toNat := (Char.isDigit_iff_toNat.mp digit).1
  have code : (Nat.digitChar (c.toNat - '0'.toNat)).toNat = '0'.toNat + (c.toNat - '0'.toNat) :=
    Nat.toNat_digitChar_of_lt_ten (digit_lt_ten digit)
  have same : Nat.digitChar (c.toNat - '0'.toNat) = c := Char.toNat_inj.mp (by omega)
  rw [Nat.toDigits_of_lt_base (digit_lt_ten digit), same]

/-- Digits behind a positive number come back behind its decimal. -/
theorem toDigits_ofDigitChars_append {ds : List Char} (digits : ∀ c ∈ ds, c.isDigit = true) {n : Nat}
    (positive : 0 < n) : Nat.toDigits 10 (Nat.ofDigitChars 10 ds n) = Nat.toDigits 10 n ++ ds := by
  induction ds generalizing n with
  | nil => simp
  | cons c rest ih =>
    have digit := digits c List.mem_cons_self
    calc
      Nat.toDigits 10 (Nat.ofDigitChars 10 (c :: rest) n)
          = Nat.toDigits 10 (10 * n + (c.toNat - '0'.toNat)) ++ rest := by
        rw [Nat.ofDigitChars_cons, ih (fun d here => digits d (List.mem_cons_of_mem c here)) (by omega)]
      _ = Nat.toDigits 10 n ++ Nat.toDigits 10 (c.toNat - '0'.toNat) ++ rest := by
        rw [Nat.toDigits_append_toDigits (by decide) positive (digit_lt_ten digit)]
      _ = Nat.toDigits 10 n ++ c :: rest := by
        rw [toDigits_digit digit, List.append_assoc, List.singleton_append]

/-- The run without the zeros that have a character behind them. -/
def unpadded : List Char → List Char
  | '0' :: c :: rest => unpadded (c :: rest)
  | ds => ds

/-- The decimal of the value of a run is the run without superfluous zeros. -/
theorem toDigits_ofDigitChars {ds : List Char} (nonempty : ds ≠ []) (digits : ∀ c ∈ ds, c.isDigit = true) :
    Nat.toDigits 10 (Nat.ofDigitChars 10 ds 0) = unpadded ds := by
  fun_induction unpadded ds with
  | case1 c rest ih =>
    have zero : Nat.ofDigitChars 10 ('0' :: c :: rest) 0 = Nat.ofDigitChars 10 (c :: rest) 0 := Nat.ofDigitChars_cons
    rw [zero]
    exact ih (by simp) fun d here => digits d (List.mem_cons_of_mem _ here)
  | case2 ds leading =>
    obtain ⟨c, rest, rfl⟩ := List.exists_cons_of_ne_nil nonempty
    have digit := digits c List.mem_cons_self
    rw [Nat.ofDigitChars_cons, Nat.mul_zero, Nat.zero_add]
    -- What is left is a single digit or starts with a positive one.
    cases rest with
    | nil => rw [Nat.ofDigitChars_nil, toDigits_digit digit]
    | cons d more =>
      have nonzero : c.toNat ≠ '0'.toNat := fun zero => leading d more (by rw [Char.toNat_inj.mp zero])
      have low := (Char.isDigit_iff_toNat.mp digit).1
      rw [toDigits_ofDigitChars_append (fun x here => digits x (List.mem_cons_of_mem c here)) (by omega),
        toDigits_digit digit, List.singleton_append]

namespace Version

/-! ## Components -/

/-- A run of ASCII digits, not empty, whose value has at most 32 bits. -/
structure IsComponent (ds : List Char) : Prop where
  nonempty : ds ≠ []
  digits : ∀ c ∈ ds, '0' ≤ c ∧ c ≤ '9'
  fits : Nat.ofDigitChars 10 ds 0 ≤ 4294967295

theorem isDigit_iff (c : Char) : c.isDigit = true ↔ '0' ≤ c ∧ c ≤ '9' := by
  rw [Char.isDigit_iff_toNat]
  rfl

theorem IsComponent.isDigit {ds : List Char} (component : IsComponent ds) : ∀ c ∈ ds, c.isDigit = true :=
  fun c here => (isDigit_iff c).mpr (component.digits c here)

theorem IsComponent.undotted {ds : List Char} (component : IsComponent ds) : '.' ∉ ds :=
  fun here => absurd (component.isDigit '.' here) (by decide)

theorem component?_eq_some_iff (ds : List Char) (n : UInt32) :
    component? ds = some n ↔ IsComponent ds ∧ n.toNat = Nat.ofDigitChars 10 ds 0 := by
  have value : digitsValue ds = Nat.ofDigitChars 10 ds 0 := Nat.ofDigitChars_eq_foldl.symm
  unfold component?
  rw [value]
  constructor
  · intro read
    split at read
    · next accepted =>
      obtain ⟨nonempty, digits, fits⟩ := accepted
      cases read
      refine ⟨⟨nonempty, fun c here => (isDigit_iff c).mp (List.all_eq_true.mp digits c here), by omega⟩, ?_⟩
      exact UInt32.toNat_ofNat_of_lt' fits
    · cases read
  · rintro ⟨component, equal⟩
    have fits : Nat.ofDigitChars 10 ds 0 < 4294967296 := Nat.lt_succ_of_le component.fits
    rw [if_pos ⟨component.nonempty, List.all_eq_true.mpr component.isDigit, fits⟩, ← equal, UInt32.ofNat_toNat]

theorem toDigits_component {ds : List Char} {n : UInt32} (component : IsComponent ds)
    (value : n.toNat = Nat.ofDigitChars 10 ds 0) : Nat.toDigits 10 n.toNat = unpadded ds := by
  rw [value, toDigits_ofDigitChars component.nonempty component.isDigit]

/-! ## Texts -/

/-- The text consists of two components with a dot between them. -/
def IsWritten (s : String) : Prop :=
  ∃ major minor, s.toList = major ++ '.' :: minor ∧ IsComponent major ∧ IsComponent minor

/-- The text consists of two components with a dot between them, and their values are those of the version. -/
def Writes (s : String) (v : Version) : Prop :=
  ∃ major minor, s.toList = major ++ '.' :: minor ∧ IsComponent major ∧ IsComponent minor ∧
    v.major.toNat = Nat.ofDigitChars 10 major 0 ∧ v.minor.toNat = Nat.ofDigitChars 10 minor 0

/-- Reading cuts the text at its first dot. -/
theorem cut_of_parseChars? {cs : List Char} {v : Version} (read : parseChars? cs = some v) :
    ∃ major minor, cs = major ++ '.' :: minor ∧ component? major = some v.major ∧ component? minor = some v.minor := by
  unfold parseChars? at read
  split at read
  · cases read
  · next dot minor behind =>
    obtain ⟨first, inFront, read⟩ := Option.bind_eq_some_iff.mp read
    obtain ⟨second, inBehind, read⟩ := Option.bind_eq_some_iff.mp read
    cases read
    have dotted : dot = '.' := by
      have stops := List.head?_dropWhile_not (fun c => decide (c ≠ '.')) cs
      rw [behind] at stops
      simpa using stops
    subst dotted
    refine ⟨cs.takeWhile (· ≠ '.'), minor, ?_, inFront, inBehind⟩
    rw [← behind, List.takeWhile_append_dropWhile]

theorem parse?_eq_some_iff (s : String) (v : Version) : parse? s = some v ↔ Writes s v := by
  constructor
  · intro read
    obtain ⟨major, minor, cut, first, second⟩ := cut_of_parseChars? read
    obtain ⟨component, value⟩ := (component?_eq_some_iff major v.major).mp first
    obtain ⟨component', value'⟩ := (component?_eq_some_iff minor v.minor).mp second
    exact ⟨major, minor, cut, component, component', value, value'⟩
  · rintro ⟨major, minor, cut, component, component', value, value'⟩
    rw [parse?, cut]
    exact parseChars?_digits component.isDigit ((component?_eq_some_iff ..).mpr ⟨component, value⟩)
      ((component?_eq_some_iff ..).mpr ⟨component', value'⟩)

/-- Whatever consists of two components is a text of the version with their values. -/
theorem isWritten_iff (s : String) : IsWritten s ↔ ∃ v, Writes s v := by
  constructor
  · rintro ⟨major, minor, cut, first, second⟩
    have fits {ds : List Char} (component : IsComponent ds) :
        (UInt32.ofNat (Nat.ofDigitChars 10 ds 0)).toNat = Nat.ofDigitChars 10 ds 0 :=
      UInt32.toNat_ofNat_of_lt' (Nat.lt_succ_of_le component.fits)
    exact ⟨⟨.ofNat _, .ofNat _⟩, major, minor, cut, first, second, fits first, fits second⟩
  · rintro ⟨v, major, minor, cut, first, second, -, -⟩
    exact ⟨major, minor, cut, first, second⟩

/-- The text with no superfluous zero in any run between dots. -/
def unpaddedText (s : String) : String :=
  String.ofList (['.'].intercalate ((s.toList.splitOn '.').map unpadded))

theorem toText_of_writes {s : String} {v : Version} (written : Writes s v) : v.toText = unpaddedText s := by
  obtain ⟨major, minor, cut, first, second, value, value'⟩ := written
  have runs : s.toList.splitOn '.' = [major, minor] := by
    rw [cut, List.splitOn_append_cons_self_of_not_mem first.undotted, List.splitOn_eq_singleton second.undotted]
  rw [unpaddedText, runs, toText, Nat.toString_eq_ofList_toDigits, Nat.toString_eq_ofList_toDigits,
    toDigits_component first value, toDigits_component second value']
  exact String.toList_inj.mp (by simp)

theorem toText_injective {v w : Version} (same : v.toText = w.toText) : v = w := by
  have read := parse?_toText v
  rw [same, parse?_toText w] at read
  exact (Option.some.inj read).symm

/-- What reading accepts, and what it makes of it. -/
theorem parse?_grammar :
    (∀ s v, parse? s = some v ↔ Writes s v) ∧
      (∀ s, parse? s = none ↔ ¬ IsWritten s) ∧
      (∀ v : Version, parse? v.toText = some v) ∧
      (∀ s v, parse? s = some v → v.toText = unpaddedText s) ∧
      ∀ s t v w, parse? s = some v → parse? t = some w → (v = w ↔ unpaddedText s = unpaddedText t) := by
  refine ⟨parse?_eq_some_iff, ?_, parse?_toText, ?_, ?_⟩
  · intro s
    simp only [isWritten_iff, ← parse?_eq_some_iff, Option.eq_none_iff_forall_ne_some, not_exists, ne_eq]
  · intro s v read
    exact toText_of_writes ((parse?_eq_some_iff s v).mp read)
  · intro s t v w read read'
    rw [← toText_of_writes ((parse?_eq_some_iff s v).mp read), ← toText_of_writes ((parse?_eq_some_iff t w).mp read')]
    exact ⟨congrArg toText, toText_injective⟩

/-- Zeros in front change neither the version nor whether it fits. -/
theorem parse?_grammar_padded :
    Version.toText ⟨4294967295, 10⟩ = unpaddedText "00004294967295.010" ∧
      unpaddedText "00004294967295.010" = unpaddedText "4294967295.10" := by
  have padded : parse? "00004294967295.010" = some ⟨4294967295, 10⟩ := by decide +kernel
  have plain : parse? "4294967295.10" = some ⟨4294967295, 10⟩ := by decide +kernel
  exact ⟨parse?_grammar.2.2.2.1 _ _ padded, (parse?_grammar.2.2.2.2 _ _ _ _ padded plain).mp rfl⟩

end Version
end Scorecard

import Scorecard.Proofs.RoundedIntegers
import Scorecard.Proofs.WrittenDocuments

/-!
# Every document that is read can be written and read again

The readers accept more than is ever written: integers for numbers, null for absent fields, lists for records, any
offset from UTC, a version with blanks around it or as a number. Whatever they accept has finite numbers
(`isFinite_of_ofValue`), so its written form reads back as the same document (`ofValue_toValue_of_read`).
-/

namespace Scorecard

/-! ## What readers give -/

section Results

variable {α β ε ε' : Type}

theorem ok_of_bind {e : Except ε α} {f : α → Except ε β} {b : β} (ok : (e >>= f) = .ok b) :
    ∃ a, e = .ok a ∧ f a = .ok b := by
  cases e with
  | error => cases ok
  | ok a => exact ⟨a, rfl, ok⟩

theorem ok_of_map {e : Except ε α} {f : α → β} {b : β} (ok : e.map f = .ok b) : ∃ a, e = .ok a ∧ f a = b := by
  cases e with
  | error => cases ok
  | ok a => exact ⟨a, rfl, Except.ok.inj ok⟩

theorem ok_of_mapError {e : Except ε α} {f : ε → ε'} {a : α} (ok : e.mapError f = .ok a) : e = .ok a := by
  cases e with
  | error => cases ok
  | ok => cases ok; rfl

end Results

/-- Whatever the reader reads has the property. -/
def Reader.Gives {α : Type} (reader : Reader α) (holds : α → Prop) : Prop := ∀ v a, reader v = .ok a → holds a

/-- Whatever is read for the part has the property. -/
def Part.Gives {α : Type} (part : Part α) (holds : α → Prop) : Prop := ∀ fields a, part fields = .ok a → holds a

namespace Reader

variable {α : Type} {reader : Reader α} {holds : α → Prop}

theorem double_gives : double.Gives fun x => x.isFinite = true := by
  intro v x read
  cases v with
  | number n =>
    cases read
    exact n.isFinite_toBinary64
  | _ => cases read

theorem list_gives (each : reader.Gives holds) : (list reader).Gives fun as => ∀ a ∈ as, holds a := by
  intro v as read
  cases v with
  | list vs =>
    have run : items reader vs = .ok as := read
    clear read
    induction vs generalizing as with
    | nil =>
      cases run
      nofun
    | cons v rest ih =>
      obtain ⟨first, one, run⟩ := ok_of_bind run
      obtain ⟨later, others, run⟩ := ok_of_bind run
      cases run
      exact List.forall_mem_cons.mpr ⟨each v first one, ih later others⟩
  | _ => cases read

end Reader

namespace Part

variable {α β : Type} {f : Part (α → β)} {p : Part α} {left : α → Prop} {right : β → Prop}

/-- The first part, of which something is known. -/
theorem map_gives {f : α → β} (first : p.Gives left) (all : ∀ a, left a → right (f a)) : (f <$> p).Gives right := by
  intro fields b read
  have both : Part.and (pure f) p fields = .ok b := read
  unfold Part.and at both
  split at both <;> cases both
  rename_i g a function one
  cases function
  exact all a (first fields a one)

/-- The first part, of which nothing has to be known. -/
theorem map_gives_any {f : α → β} (all : ∀ a, right (f a)) : (f <$> p).Gives right := by
  have something : p.Gives fun _ => True := fun _ _ _ => trivial
  exact map_gives something fun a _ => all a

/-- The last part, of which something is known. -/
theorem seq_gives (first : f.Gives fun g => ∀ a, left a → right (g a)) (second : p.Gives left) :
    (f <*> p).Gives right := by
  intro fields b read
  have both : Part.and f p fields = .ok b := read
  unfold Part.and at both
  split at both <;> cases both
  rename_i g a one two
  exact first fields g one a (second fields a two)

/-- The last part, of which nothing has to be known. -/
theorem seq_gives_any (first : f.Gives fun g => ∀ a, right (g a)) : (f <*> p).Gives right := by
  have something : p.Gives fun _ => True := fun _ _ _ => trivial
  exact seq_gives (fun fields g read a _ => first fields g read a) something

theorem field_gives {place : Nat} {name : String} {reader : Reader α} {absent : Option α} (present : reader.Gives left)
    (default : ∀ a, absent = some a → left a) : (field place name reader absent).Gives left := by
  intro fields a read
  cases fields with
  | byName entries =>
    simp only [field] at read
    split at read
    · exact present _ a (ok_of_mapError read)
    · exact default a (congrArg some (Except.ok.inj read))
    · cases read
  | byPlace items =>
    simp only [field] at read
    split at read
    · exact present _ a (ok_of_mapError read)
    · exact default a (congrArg some (Except.ok.inj read))
    · cases read

theorem required_gives {place : Nat} {name : String} {reader : Reader α} (present : reader.Gives left) :
    (required place name reader).Gives left :=
  field_gives present nofun

/-- A list that may be left out: then it has no items. -/
theorem items_gives {place : Nat} {name : String} {reader : Reader α} (each : reader.Gives left) :
    (defaulted place name (Reader.list reader) []).Gives fun as => ∀ a ∈ as, left a := by
  refine field_gives (Reader.list_gives each) ?_
  intro as empty
  cases empty
  nofun

/-- A value that may be left out or null: then there is none. -/
theorem optional_gives {place : Nat} {name : String} {reader : Reader α} (present : reader.Gives left) :
    (optional place name reader).Gives fun a => ∀ x ∈ a, left x := by
  refine field_gives ?_ ?_
  · intro v a read
    unfold Reader.optional at read
    split at read
    · cases read
      nofun
    · obtain ⟨x, fits, rfl⟩ := ok_of_map read
      intro y same
      cases same
      exact present v x fits
  · intro a absent
    cases absent
    nofun

theorem record_gives {name : String} {size : Nat} (parts : p.Gives left) : Reader.Gives (record name size p) left := by
  intro v a read
  cases v with
  | object entries => exact parts _ a (ok_of_mapError read)
  | list items =>
    simp only [record] at read
    split at read
    · cases read
    · next run =>
      split at read <;> cases read
      exact parts _ a run
  | _ => cases read

end Part

/-! ## The numbers that are read -/

theorem Risk.reader_gives : Risk.reader.Gives Risk.IsFinite := by
  refine Part.record_gives ?_
  refine Part.seq_gives ?_ (Part.required_gives Reader.double_gives)
  refine Part.seq_gives ?_ (Part.required_gives Reader.double_gives)
  exact Part.map_gives_any fun _ _ probability _ consequence => ⟨probability, consequence⟩

namespace Third

theorem Scenario.reader_gives : Scenario.reader.Gives fun s => s.risk.IsFinite ∧ s.remainingRisk.IsFinite := by
  refine Part.record_gives ?_
  -- The last part is applied outermost; behind the two risks stand the existing and the new actions.
  refine Part.seq_gives_any (Part.seq_gives_any ?_)
  refine Part.seq_gives ?_ (Part.required_gives Risk.reader_gives)
  refine Part.seq_gives ?_ (Part.required_gives Risk.reader_gives)
  refine Part.seq_gives_any (Part.seq_gives_any (Part.seq_gives_any (Part.seq_gives_any (Part.seq_gives_any ?_))))
  exact Part.map_gives_any fun _ _ _ _ _ _ _ risk _ remainingRisk _ _ => ⟨risk, remainingRisk⟩

theorem Card.reader_gives :
    Card.reader.Gives fun c => ∀ s ∈ c.scenarios, s.risk.IsFinite ∧ s.remainingRisk.IsFinite := by
  refine Part.record_gives ?_
  refine Part.seq_gives ?_ (Part.items_gives Scenario.reader_gives)
  exact Part.seq_gives_any (Part.seq_gives_any (Part.map_gives_any fun _ _ _ _ scenarios => scenarios))

end Third

namespace Fourth

theorem Scenario.reader_gives : Scenario.reader.Gives fun s => s.risk.IsFinite ∧ s.remainingRisk.IsFinite := by
  refine Part.record_gives ?_
  refine Part.seq_gives_any ?_
  refine Part.seq_gives ?_ (Part.required_gives Risk.reader_gives)
  refine Part.seq_gives ?_ (Part.required_gives Risk.reader_gives)
  refine Part.seq_gives_any (Part.seq_gives_any (Part.seq_gives_any (Part.seq_gives_any (Part.seq_gives_any ?_))))
  exact Part.map_gives_any fun _ _ _ _ _ _ _ risk _ remainingRisk _ => ⟨risk, remainingRisk⟩

theorem Card.reader_gives :
    Card.reader.Gives fun c => ∀ s ∈ c.scenarios, s.risk.IsFinite ∧ s.remainingRisk.IsFinite := by
  refine Part.record_gives ?_
  refine Part.seq_gives ?_ (Part.items_gives Scenario.reader_gives)
  exact Part.seq_gives_any (Part.seq_gives_any (Part.map_gives_any fun _ _ _ _ scenarios => scenarios))

end Fourth

namespace Document

/-! ## The documents that are read -/

/-- What holds of the two estimates of each scenario holds of all of them. -/
theorem forall_mem_pairs {σ : Type} {first second : σ → Risk} {holds : Risk → Prop} {scenarios : List σ}
    (each : ∀ s ∈ scenarios, holds (first s) ∧ holds (second s)) :
    ∀ r ∈ scenarios.flatMap fun s => [first s, second s], holds r := by
  intro r here
  obtain ⟨s, listed, one⟩ := List.mem_flatMap.mp here
  obtain ⟨left, right⟩ := each s listed
  simp only [List.mem_cons, List.not_mem_nil, or_false] at one
  rcases one with rfl | rfl
  · exact left
  · exact right

theorem isFinite_ofThird (version : Version) {c : Third.Card}
    (finite : ∀ s ∈ c.scenarios, s.risk.IsFinite ∧ s.remainingRisk.IsFinite) : (ofThird version c).IsFinite := by
  unfold ofThird
  split <;> exact forall_mem_pairs finite

theorem isFinite_ofFourth (version : Version) {c : Fourth.Card}
    (finite : ∀ s ∈ c.scenarios, s.risk.IsFinite ∧ s.remainingRisk.IsFinite) : (ofFourth version c).IsFinite := by
  unfold ofFourth
  repeat' split
  all_goals exact forall_mem_pairs finite

theorem isFinite_of_ofVersion {version : Version} {v : Value} {d : Document} (read : ofVersion version v = .ok d) :
    d.IsFinite := by
  unfold ofVersion at read
  split at read
  · obtain ⟨c, card, rfl⟩ := ok_of_map read
    exact isFinite_ofThird version (Third.Card.reader_gives v c (ok_of_mapError card))
  · obtain ⟨c, card, rfl⟩ := ok_of_map read
    exact isFinite_ofFourth version (Fourth.Card.reader_gives v c (ok_of_mapError card))
  · cases read

/-- No infinity and no not-a-number is ever read. -/
theorem isFinite_of_ofValue {v : Value} {d : Document} (read : ofValue v = .ok d) : d.IsFinite := by
  unfold ofValue at read
  split at read
  · split at read
    · exact isFinite_of_ofVersion read
    · cases read
      nofun
  · cases read

/-- A document with a version is written as the entries of its card with that version. -/
theorem exists_entries {d : Document} {version : Version} (known : d.version? = some version) :
    ∃ entries, d.toValue = withVersion version entries := by
  cases d <;> cases known <;> exact ⟨_, rfl⟩

/-- Whatever tree a document was read from, what it is written as is an object that reads back as the same
    document, so never as a malformed one and never under another version. -/
theorem ofValue_toValue_of_read {v : Value} {d : Document} (read : ofValue v = .ok d) :
    d.toValue.isObject = true ∧ ofValue d.toValue = .ok d := by
  cases known : d.version? with
  | none =>
    cases d with
    | unknown label payload =>
      obtain rfl := payload_of_ofValue read
      refine ⟨?_, read⟩
      unfold ofValue at read
      split at read
      · next object => exact object
      · cases read
    | _ => cases known
  | some version =>
    have supported := Migration.version_supported known
    have record := ofVersion_toValue known (isFinite_of_ofValue read)
    obtain ⟨entries, written⟩ := exists_entries known
    rw [written] at record ⊢
    exact ⟨rfl, (ofValue_withVersion supported).trans record⟩

/-- A tree at the edges of what is accepted: its version is padded and has zeros in front, a scenario and a risk are
    lists, the numbers are integers, of which the one needs rounding, fields are null, and the offsets lead out of the
    four-digit years. -/
def frontier : Value := .object [
  ("scenarios", .list [.list [.text "s1", .text "Outage", .text "", .null, .list [], .list [],
    .list [.null, .number (.integer 18446744073709551615 (by decide)), .number (.integer (-1) (by decide))],
    .object [("consequence", .number (.integer 0 (by decide))), ("probability", .number (.integer 50 (by decide)))],
    .list [
      .object [("id", .text "a1"), ("lastUpdated", .text "9999-12-31T23:30:00-01:00"),
        ("status", .object [("ON_HOLD", .null)]), ("title", .text "Scale out"), ("url", .null)],
      .list [.text "a2", .text "Test", .text "", .null, .text "ABORTED", .text "0000-01-01 00:30:00+01:00"]]]]),
  ("schemaVersion", .text " 04.2 "), ("title", .text "Payments")]

/-- The stamps of a card that was read in the version 4.2. -/
def stampTexts : Except LoadError Document → List (Option String)
  | .ok (.v4_2 c) => (c.scenarios.flatMap (·.actions)).map fun a => a.lastUpdated.map Timestamp.toText
  | _ => []

/-- The tree reads as a card of 4.2 with stamps in the years 10000 and -1, and so does what it is written as. -/
theorem ofValue_toValue_of_read_frontier :
    ∃ c, ofValue frontier = .ok (.v4_2 c) ∧
      stampTexts (.ok (.v4_2 c)) = [some "+10000-01-01T00:30:00Z", some "-0001-12-31T23:30:00Z"] ∧
      (v4_2 c).toValue.get? "schemaVersion" = some (.text "4.2") ∧
      ofValue (v4_2 c).toValue = .ok (.v4_2 c) := by
  have stamps : stampTexts (ofValue frontier) = [some "+10000-01-01T00:30:00Z", some "-0001-12-31T23:30:00Z"] := by
    decide +kernel
  unfold stampTexts at stamps
  split at stamps
  · next c read => exact ⟨c, read, stamps, get?_withVersion, (ofValue_toValue_of_read read).2⟩
  · cases stamps

end Document
end Scorecard

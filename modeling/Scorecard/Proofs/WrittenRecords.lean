import Scorecard.Proofs.AlikeTrees
import Scorecard.Proofs.Estimates
import Scorecard.Proofs.TimestampText

/-!
# Reading written records

A written record is an object whose keys were put in order, so its reader finds each field by name wherever it
stands (`lookup_sorted`), and a field that was left out is not there. Field by field the readers
therefore give back what was written (`Risk.reads`, `Third.Scenario.reads`, `Fourth.Scenario.reads`).
-/

namespace Scorecard

/-! ## Ordered objects -/

namespace Value

variable {key : String}

/-- The entries of an ordered object. -/
def sorted (entries : List (String × Value)) : List (String × Value) :=
  (orderedEntries entries).foldl (fun sorted e => put e.1 e.2 sorted) []

theorem ordered_object (entries : List (String × Value)) : (object entries).ordered = .object (sorted entries) := by
  rw [ordered]
  rfl

theorem ordered_list (items : List Value) : (list items).ordered = .list (items.map ordered) := by
  have each : ∀ items, orderedItems items = items.map ordered := by
    intro items
    induction items with
    | nil => rfl
    | cons v rest ih => rw [orderedItems, ih, List.map_cons]
  rw [ordered, each]

theorem lookup_append (es fs : List (String × Value)) :
    lookup key (es ++ fs) = (lookup key es).or (lookup key fs) := by
  induction es with
  | nil => rfl
  | cons e rest ih =>
    obtain ⟨k, v⟩ := e
    rw [List.cons_append, lookup, lookup]
    split
    · rfl
    · exact ih

/-- What the last entry with a key has. -/
def latest (key : String) (es : List (String × Value)) : Option Value := lookup key es.reverse

theorem lookup_foldl_put (es acc : List (String × Value)) :
    lookup key (es.foldl (fun sorted e => put e.1 e.2 sorted) acc) = (latest key es).or (lookup key acc) := by
  induction es generalizing acc with
  | nil => rfl
  | cons e rest ih =>
    rw [List.foldl_cons, ih, lookup_put, latest, latest, List.reverse_cons, lookup_append, Option.or_assoc]
    congr 1
    rw [lookup]
    split <;> rfl

theorem orderedEntries_eq (es : List (String × Value)) : orderedEntries es = es.map fun e => (e.1, e.2.ordered) := by
  induction es with
  | nil => rfl
  | cons e rest ih => rw [orderedEntries, ih, List.map_cons]

theorem lookup_orderedEntries (es : List (String × Value)) :
    lookup key (orderedEntries es) = (lookup key es).map ordered := by
  induction es with
  | nil => rfl
  | cons e rest ih =>
    rw [orderedEntries, lookup, lookup, ih]
    split <;> rfl

/-- Under a key an ordered object has what the last entry with the key had. -/
@[simp] theorem lookup_sorted (es : List (String × Value)) :
    lookup key (sorted es) = (latest key es).map ordered := by
  rw [sorted, lookup_foldl_put, latest, orderedEntries_eq, ← List.map_reverse, ← orderedEntries_eq,
    lookup_orderedEntries]
  exact Option.or_none

@[simp] theorem latest_append (es fs : List (String × Value)) :
    latest key (es ++ fs) = (latest key fs).or (latest key es) := by
  rw [latest, List.reverse_append, lookup_append]
  rfl

@[simp] theorem latest_entry (k : String) (v : Value) : latest key (entry k v) = if k = key then some v else none :=
  rfl

@[simp] theorem latest_entryIf {α : Type} (k : String) (write : α → Value) (a : Option α) :
    latest key (entryIf k write a) = if k = key then a.map write else none := by
  cases a with
  | none => split <;> rfl
  | some => rfl

@[simp] theorem latest_entryUnlessEmpty (k : String) (vs : List Value) :
    latest key (entryUnlessEmpty k vs) = if k = key then (if vs = [] then none else some (.list vs)) else none := by
  cases vs with
  | nil => split <;> rfl
  | cons => rfl

/-- An object is never taken for the absence of a value. -/
theorem ordered_object_ne_null (entries : List (String × Value)) : (object entries).ordered ≠ .null := by
  rw [ordered_object]
  nofun

end Value

/-! ## Plain readers -/

namespace Reader

variable {α : Type}

theorem text_ok (s : String) : Reader.text (Value.text s).ordered = .ok s := rfl

theorem member_ok [Vocabulary α] (a : α) : Reader.member α (Value.ofMember a).ordered = .ok a := by
  show named α (Vocabulary.name a) = _
  rw [named, Vocabulary.ofName?_name]

theorem timestamp_ok (t : Timestamp) : Reader.timestamp (Value.ofTimestamp t).ordered = .ok t := by
  simp only [Value.ofTimestamp, Value.ordered, Reader.timestamp, Timestamp.parse_toText]

theorem list_ok {reader : Reader α} {write : α → Value} {xs : List α}
    (each : ∀ x ∈ xs, reader (write x).ordered = .ok x) :
    Reader.list reader (Value.list (xs.map write)).ordered = .ok xs := by
  rw [Value.ordered_list, List.map_map, Reader.list]
  induction xs with
  | nil => rfl
  | cons x rest ih =>
    have first : reader (write x).ordered = .ok x := each x List.mem_cons_self
    have later := ih fun y there => each y (List.mem_cons_of_mem x there)
    rw [List.map_cons, Reader.items, Function.comp_apply, first, later]
    rfl

theorem double_ok {x : Binary64} (finite : x.isFinite = true) : Reader.double (Value.ofBinary64 x).ordered = .ok x := by
  rw [Value.ofBinary64, Number.ofBinary64?, dif_pos finite]
  rfl

end Reader

/-! ## Records out of objects -/

namespace Part

variable {α β : Type} {fields : Fields} {es : List (String × Value)}

theorem map_ok {f : α → β} {p : Part α} {a : α} (read : p fields = .ok a) : (f <$> p) fields = .ok (f a) := by
  show Part.and (pure f) p fields = _
  rw [Part.and, read]
  rfl

theorem seq_ok {f : Part (α → β)} {p : Part α} {g : α → β} {a : α} (first : f fields = .ok g)
    (second : p fields = .ok a) : (f <*> p) fields = .ok (g a) := by
  show Part.and f p fields = _
  rw [Part.and, first, second]

theorem field_ok {place : Nat} {name : String} {reader : Reader α} {absent : Option α} {v : Value} {a : α}
    (found : Value.lookup name es = some v) (fits : reader v = .ok a) :
    field place name reader absent (.byName es) = .ok a := by
  unfold field
  dsimp only
  rw [found]
  cases absent <;> exact congrArg (Except.mapError (Fault.unfit name)) fits

/-- A field that is left out if there is no value. -/
theorem optional_ok {place : Nat} {name : String} {reader : Reader α} {write : α → Value} {a : Option α}
    (found : Value.lookup name es = (a.map write).map Value.ordered)
    (fits : ∀ x ∈ a, reader (write x).ordered = .ok x) (some : ∀ x, (write x).ordered ≠ .null) :
    optional place name reader (.byName es) = .ok a := by
  cases a with
  | none =>
    unfold optional field
    dsimp only
    rw [found]
    rfl
  | some x =>
    refine field_ok found ?_
    unfold Reader.optional
    split
    · next none => exact absurd none (some x)
    · rw [fits x rfl]; rfl

theorem optional_text_ok {place : Nat} {name : String} {a : Option String}
    (found : Value.lookup name es = (a.map .text).map Value.ordered) :
    optional place name Reader.text (.byName es) = .ok a :=
  optional_ok found (fun s _ => Reader.text_ok s) (fun _ => by simp [Value.ordered])

/-- A list that is left out if it has no items. -/
theorem items_ok {place : Nat} {name : String} {reader : Reader α} {write : α → Value} {xs : List α}
    (found : Value.lookup name es = (if xs = [] then none else some (.list (xs.map write))).map Value.ordered)
    (each : ∀ x ∈ xs, reader (write x).ordered = .ok x) :
    defaulted place name (Reader.list reader) [] (.byName es) = .ok xs := by
  by_cases empty : xs = []
  · subst empty
    unfold defaulted field
    dsimp only
    rw [found]
    rfl
  · rw [if_neg empty] at found
    exact field_ok found (Reader.list_ok each)

theorem record_ok {name : String} {size : Nat} {parts : Part α} {a : α}
    (read : parts (.byName (Value.sorted es)) = .ok a) : record name size parts (Value.object es).ordered = .ok a := by
  rw [Value.ordered_object, record, read]
  rfl

end Part

/-! ## The records -/

/-- Both numbers are finite. -/
def Risk.IsFinite (r : Risk) : Prop := r.probability.isFinite = true ∧ r.consequence.isFinite = true

instance (r : Risk) : Decidable r.IsFinite := inferInstanceAs (Decidable (_ ∧ _))

theorem Risk.reads {r : Risk} (finite : r.IsFinite) : Risk.reader r.toValue.ordered = .ok r := by
  obtain ⟨summary, probability, consequence⟩ := r
  refine Part.record_ok ?_
  -- The last part is applied outermost, so the fields are taken off from behind.
  refine Part.seq_ok ?_ (Part.field_ok (by simp) (Reader.double_ok finite.2))
  refine Part.seq_ok ?_ (Part.field_ok (by simp) (Reader.double_ok finite.1))
  exact Part.map_ok (Part.optional_text_ok (by simp))

theorem Valuation.reads (v : Valuation) : Valuation.reader v.toValue.ordered = .ok v := by
  obtain ⟨description, confidentiality, integrity, availability⟩ := v
  refine Part.record_ok ?_
  refine Part.seq_ok ?_ (Part.field_ok (by simp) (Reader.text_ok _))
  refine Part.seq_ok ?_ (Part.field_ok (by simp) (Reader.text_ok _))
  refine Part.seq_ok ?_ (Part.field_ok (by simp) (Reader.text_ok _))
  exact Part.map_ok (Part.field_ok (by simp) (Reader.text_ok _))

namespace Third

theorem Action.reads (a : Action) : Action.reader a.toValue.ordered = .ok a := by
  obtain ⟨id, title, description, url, status, owner, deadline⟩ := a
  refine Part.record_ok ?_
  refine Part.seq_ok ?_ (Part.optional_text_ok (by simp))
  refine Part.seq_ok ?_ (Part.optional_text_ok (by simp))
  refine Part.seq_ok ?_ (Part.field_ok (by simp) (Reader.member_ok _))
  refine Part.seq_ok ?_ (Part.optional_text_ok (by simp))
  refine Part.seq_ok ?_ (Part.field_ok (by simp) (Reader.text_ok _))
  refine Part.seq_ok ?_ (Part.field_ok (by simp) (Reader.text_ok _))
  exact Part.map_ok (Part.field_ok (by simp) (Reader.text_ok _))

theorem Scenario.reads {s : Scenario} (finite : s.risk.IsFinite ∧ s.remainingRisk.IsFinite) :
    Scenario.reader s.toValue.ordered = .ok s := by
  obtain ⟨id, title, description, url, threatActors, vulnerabilities, risk, remainingRisk, existingActions,
    actions⟩ := s
  refine Part.record_ok ?_
  refine Part.seq_ok ?_ (Part.field_ok (by simp) (Reader.list_ok fun a _ => a.reads))
  refine Part.seq_ok ?_ (Part.optional_text_ok (by simp))
  refine Part.seq_ok ?_ (Part.field_ok (by simp) (Risk.reads finite.2))
  refine Part.seq_ok ?_ (Part.field_ok (by simp) (Risk.reads finite.1))
  refine Part.seq_ok ?_ (Part.field_ok (by simp) (Reader.list_ok fun _ _ => Reader.member_ok _))
  refine Part.seq_ok ?_ (Part.field_ok (by simp) (Reader.list_ok fun _ _ => Reader.member_ok _))
  refine Part.seq_ok ?_ (Part.optional_text_ok (by simp))
  refine Part.seq_ok ?_ (Part.field_ok (by simp) (Reader.text_ok _))
  refine Part.seq_ok ?_ (Part.field_ok (by simp) (Reader.text_ok _))
  exact Part.map_ok (Part.field_ok (by simp) (Reader.text_ok _))

/-- A card is read out of its entries and the version behind them. -/
theorem Card.reads {c : Card} (finite : ∀ s ∈ c.scenarios, s.risk.IsFinite ∧ s.remainingRisk.IsFinite)
    (version : Value) :
    Card.reader (Value.object (c.entries ++ Value.entry "schemaVersion" version)).ordered = .ok c := by
  obtain ⟨title, scope, valuations, scenarios⟩ := c
  have each : ∀ s ∈ scenarios, Scenario.reader s.toValue.ordered = .ok s :=
    fun s here => Scenario.reads (finite s here)
  refine Part.record_ok ?_
  refine Part.seq_ok ?_ (Part.field_ok (by simp [Card.entries]) (Reader.list_ok each))
  refine Part.seq_ok ?_ (Part.field_ok (by simp [Card.entries]) (Reader.list_ok fun v _ => v.reads))
  refine Part.seq_ok ?_ (Part.field_ok (by simp [Card.entries]) (Reader.text_ok _))
  exact Part.map_ok (Part.field_ok (by simp [Card.entries]) (Reader.text_ok _))

end Third

namespace Fourth

theorem Action.reads (a : Action) : Action.reader a.toValue.ordered = .ok a := by
  obtain ⟨id, title, description, url, status, lastUpdated⟩ := a
  have stamp (t : Timestamp) : (Value.ofTimestamp t).ordered ≠ .null := by simp [Value.ofTimestamp, Value.ordered]
  refine Part.record_ok ?_
  refine Part.seq_ok ?_ (Part.optional_ok (by simp) (fun t _ => Reader.timestamp_ok t) stamp)
  refine Part.seq_ok ?_ (Part.field_ok (by simp) (Reader.member_ok _))
  refine Part.seq_ok ?_ (Part.optional_text_ok (by simp))
  refine Part.seq_ok ?_ (Part.field_ok (by simp) (Reader.text_ok _))
  refine Part.seq_ok ?_ (Part.field_ok (by simp) (Reader.text_ok _))
  exact Part.map_ok (Part.field_ok (by simp) (Reader.text_ok _))

theorem Scenario.reads {s : Scenario} (finite : s.risk.IsFinite ∧ s.remainingRisk.IsFinite) :
    Scenario.reader s.toValue.ordered = .ok s := by
  obtain ⟨id, title, description, url, threatActors, vulnerabilities, risk, remainingRisk, actions⟩ := s
  refine Part.record_ok ?_
  refine Part.seq_ok ?_ (Part.field_ok (by simp) (Reader.list_ok fun a _ => a.reads))
  refine Part.seq_ok ?_ (Part.field_ok (by simp) (Risk.reads finite.2))
  refine Part.seq_ok ?_ (Part.field_ok (by simp) (Risk.reads finite.1))
  refine Part.seq_ok ?_ (Part.field_ok (by simp) (Reader.list_ok fun _ _ => Reader.member_ok _))
  refine Part.seq_ok ?_ (Part.field_ok (by simp) (Reader.list_ok fun _ _ => Reader.member_ok _))
  refine Part.seq_ok ?_ (Part.optional_text_ok (by simp))
  refine Part.seq_ok ?_ (Part.field_ok (by simp) (Reader.text_ok _))
  refine Part.seq_ok ?_ (Part.field_ok (by simp) (Reader.text_ok _))
  exact Part.map_ok (Part.field_ok (by simp) (Reader.text_ok _))

/-- A card is read out of its entries and the version behind them. -/
theorem Card.reads {c : Card} (finite : ∀ s ∈ c.scenarios, s.risk.IsFinite ∧ s.remainingRisk.IsFinite)
    (version : Value) :
    Card.reader (Value.object (c.entries ++ Value.entry "schemaVersion" version)).ordered = .ok c := by
  obtain ⟨title, scope, valuations, scenarios⟩ := c
  have each : ∀ s ∈ scenarios, Scenario.reader s.toValue.ordered = .ok s :=
    fun s here => Scenario.reads (finite s here)
  refine Part.record_ok ?_
  refine Part.seq_ok ?_ (Part.field_ok (by simp [Card.entries]) (Reader.list_ok each))
  refine Part.seq_ok ?_ (Part.field_ok (by simp [Card.entries]) (Reader.list_ok fun v _ => v.reads))
  refine Part.seq_ok ?_ (Part.optional_text_ok (by simp [Card.entries]))
  exact Part.map_ok (Part.field_ok (by simp [Card.entries]) (Reader.text_ok _))

end Fourth
end Scorecard

import Scorecard.Risk

/-!
# Markers of change

Comparing two sides marks each field and each member of a list. Plain values are unchanged or
changed, members of lists are added or deleted, and members with an id that are in both lists but
differ carry a nested record of their changes. `valueMarkers` compares lists of plain values by
membership, `memberMarkers` lists of members by their ids; of members that share an id only the
first takes part.
-/

namespace Scorecard

/-- The result of comparing two values of type `α`; `γ` records nested changes. -/
inductive Marker (α γ : Type) where
  | unchanged (value : α)
  | added (newValue : α)
  | deleted (oldValue : α)
  | changed (oldValue newValue : α)
  | contentChanged (value : γ)
  deriving BEq, ReflBEq, LawfulBEq

namespace Marker

variable {α γ : Type}

def isUnchanged : Marker α γ → Bool
  | unchanged _ => true
  | _ => false

/-- Every marker but unchanged is a change. -/
def isChange (m : Marker α γ) : Bool := !m.isUnchanged

def isAdded : Marker α γ → Bool
  | added _ => true
  | _ => false

def isDeleted : Marker α γ → Bool
  | deleted _ => true
  | _ => false

def isContentChanged : Marker α γ → Bool
  | contentChanged _ => true
  | _ => false

/-- The written form of a marker, tagged by its kind. -/
def toValue (write : α → Value) (writeNested : γ → Value) : Marker α γ → Value
  | unchanged v => .object [("type", .text "UNCHANGED"), ("value", write v)]
  | added v => .object [("type", .text "ADDED"), ("newValue", write v)]
  | deleted v => .object [("type", .text "DELETED"), ("oldValue", write v)]
  | changed v w => .object [("type", .text "CHANGED"), ("oldValue", write v), ("newValue", write w)]
  | contentChanged c => .object [("type", .text "CONTENT_CHANGED"), ("value", writeNested c)]

end Marker

/-- The marker of a value without nested changes. -/
abbrev PlainMarker (α : Type) := Marker α Unit

/-- The written form of a marker without nested changes. -/
def PlainMarker.toValue {α : Type} (write : α → Value) (m : PlainMarker α) : Value :=
  Marker.toValue write (fun _ => .null) m

/-- Whether an unchanged value is reported. -/
inductive Emission where
  | always
  | omitUnchanged
  deriving DecidableEq, Repr

/-- Marks a value; an unchanged one shows its new side. -/
def PlainMarker.between {α : Type} [BEq α] (old new : α) : PlainMarker α :=
  if old == new then .unchanged new else .changed old new

/-- The marker of a value, unless it is unchanged and such markers are left out. -/
def Emission.marker? {α : Type} [BEq α] (emission : Emission) (old new : α) :
    Option (PlainMarker α) :=
  match emission with
  | .always => some (.between old new)
  | .omitUnchanged => if old == new then none else some (.between old new)

/-- What the comparison of two lists has reported so far. -/
structure Reported (α : Type) where
  values : List α
  markers : List (PlainMarker α)

/-- Reports a value under a mark unless the other list has it or it was reported before. -/
def Reported.enter {α : Type} [BEq α] (mark : α → PlainMarker α) (other : List α) (r : Reported α)
    (v : α) : Reported α :=
  if !other.contains v && !r.values.contains v then ⟨r.values ++ [v], r.markers ++ [mark v]⟩ else r

/-- Compares two lists by membership: first the values that the new list lacks, then those that the
    old one lacks, each value once. -/
def valueMarkers {α : Type} [BEq α] (old new : List α) : List (PlainMarker α) :=
  let deleted := old.foldl (Reported.enter .deleted new) ⟨[], []⟩
  (new.foldl (Reported.enter .added old) deleted).markers

section Keyed

variable {α γ : Type} [HasId α]

/-- Members of a list by their ids. Each is held with its place in the list, which tells it from its equals. -/
structure MemberIndex (α : Type) where
  entries : List (String × (α × Nat))

namespace MemberIndex

def find? (index : MemberIndex α) (id : String) : Option (α × Nat) := index.entries.lookup id

/-- Enters a member under its id, unless one with that id was entered before. -/
def enter (index : MemberIndex α) (item : α × Nat) : MemberIndex α :=
  if (index.find? (HasId.id item.1)).isSome then index else ⟨index.entries ++ [(HasId.id item.1, item)]⟩

def ofList (xs : List α) : MemberIndex α := xs.zipIdx.foldl enter ⟨[]⟩

/-- The members of a list that its index holds themselves, and not an earlier member with their id. -/
def firstOccurrences (index : MemberIndex α) (xs : List α) : List α :=
  (xs.zipIdx.filter fun item => (index.find? (HasId.id item.1)).any fun first => first.2 == item.2).map Prod.fst

end MemberIndex

/-- What the comparison has found in the new list so far. -/
structure Gathered (α γ : Type) where
  changed : List (Marker α γ)
  added : List (Marker α γ)

/-- Looks a member of the new list up in the old one and notes whether it was added or changed. -/
def Gathered.enter [BEq α] (old : MemberIndex α) (content : α → α → γ) (found : Gathered α γ) (x : α) :
    Gathered α γ :=
  match old.find? (HasId.id x) with
  | none => { found with added := found.added ++ [.added x] }
  | some (previous, _) =>
    if previous == x then found else { found with changed := found.changed ++ [.contentChanged (content previous x)] }

/-- Compares two lists of identified members: the deletions, then the alterations, each with the
    record of its nested changes, then the additions. -/
def memberMarkers [BEq α] (old new : List α) (content : α → α → γ) : List (Marker α γ) :=
  let before := MemberIndex.ofList old
  let after := MemberIndex.ofList new
  let deleted := (before.firstOccurrences old).filter fun x => (after.find? (HasId.id x)).isNone
  let found := (after.firstOccurrences new).foldl (Gathered.enter before content) ⟨[], []⟩
  deleted.map .deleted ++ found.changed ++ found.added

end Keyed

/-! ## Risks -/

/-- The changes of a risk. -/
structure RiskChanges where
  summary : Option (PlainMarker (Option String))
  probability : PlainMarker Binary64
  consequence : PlainMarker Binary64
  deriving BEq

/-- A text or null. -/
def optionalText (s : Option String) : Value := Value.orNull .text s

def RiskChanges.toValue (c : RiskChanges) : Value :=
  .object (Value.entryIf "summary" (PlainMarker.toValue optionalText) c.summary ++
    Value.entry "probability" (PlainMarker.toValue .ofBinary64 c.probability) ++
    Value.entry "consequence" (PlainMarker.toValue .ofBinary64 c.consequence))

/-- The marker of a risk always carries both numbers, and the summary only if it changed. -/
def Risk.marker (old new : Risk) : Marker Risk RiskChanges :=
  .contentChanged
    { summary := Emission.omitUnchanged.marker? old.summary new.summary
      probability := .between old.probability new.probability
      consequence := .between old.consequence new.consequence }

/-- The written form of the marker of a risk. -/
def riskMarkerValue (m : Marker Risk RiskChanges) : Value :=
  m.toValue Risk.toValue RiskChanges.toValue

end Scorecard

import Scorecard.Comparison
import Scorecard.PathComparison

/-!
# Reports for readers

What the command line prints in its text format, as lists of lines. Signs and numbers may be
coloured; a piece of coloured text that itself ends a colour takes its own up again.
-/

namespace Scorecard.Report

/-- How a piece of text is set off. -/
inductive Style where
  | bold
  | red
  | green
  | yellow
  deriving DecidableEq, Repr

/-- The code that switches a style on. -/
def Style.code : Style → String
  | bold => "1"
  | red => "31"
  | green => "32"
  | yellow => "33"

/-- What switches styles on; bold comes first. -/
def opening (styles : List Style) : List Char :=
  let bold := styles.filter (· = .bold)
  let colours := styles.filter (· ≠ .bold)
  Char.ofNat 27 :: '[' :: (";".intercalate ((bold ++ colours).map Style.code)).toList ++ ['m']

/-- What switches all styles off. -/
def closing : List Char := [Char.ofNat 27, '[', '0', 'm']

/-- Puts the opening behind every closing inside a text. -/
def reopen (opening : List Char) : List Char → List Char
  | '\x1b' :: '[' :: '0' :: 'm' :: rest => closing ++ opening ++ reopen opening rest
  | c :: rest => c :: reopen opening rest
  | [] => []

/-- A text in some styles, if colours are wanted. -/
def styled (colour : Bool) (styles : List Style) (s : String) : String :=
  if colour then String.ofList (opening styles ++ reopen (opening styles) s.toList ++ closing)
  else s

/-! ## Migrations -/

/-- The lines of the status of a run. -/
def statusLines (colour : Bool) (s : Migration.Status) : List String :=
  if s.appliedSteps.isEmpty then ["  Already at target version."]
  else
    s.appliedSteps.map (fun step =>
      "  Step: " ++ step.source.toText ++ " → " ++ step.target.toText) ++
    ["  Content changed by migration: " ++
        (if s.changes then styled colour [.yellow] "yes" else styled colour [.green] "no"),
      "  New approval: " ++
        (if s.requiresNewApproval then styled colour [.bold, .red] "required"
          else styled colour [.green] "not required")]

/-- The lines of a migration. -/
def migrationLines (colour : Bool) (file source target : String) (s : Migration.Status) :
    List String :=
  (styled colour [.bold, .green] "✓" ++ " Migrated " ++ styled colour [.bold] file ++ " from " ++
    styled colour [.yellow] source ++ " to " ++ styled colour [.yellow] target) ::
    statusLines colour s

/-! ## Comparisons -/

/-- What a report says of one id or path. -/
inductive Item where
  | deleted (id : String)
  | changed (id : String)
  | added (id : String)
  deriving DecidableEq

/-- The line of an item: a sign and the id. -/
def Item.line (colour : Bool) : Item → String
  | deleted id => styled colour [.red] "-" ++ " " ++ id
  | changed id => styled colour [.yellow] "~" ++ " " ++ id
  | added id => styled colour [.green] "+" ++ " " ++ id

/-- The item of a marker; one that is unchanged has none. -/
def item? {α γ : Type} [HasId α] [HasId γ] : Marker α γ → Option Item
  | .added v => some (.added (HasId.id v))
  | .deleted v => some (.deleted (HasId.id v))
  | .contentChanged c => some (.changed (HasId.id c))
  | .changed _ v => some (.changed (HasId.id v))
  | .unchanged _ => none

/-- The items of the scenarios of a card. -/
def scenarioItems : CardChanges → List Item
  | .third change => change.scenarios.filterMap item?
  | .fourth change => change.scenarios.filterMap item?

/-- The lines of the scenarios of a card. -/
def changeLines (colour : Bool) (c : CardChanges) : List String :=
  match scenarioItems c with
  | [] => ["No scenario changes."]
  | items =>
    ("Scenarios: " ++ styled colour [.green] (toString c.added) ++ " added, " ++
      styled colour [.yellow] (toString c.changed) ++ " changed, " ++
      styled colour [.red] (toString c.deleted) ++ " deleted") ::
      items.map fun i => "  " ++ i.line colour

/-- The lines of a comparison. -/
def comparisonLines (colour : Bool) (c : Comparison) : List String :=
  ("Compared at schema " ++ styled colour [.bold, .yellow] c.version.toText) ::
    (if c.migration.appliedSteps.isEmpty then []
      else "Old record was migrated:" :: statusLines colour c.migration) ++
    changeLines colour c.change

/-- The lines of a comparison path by path. -/
def pathLines (colour : Bool) (d : PathComparison) : List String :=
  if d.isEmpty then ["No differences."]
  else
    (d.onlyInBase.map Item.deleted ++ d.onlyInHead.map Item.added ++
      d.differing.map Item.changed).map (Item.line colour)

end Scorecard.Report

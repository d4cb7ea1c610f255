import Scorecard.CommandLine
import Scorecard.Directory
import Scorecard.Json.Writer
import Scorecard.Report
import Scorecard.SourceText
import Scorecard.Toml

/-!
# The program

Carries out a command on files. The outcome is a text to print, a usage error, or a chain of
messages, the outermost first. Options are loaded before documents, and one given on the command
line counts for more than one in the options file.
-/

namespace Scorecard

/-- The files of a program: the text that a path leads to, or why there is none. -/
abbrev Files := String → Except PathFault String

/-- What a run of the program comes to. -/
inductive Outcome where
  | printed (text : String)
  | usage (error : CommandLine.UsageError)
  | failed (chain : List String)

namespace Program

/-- A step that may fail with a chain of messages. -/
abbrev Attempt := Except (List String)

/-- The text of a file. -/
def fileText (files : Files) (name : String) : Attempt String :=
  match files name with
  | .ok text => .ok text
  | .error fault => .error ["failed to read " ++ name, fault.message]

/-- The document in a file. -/
def document (files : Files) (name : String) : Attempt Document := do
  match Document.ofText (← fileText files name) with
  | .ok d => return d
  | .error e => throw ["failed to parse " ++ name, e.message]

/-- The options of a settings file, if it has the right form. -/
def optionsOfText? (text : String) : Option Migration.Options := do
  match (← Toml.read? text).lookup "lastPublished" with
  | none => return .none
  | some (.text s) => return ⟨some (← (Timestamp.parse s).toOption)⟩
  | some _ => none

/-- The options of a settings file and of the command line. -/
def options (files : Files) (source : CommandLine.MigrationSource) : Attempt Migration.Options := do
  let settings ← match source.optionsFile with
    | some name =>
      match optionsOfText? (← fileText files name) with
      | some settings => pure settings
      | none => throw ["invalid options file " ++ name, "toml error"]
    | none => pure .none
  return ⟨source.lastPublished.or settings.lastPublished⟩

/-- The lines of a text, each with its line end. -/
def ofLines (lines : List String) : String := String.join (lines.map (· ++ "\n"))

/-- The document and the status of a migration. -/
def migrationValue (d : Document) (s : Migration.Status) : Value :=
  .object (Value.entry "document" d.toValue ++ Value.entry "migrationStatus" s.toValue)

/-- The messages of a comparison error and of what caused it. -/
def comparisonChain (e : ComparisonError) : List String :=
  match e with
  | .migration refusal => [e.message, refusal.message]
  | _ => [e.message]

def migrate (files : Files) (format : CommandLine.OutputFormat) (colour : Bool)
    (file target : String) (source : CommandLine.MigrationSource) : Attempt String := do
  let options ← options files source
  let d ← document files file
  match Migration.toNamedVersion d target options with
  | .error refusal => throw ["failed to migrate " ++ file, refusal.message]
  | .ok (migrated, status) =>
    match format with
    | .json => return ofLines [Json.pretty (migrationValue migrated status)]
    | .text => return ofLines (Report.migrationLines colour file d.label target status)

def compare (files : Files) (format : CommandLine.OutputFormat) (colour : Bool)
    (updated old : String) (source : CommandLine.MigrationSource) : Attempt String := do
  let options ← options files source
  let updatedDocument ← document files updated
  let oldDocument ← document files old
  match compareDocuments updatedDocument oldDocument options with
  | .error e => throw (("failed to compare " ++ updated ++ " against " ++ old) :: comparisonChain e)
  | .ok c =>
    match format with
    | .json => return ofLines [Json.pretty c.toValue]
    | .text => return ofLines (Report.comparisonLines colour c)

def diff (files : Files) (format : CommandLine.OutputFormat) (colour : Bool)
    (base head : String) : Attempt String := do
  let base ← fileText files base
  let head ← fileText files head
  match PathComparison.ofTexts base head with
  | .error e => throw (comparisonChain e)
  | .ok d =>
    match format with
    | .json => return ofLines [Json.pretty d.toValue]
    | .text => return ofLines (Report.pathLines colour d)

/-- Carries out a command. -/
def perform (files : Files) (colour : Bool) (i : CommandLine.Invocation) : Attempt String :=
  match i.command with
  | .migrate file target source => migrate files i.format colour file target source
  | .compare updated old source => compare files i.format colour updated old source
  | .diff base head => diff files i.format colour base head

/-- Runs the program on the words behind its name. -/
def run (files : Files) (colour : Bool) (args : List String) : Outcome :=
  match CommandLine.parse args with
  | .error e => .usage e
  | .ok i =>
    match perform files colour i with
    | .ok text => .printed text
    | .error chain => .failed chain

end Program
end Scorecard

import Scorecard.Timestamp

/-!
# Command lines

The words behind the program's name, read into a command. Options may stand anywhere behind the
command they belong to, with their value in the next word or behind an equals sign; the options of
the program as a whole may also stand in front of the command. A value is examined when the next
option or positional word comes, or at the end.
-/

namespace Scorecard.CommandLine

/-- How results are printed. -/
inductive OutputFormat where
  | text
  | json
  deriving DecidableEq, Repr

/-- Where the options of a migration come from. -/
structure MigrationSource where
  lastPublished : Option Timestamp
  optionsFile : Option String

/-- What is to be done. -/
inductive Command where
  | migrate (file target : String) (source : MigrationSource)
  | compare (updated old : String) (source : MigrationSource)
  | diff (base head : String)

/-- A command and how to print its result. -/
structure Invocation where
  command : Command
  format : OutputFormat
  verbose : Bool

/-- Why a command line is not carried out; three of the reasons are requests for help. -/
inductive UsageError where
  | missingRequiredArgument
  | missingSubcommand
  | unknownArgument
  | invalidSubcommand
  | invalidValue
  | valueValidation
  | tooManyValues
  | argumentConflict
  | displayHelp
  | displayVersion
  | displayHelpOnMissing
  deriving DecidableEq, Repr

/-- The name of a usage error. -/
def UsageError.name : UsageError → String
  | missingRequiredArgument => "MissingRequiredArgument"
  | missingSubcommand => "MissingSubcommand"
  | unknownArgument => "UnknownArgument"
  | invalidSubcommand => "InvalidSubcommand"
  | invalidValue => "InvalidValue"
  | valueValidation => "ValueValidation"
  | tooManyValues => "TooManyValues"
  | argumentConflict => "ArgumentConflict"
  | displayHelp => "DisplayHelp"
  | displayVersion => "DisplayVersion"
  | displayHelpOnMissing => "DisplayHelpOnMissingArgumentOrSubcommand"

/-- The options, of the program and of its commands. -/
inductive Flag where
  | help
  | version
  | verbose
  | format
  | target
  | lastPublished
  | options
  deriving DecidableEq, Repr

namespace Flag

/-- The option's name behind two dashes. -/
def longName : Flag → String
  | help => "help"
  | version => "version"
  | verbose => "verbose"
  | format => "format"
  | target => "to"
  | lastPublished => "last-published"
  | options => "options"

/-- The option's letter behind one dash. -/
def letter? : Flag → Option Char
  | help => some 'h'
  | version => some 'V'
  | verbose => some 'v'
  | _ => none

def takesValue : Flag → Bool
  | help | version | verbose => false
  | format | target | lastPublished | options => true

end Flag

/-- The commands by name. -/
inductive Verb where
  | migrate
  | compare
  | diff
  deriving DecidableEq, Repr

namespace Verb

def all : List Verb := [migrate, compare, diff]

def name : Verb → String
  | migrate => "migrate"
  | compare => "compare"
  | diff => "diff"

def ofName? (s : String) : Option Verb := all.find? fun v => v.name == s

/-- The options of a command. -/
def flags : Verb → List Flag
  | migrate => [.help, .verbose, .format, .target, .lastPublished, .options]
  | compare => [.help, .verbose, .format, .lastPublished, .options]
  | diff => [.help, .verbose, .format]

/-- How many positional words a command takes. -/
def arity : Verb → Nat
  | migrate => 1
  | compare => 2
  | diff => 2

end Verb

/-- The options in front of the command. -/
def programFlags : List Flag := [.help, .version, .verbose, .format]

/-- The words that take part in a command or stand in front of it. -/
structure Words where
  /-- the options so far, their values examined -/
  given : List (Flag × String)
  /-- the positional words so far, the last first -/
  positional : List String
  /-- the option that waits for its value -/
  waiting : Option Flag
  /-- an option or a positional word whose value has yet to be examined -/
  pending : Option (Option Flag × String)
  /-- two dashes have been seen, so only positional words follow -/
  trailing : Bool

namespace Words

def none : Words := ⟨[], [], .none, .none, false⟩

/-- A value is one that the option admits. A positional word and a file must not be empty. -/
def examine (flag : Option Flag) (value : String) : Except UsageError Unit :=
  match flag with
  | some .format => if value = "text" ∨ value = "json" then .ok () else .error .invalidValue
  | some .lastPublished =>
    match Timestamp.parse value with
    | .ok _ => .ok ()
    | .error _ => .error .valueValidation
  | some .options => if value = "" then .error .invalidValue else .ok ()
  | some _ => .ok ()
  | .none => if value = "" then .error .invalidValue else .ok ()

/-- Enters an option that must not have been given before. -/
def enter (w : Words) (flag : Flag) (value : String) : Except UsageError Words := do
  if (w.given.lookup flag).isSome then throw .argumentConflict
  examine (some flag) value
  return { w with given := w.given ++ [(flag, value)] }

/-- Examines what is pending. An option that still waits has no value. -/
def settle (w : Words) : Except UsageError Words := do
  if w.waiting.isSome then throw .invalidValue
  match w.pending with
  | some (some flag, value) => ({ w with pending := .none }).enter flag value
  | some (.none, value) =>
    examine .none value
    return { w with pending := .none }
  | .none => return w

/-- An option without a value. -/
def raise (w : Words) (flag : Flag) : Except UsageError Words := do
  let w ← w.settle
  match flag with
  | .help => throw .displayHelp
  | .version => throw .displayVersion
  | flag => w.enter flag ""

/-- A word behind two dashes, its name and the value behind an equals sign. -/
def long (w : Words) (flags : List Flag) (name : String) (value : Option String) :
    Except UsageError Words := do
  match flags.find? fun f => f.longName == name with
  | .none => throw .unknownArgument
  | some flag =>
    match flag.takesValue, value with
    | true, some v => (← w.settle).enter flag v
    | true, .none => return { (← w.settle) with waiting := some flag }
    | false, some _ => throw .tooManyValues
    | false, .none => w.raise flag

/-- Letters behind one dash, none of which takes a value. -/
def letters (flags : List Flag) : List Char → Words → Except UsageError Words
  | [], w => .ok w
  | c :: rest, w =>
    match flags.find? fun f => f.letter? == some c with
    | .none => .error .unknownArgument
    | some flag => do letters flags rest (← w.raise flag)

end Words

/-- A word by its dashes. -/
inductive Word where
  | escape
  | long (name : String) (value : Option String)
  | letters (cs : List Char)
  | plain

/-- A single dash is a plain word. -/
def Word.of (s : String) : Word :=
  match s.toList with
  | ['-', '-'] => .escape
  | '-' :: '-' :: rest =>
    let name := rest.takeWhile (· ≠ '=')
    match rest.dropWhile (· ≠ '=') with
    | _ :: value => .long (String.ofList name) (some (String.ofList value))
    | [] => .long (String.ofList name) .none
  | '-' :: c :: rest => .letters (c :: rest)
  | _ => .plain

/-- The words of a command, up to the end. -/
def commandWords (verb : Verb) : List String → Words → Except UsageError Words
  | [], w => w.settle
  | s :: rest, w => do
    let positional (w : Words) : Except UsageError Words := do
      if w.positional.length < verb.arity then
        let w ← w.settle
        return { w with positional := s :: w.positional, pending := some (.none, s) }
      else throw .unknownArgument
    if w.trailing then commandWords verb rest (← positional w)
    else
      match Word.of s with
      | .escape => commandWords verb rest { w with trailing := true }
      | .long name value => commandWords verb rest (← w.long verb.flags name value)
      | .letters cs => commandWords verb rest (← Words.letters verb.flags cs w)
      | .plain =>
        match w.waiting with
        | some flag =>
          commandWords verb rest { w with waiting := .none, pending := some (some flag, s) }
        | .none => commandWords verb rest (← positional w)

/-- A word that names a command, the one for help included. -/
def isCommandWord (s : String) : Bool := (Verb.ofName? s).isSome || s == "help"

/-- The words in front of the command, with the command and the words behind it. -/
def programWords : List String → Words → Except UsageError (Words × Option (Verb × List String))
  | [], w => return (w, .none)
  | s :: rest, w => do
    if w.trailing then
      throw (if isCommandWord s then .unknownArgument else .invalidSubcommand)
    match Word.of s with
    | .escape => programWords rest { w with trailing := true }
    | .long name value => programWords rest (← w.long programFlags name value)
    | .letters cs => programWords rest (← Words.letters programFlags cs w)
    | .plain =>
      match w.waiting with
      | some flag => programWords rest { w with waiting := .none, pending := some (some flag, s) }
      | .none =>
        match Verb.ofName? s with
        | some verb => return (w, some (verb, rest))
        | .none =>
          if s = "help" then
            match rest with
            | [] => throw .displayHelp
            | [name] => throw (if isCommandWord name then .displayHelp else .invalidSubcommand)
            | _ => throw .invalidSubcommand
          else throw .invalidSubcommand

/-- The command that examined words amount to. -/
def command? (verb : Verb) (w : Words) : Except UsageError Command :=
  let source : MigrationSource :=
    { lastPublished := (w.given.lookup .lastPublished).bind fun s => (Timestamp.parse s).toOption
      optionsFile := w.given.lookup .options }
  match verb, w.positional, w.given.lookup .target with
  | .migrate, [file], some target => .ok (.migrate file target source)
  | .compare, [old, updated], _ => .ok (.compare updated old source)
  | .diff, [head, base], _ => .ok (.diff base head)
  | _, _, _ => .error .missingRequiredArgument

/-- The invocation that the words behind the program's name denote. An option given behind the
    command counts for more than the same one in front of it. -/
def parse (args : List String) : Except UsageError Invocation := do
  let (front, rest) ← programWords args .none
  match rest with
  | some (verb, words) =>
    let behind ← commandWords verb words .none
    let command ← command? verb behind
    let front ← front.settle
    let given := behind.given ++ front.given
    return {
      command := command
      format := if given.lookup .format = some "json" then .json else .text
      verbose := (given.lookup .verbose).isSome }
  | .none =>
    let front ← front.settle
    throw (if front.given.isEmpty then .displayHelpOnMissing else .missingSubcommand)

end Scorecard.CommandLine

import Scorecard.Program

/-!
# The command line

Runs the program on the files of the working directory. Results go to standard output, messages to
standard error; a failure exits with 1 and a usage error with 2.
-/

open Scorecard

/-- What an error of the system says about a path. -/
def faultOf : IO.Error → PathFault
  | .inappropriateType _ code _ => if code = 20 then .noDirectory else .directory
  | .invalidArgument _ _ _ => .tooLong
  | _ => .missing

/-- The text of a file, or why there is none. -/
def readFile (name : String) : IO (Except PathFault String) := do
  try
    return .ok (← IO.FS.readFile name)
  catch e => return .error (faultOf e)

/-- The files that a command names. -/
def filesOf : CommandLine.Command → List String
  | .migrate file _ source => file :: source.optionsFile.toList
  | .compare updated old source => updated :: old :: source.optionsFile.toList
  | .diff base head => [base, head]

def main (args : List String) : IO UInt32 := do
  let names := match CommandLine.parse args with
    | .ok i => filesOf i.command
    | .error _ => []
  let texts ← names.mapM fun name => do return (name, ← readFile name)
  let files : Files := fun name => (texts.lookup name).getD (.error .missing)
  match Program.run files false args with
  | .printed text =>
    IO.print text
    return 0
  | .usage e =>
    IO.eprintln e.name
    return 2
  | .failed chain =>
    IO.eprintln (": ".intercalate chain)
    return 1

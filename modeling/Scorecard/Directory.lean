/-!
# A working directory

The files that a program can read, by their names, and how a path leads to one of them. A path is a
sequence of names between slashes. Empty names and single points stay where they are, which has to
be a directory; two points lead to the directory around. Of what lies outside of the working
directory nothing is known but the directories around it.
-/

namespace Scorecard

/-- Why a path leads to no text. -/
inductive PathFault where
  | missing
  | noDirectory
  | directory
  | tooLong
  | zero
  deriving DecidableEq

/-- The wording of a fault. -/
def PathFault.message : PathFault → String
  | missing => "No such file or directory (os error 2)"
  | noDirectory => "Not a directory (os error 20)"
  | directory => "Is a directory (os error 21)"
  | tooLong => "File name too long (os error 36)"
  | zero => "file name contained an unexpected NUL byte"

/-- The texts of the files, each under the names that lead to it. -/
structure Directory where
  files : List (List String × String)

namespace Directory

/-- The parts between slashes, at least one. -/
def betweenSlashes : List Char → List (List Char)
  | [] => [[]]
  | c :: cs =>
    if c = '/' then [] :: betweenSlashes cs
    else
      match betweenSlashes cs with
      | part :: parts => (c :: part) :: parts
      | [] => [[c]]

/-- The names of a path. -/
def names (path : String) : List String := (betweenSlashes path.toList).map String.ofList

/-- The names that lead somewhere. -/
def steps (path : String) : List String := (names path).filter fun n => n ≠ "" && n ≠ "."

/-- The directory of files with these paths. -/
def ofFiles (files : List (String × String)) : Directory :=
  ⟨files.map fun f => (steps f.1, f.2)⟩

/-- The text of the file that names lead to. -/
def text? (d : Directory) (place : List String) : Option String := d.files.lookup place

/-- The names lead to a directory, that is, to the working directory or to where a file lies. -/
def isDirectory (d : Directory) (place : List String) : Bool :=
  place.isEmpty || d.files.any fun f => place.isPrefixOf f.1 && place != f.1

/-- The greatest number of octets of a name. -/
def longestName : Nat := 255

/-- The least number of octets that a path does not have. -/
def pathLimit : Nat := 4096

/-- Where a path leads from a place: outside by a number of directories, or inside along names. -/
inductive Place where
  | outside (above : Nat)
  | inside (place : List String)
  deriving DecidableEq

/-- One name further. -/
def step (d : Directory) (name : String) : Place → Except PathFault Place
  | .outside above =>
    if name = "" ∨ name = "." then .ok (.outside above)
    else if name = ".." then .ok (.outside (above + 1))
    else .error (if longestName < name.utf8ByteSize then .tooLong else .missing)
  | .inside place =>
    if !d.isDirectory place then .error .noDirectory
    else if name = "" ∨ name = "." then .ok (.inside place)
    else if name = ".." then
      .ok (if place.isEmpty then .outside 0 else .inside place.dropLast)
    else if longestName < name.utf8ByteSize then .error .tooLong
    else
      let further := place ++ [name]
      if d.isDirectory further || (d.text? further).isSome then .ok (.inside further)
      else .error .missing

/-- Where a path leads. -/
def follow (d : Directory) (path : String) : Except PathFault Place :=
  if path = "" then .error .missing
  else if pathLimit ≤ path.utf8ByteSize then .error .tooLong
  else
    let start : Place := if path.toList.head? = some '/' then .outside 0 else .inside []
    (names path).foldlM (fun place name => d.step name place) start

/-- The text of the file that a path leads to. -/
def read (d : Directory) (path : String) : Except PathFault String := do
  if path.toList.contains (Char.ofNat 0) then throw .zero
  match ← d.follow path with
  | .outside _ => throw .directory
  | .inside place =>
    match d.text? place with
    | some text => return text
    | none => throw .directory

/-! A path may take detours, but none leads through a file. -/

example : ((ofFiles [("a", "x")]).read ".//a").toOption = some "x" := by decide +kernel
example : ((ofFiles [("a", "x")]).read "a/").toOption = none := by decide +kernel

end Directory
end Scorecard

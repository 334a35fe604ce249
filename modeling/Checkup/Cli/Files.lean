/-!
# Files

A directory with files in it, seen through the paths that a user can give.
-/

namespace Checkup.Cli

inductive SourceFault
  | missing
  | isDirectory
  | notDirectory
  | notText
  | other (reason : String)
deriving DecidableEq, Repr

def SourceFault.reason : SourceFault → String
  | missing => "No such file or directory (os error 2)"
  | isDirectory => "Is a directory (os error 21)"
  | notDirectory => "Not a directory (os error 20)"
  | notText => "stream did not contain valid UTF-8"
  | other reason => reason

/-- The names in a path; empty ones, between slashes that follow one another, do not count. -/
def pathNames (path : String) : List String :=
  ((path.toList.splitOn '/').map String.ofList).filter (· ≠ "")

/-- The parts of a path by which paths are compared: single dots do not count but at the start. -/
def pathParts (path : String) : List String :=
  match pathNames path with
  | [] => []
  | name :: names =>
    let names := names.filter (· ≠ ".")
    if name == "." && path.startsWith "/" then names else name :: names

/-- Whether the path means the standard input. -/
def isStandardInput (path : String) : Bool := !path.startsWith "/" && pathParts path == ["-"]

/-- The name of the file that a path leads to, if it ends in a name. -/
def fileName? (path : String) : Option String :=
  match (pathParts path).getLast? with
  | none => none
  | some name => if name == ".." || name == "." then none else some name

/-- The files below a directory, by the names on the way to them, and their contents. -/
structure Files where
  entries : List (List String × ByteArray) := []

namespace Files

def file? (files : Files) (place : List String) : Option ByteArray := files.entries.lookup place

def isDirectory (files : Files) (place : List String) : Bool :=
  place == [] || files.entries.any fun entry => place.isPrefixOf entry.1 && place ≠ entry.1

/-- Where the names of a path lead from a directory below the top, or how many directories above
it. -/
def walk (files : Files) : (above : Nat) → (place : List String) → List String →
    Except SourceFault (Nat × List String)
  | above, place, [] => .ok (above, place)
  | above, place, name :: names =>
    if (files.file? place).isSome then .error .notDirectory
    else if !files.isDirectory place then .error .missing
    else if name == "." then walk files above place names
    else if name == ".." then
      if place == [] then walk files (above + 1) [] names else walk files above place.dropLast names
    else if 0 < above then .error .missing
    else walk files above (place ++ [name]) names

def read (files : Files) (path : String) : Except SourceFault ByteArray := do
  let names := pathNames path
  if path.startsWith "/" then
    if names == [] then throw .isDirectory else throw .missing
  let (above, place) ← walk files 0 [] names
  if 0 < above then throw .isDirectory
  match files.file? place with
  | some contents => if path.endsWith "/" then throw .notDirectory else return contents
  | none => if files.isDirectory place then throw .isDirectory else throw .missing

end Files
end Checkup.Cli

import Checkup.Cli.Run

/-!
# The program

The command line program. It has no connection to the network, so that every link is reported as one
whose host cannot be reached.
-/

namespace Checkup.Cli

/-- The system's code for a file that stands where a directory should, which it gives with either
sign. -/
def notDirectoryCodes : List UInt32 := [20, -20]

/-- What an error of the system means for the file that was to be read. -/
def SourceFault.ofError : IO.Error → SourceFault
  | .noFileOrDirectory .. => missing
  | .inappropriateType _ code _ =>
    if notDirectoryCodes.contains code then notDirectory else isDirectory
  | error => other (toString error)

/-- The contents of a file, or why they cannot be read. -/
def contentsOf (path : String) : IO (Except SourceFault ByteArray) := do
  match ← (IO.FS.readBinFile path).toBaseIO with
  | .ok contents => return .ok contents
  | .error error => return .error (.ofError error)

/-- The variables that the program looks at, those that are set. -/
def environment : IO (List (String × String)) :=
  environmentNames.filterMapM fun name => do
    return (← IO.getEnv name).map fun value => (name, value)

def surroundings (environment : List (String × String)) (args : List String) :
    IO Surroundings := do
  let source := (readArguments environment false args).toOption.bind Command.source?
  let readsInput := source.any usesStandardInput
  let standardInput ← if readsInput then (← IO.getStdin).readBinToEnd else pure ByteArray.empty
  let contents ← match source with
    | some (some path) =>
      if readsInput then pure (.error .missing) else contentsOf path
    | _ => pure (.error .missing)
  return { contentsAt := fun _ => contents, standardInput, environment, network := .unreachable }

end Checkup.Cli

open Checkup.Cli in
def main (args : List String) : IO UInt32 := do
  let result := run (← surroundings (← environment) args) args
  IO.print result.output
  for line in result.errors do IO.eprintln line
  return result.exitCode.toUInt32

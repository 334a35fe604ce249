import Checkup.Cli.Arguments
import Checkup.Cli.Table
import Checkup.Json.Record

/-!
# Running a command

What a run of the program shows and with which exit code it ends, as a function of its arguments and
its surroundings.
-/

namespace Checkup.Cli

/-- What a run of the program can see. -/
structure Surroundings where
  contentsAt : String → Except SourceFault ByteArray
  standardInput : ByteArray
  environment : List (String × String)
  network : Network

/-- What a run of the program leaves: its exit code, what it shows, and its errors. -/
structure Run where
  exitCode : Nat
  output : String
  errors : List String
deriving DecidableEq, Repr

def versionText : String := "code-health 0.1.0"

/-- Nothing was found. -/
def exitClean : Nat := 0

/-- Something was found. -/
def exitFindings : Nat := 1

/-- The request was not carried out. -/
def exitError : Nat := 2

def ProbeLimits.config (limits : ProbeLimits) : Config :=
  (({} : Config).withBatchSize limits.batchSize).withProbeTimeout (1000 * limits.timeoutSeconds)

def usesStandardInput (path : Option String) : Bool := path.all isStandardInput

def readSource (around : Surroundings) (path : Option String) : Except SourceFault String := do
  let bytes ← match path with
    | some path =>
      if isStandardInput path then pure around.standardInput else around.contentsAt path
    | none => pure around.standardInput
  match String.fromUTF8? bytes with
  | some text => return text
  | none => throw .notText

/-- What the source is called in messages. -/
def sourceName (path : Option String) : String :=
  if usesStandardInput path then "stdin" else path.getD ""

/-- The name by which the language is told: the given one, or else the name of the file. -/
def filenameHint (path filename : Option String) : Option String :=
  filename.or ((path.filter (!isStandardInput ·)).bind fileName?)

def errorLine (message : String) : String := "Error: " ++ message

/-- The run that shows an outcome: as JSON, or as lines and an error message. -/
def showOutcome {α : Type} (json : Bool) (fields : α → List (String × Json))
    (lines : α → List String) (hasFindings : α → Bool) (outcome : Outcome α) : Run :=
  let output :=
    if json then (outcome.toJson fields).pretty ++ "\n"
    else match outcome with
      | .ok value => ofLines (lines value)
      | _ => ""
  match outcome with
  | .ok value =>
    { exitCode := if hasFindings value then exitFindings else exitClean, output, errors := [] }
  | .clientError message | .serverError message =>
    { exitCode := exitError, output, errors := if json then [] else [errorLine message] }

def Command.run (around : Surroundings) : Command → Run
  | analyze path filename language verifyLinks json limits =>
    match readSource around path with
    | .error fault =>
      { exitCode := exitError
        output := ""
        errors := [errorLine ("could not read " ++ sourceName path ++ ": " ++ fault.reason)] }
    | .ok code =>
      let engine : Engine := { config := limits.config, network := around.network }
      let request : Request :=
        { code, filename := filenameHint path filename, verifyLinks, language }
      showOutcome json Report.fields reportLines
        (fun report => 0 < report.summary.errors || 0 < report.summary.brokenLinks)
        (engine.analyzeOutcome request)
  | verify urls json limits =>
    let engine : Engine := { config := limits.config, network := around.network }
    showOutcome json LinkReport.fields linkReportLines (fun report => 0 < report.summary.broken)
      (engine.verifyOutcome urls)

/-- The run with these arguments. They are texts, so none of them is a path that is not UTF-8. -/
def run (around : Surroundings) (args : List String) : Run :=
  match readArguments around.environment false args with
  | .ok command => command.run around
  | .error .version => { exitCode := exitClean, output := versionText ++ "\n", errors := [] }
  | .error .help => { exitCode := exitClean, output := "", errors := [] }
  | .error .usage => { exitCode := exitError, output := "", errors := [] }

end Checkup.Cli

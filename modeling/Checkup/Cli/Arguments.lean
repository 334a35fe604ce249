import Checkup.Cli.Files
import Checkup.Language.Basic

/-!
# Arguments

What a user asks for on the command line. A command has options, which can stand before and behind
its other arguments; behind two hyphens nothing is an option.

An argument is a text here. A system can also have files whose paths are not UTF-8, and they can be
given on its command lines; commands with such a path are not described.
-/

namespace Checkup.Cli

/-- The limits on probes that a user can set. -/
structure ProbeLimits where
  timeoutSeconds : Nat
  batchSize : Nat
deriving DecidableEq, Repr

inductive Command
  | analyze (path filename : Option String) (language : Option Language) (verifyLinks json : Bool)
      (limits : ProbeLimits)
  | verify (urls : List String) (json : Bool) (limits : ProbeLimits)
deriving DecidableEq, Repr

/-- The source that a command is about, if it has one: a path, or none for the standard input. -/
def Command.source? : Command → Option (Option String)
  | analyze path .. => some path
  | verify .. => none

/-- Why no command is carried out: the user asked about the program, or the arguments make no
command. -/
inductive Stop
  | usage
  | help
  | version
deriving DecidableEq, Repr

/-- A number below `2 ^ 64`, in decimal digits, which a plus sign can precede. -/
def readNumber? (text : String) : Option Nat :=
  let digits := match text.toList with
    | '+' :: cs => cs
    | cs => cs
  let value := digits.foldl (fun n c => 10 * n + (c.toNat - 48)) 0
  if digits ≠ [] && digits.all Char.isDigit && value < Nat.pow 2 64 then some value else none

/-- The options of a command: those with a value, what the value has to be, and those without; and
how many other arguments there can be and what they have to be. -/
structure Options where
  valued : List (String × (String → Bool))
  flags : List String
  most : Option Nat
  accepts : String → Bool

def timeoutVariable : String := "CODE_HEALTH_PROBE_TIMEOUT_SECS"

def batchSizeVariable : String := "CODE_HEALTH_BATCH_SIZE"

/-- The environment variables that stand in for options. -/
def environmentNames : List String := [timeoutVariable, batchSizeVariable]

def anyText (_ : String) : Bool := true

def probeOptions : List (String × (String → Bool)) :=
  [("timeout-secs", fun text => (readNumber? text).isSome),
    ("batch-size", fun text => (readNumber? text).isSome)]

def analyzeOptions : Options where
  valued := [("filename", anyText), ("language", fun text => (Language.parse? text).isSome)] ++
    probeOptions
  flags := ["verify-links", "json", "verbose"]
  most := some 1
  accepts := (· ≠ "")

def verifyOptions : Options where
  valued := probeOptions
  flags := ["json", "verbose"]
  most := none
  accepts := anyText

/-- The arguments of a command that have been read, the last first. -/
structure Given where
  values : List (String × String) := []
  flags : List String := []
  others : List String := []
deriving DecidableEq, Repr

namespace Given

/-- Adds the value of an option; there may be only one. -/
def addValue (given : Given) (options : Options) (name value : String) : Except Stop Given :=
  if (given.values.lookup name).isSome then .error .usage
  else if (options.valued.lookup name).any (· value) then
    .ok { given with values := (name, value) :: given.values }
  else .error .usage

/-- Adds an option without a value; it may be given only once. -/
def addFlag (given : Given) (name : String) : Except Stop Given :=
  if given.flags.contains name then .error .usage
  else .ok { given with flags := name :: given.flags }

def addOther (given : Given) (options : Options) (text : String) : Except Stop Given :=
  if options.most.any (· ≤ given.others.length) || !options.accepts text then .error .usage
  else .ok { given with others := text :: given.others }

def addLetters (given : Given) : List Char → Except Stop Given
  | [] => .ok given
  | 'v' :: cs => do (← given.addFlag "verbose").addLetters cs
  | 'h' :: _ => .error .help
  | _ => .error .usage

/-- Whether an argument has the form of an option, or is the two hyphens. -/
def looksLikeOption (text : String) : Bool := text.startsWith "-" && text ≠ "-"

/-- Reads the arguments of a command; `awaiting` is the option whose value comes next. -/
def read (options : Options) : (awaiting : Option String) → Given → List String →
    Except Stop Given
  | none, given, [] => .ok given
  | some _, _, [] => .error .usage
  | some name, given, value :: args =>
    if looksLikeOption value then .error .usage
    else do read options none (← given.addValue options name value) args
  | none, given, arg :: args =>
    match arg.toList with
    | ['-', '-'] => args.foldlM (fun given text => given.addOther options text) given
    | '-' :: '-' :: long =>
      let name := String.ofList (long.takeWhile (· ≠ '='))
      let attached := (long.dropWhile (· ≠ '=')).tail?.map String.ofList
      if (options.valued.lookup name).isSome then
        match attached with
        | some value => do read options none (← given.addValue options name value) args
        | none => read options (some name) given args
      else if attached.isSome then .error .usage
      else if name == "help" then .error .help
      else if options.flags.contains name then do read options none (← given.addFlag name) args
      else .error .usage
    | '-' :: c :: letters => do read options none (← given.addLetters (c :: letters)) args
    | _ => do read options none (← given.addOther options arg) args

/-- A limit: as given, or else from the environment, or else its default. -/
def number (given : Given) (environment : List (String × String)) (name fromEnvironment : String)
    (default : Nat) : Except Stop Nat :=
  match (given.values.lookup name).or (environment.lookup fromEnvironment) with
  | none => .ok default
  | some text => match readNumber? text with
    | some n => .ok n
    | none => .error .usage

def limits (given : Given) (environment : List (String × String)) : Except Stop ProbeLimits := do
  let timeoutSeconds ← given.number environment "timeout-secs" timeoutVariable 5
  let batchSize ← given.number environment "batch-size" batchSizeVariable 5
  return { timeoutSeconds, batchSize }

end Given

def commandNames : List String := ["analyze", "verify", "help"]

/-- Reads a command from the arguments that follow its name. -/
def readCommand (environment : List (String × String)) (name : String) (args : List String) :
    Except Stop Command :=
  if name == "analyze" then do
    let given ← Given.read analyzeOptions none {} args
    let limits ← given.limits environment
    return .analyze given.others.head? (given.values.lookup "filename")
      ((given.values.lookup "language").bind Language.parse?)
      (given.flags.contains "verify-links") (given.flags.contains "json") limits
  else if name == "verify" then do
    let given ← Given.read verifyOptions none {} args
    if given.others = [] then throw .usage
    let limits ← given.limits environment
    return .verify given.others.reverse (given.flags.contains "json") limits
  else if args.all commandNames.contains then .error .help
  else .error .usage

/-- Reads the letters of an argument before the name of a command; `verbose` tells whether that
option was given. -/
def readLetters : (verbose : Bool) → List Char → Except Stop Bool
  | verbose, [] => .ok verbose
  | verbose, 'v' :: cs => if verbose then .error .usage else readLetters true cs
  | _, 'h' :: _ => .error .help
  | _, 'V' :: _ => .error .version
  | _, _ => .error .usage

/-- Reads the whole command line, up to the name of the command and from there on. -/
def readArguments (environment : List (String × String)) : (verbose : Bool) → List String →
    Except Stop Command
  | _, [] => .error .usage
  | verbose, arg :: args =>
    if commandNames.contains arg then readCommand environment arg args
    else if arg == "--verbose" then
      if verbose then .error .usage else readArguments environment true args
    else if arg == "--help" then .error .help
    else if arg == "--version" then .error .version
    else match arg.toList with
      | '-' :: c :: letters =>
        if c == '-' then .error .usage
        else do readArguments environment (← readLetters verbose (c :: letters)) args
      | _ => .error .usage

end Checkup.Cli

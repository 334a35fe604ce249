import Checkup.Language.Classify
import Checkup.Link.Mention
import Checkup.Link.Probe
import Checkup.Metrics
import Checkup.Refusal
import Checkup.Score

/-!
# Reports

A request for a report on a text, and the report: the language of the text, its findings, its
metrics, the links it mentions, if they are asked for, and a summary.
-/

namespace Checkup

/-- What a report is asked for. A given language is not classified. -/
structure Request where
  code : String
  filename : Option String := none
  verifyLinks : Bool := false
  language : Option Language := none
deriving DecidableEq, Repr

structure Report where
  language : Language
  issues : List Finding
  metrics : Metrics
  links : List LinkResult
  summary : Summary
deriving DecidableEq, Repr

structure Engine where
  catalog : Catalog := .builtin
  config : Config := {}
  network : Network

def Request.validate (request : Request) (maxCodeChars : Nat) : Except Refusal Unit :=
  let length := request.code.length
  if length = 0 then .error .emptyCode
  else if maxCodeChars < length then .error (.codeTooLong length maxCodeChars)
  else .ok ()

/-- The language that a text is taken to be in. -/
def Request.resolvedLanguage (request : Request) : Language :=
  request.language.getD (.classify request.code request.filename)

namespace Engine

/-- The results of the links that a text mentions, if they are asked for. -/
def links (engine : Engine) (request : Request) : List LinkResult :=
  if request.verifyLinks then engine.network.verify engine.config (Mention.urls request.code)
  else []

/-- The report on a text whose limits are kept. -/
def report (engine : Engine) (request : Request) : Report :=
  let language := request.resolvedLanguage
  let issues := Finding.scan engine.catalog request.code language
  let links := engine.links request
  { language, issues, metrics := .measure request.code, links, summary := .of issues links }

def analyze (engine : Engine) (request : Request) : Except Refusal Report := do
  request.validate engine.config.maxCodeChars
  return engine.report request

end Engine

/-- How many links there are, and how many of them work and do not. -/
structure LinkSummary where
  total : Nat
  working : Nat
  broken : Nat
deriving DecidableEq, Repr

structure LinkReport where
  results : List LinkResult
  summary : LinkSummary
deriving DecidableEq, Repr

def LinkReport.of (results : List LinkResult) : LinkReport :=
  let working := results.countP (·.ok)
  { results
    summary := { total := results.length, working, broken := results.length - working } }

def validateUrls (urls : List String) (max : Nat) : Except Refusal Unit :=
  if urls = [] then .error .noUrls
  else if max < urls.length then .error (.tooManyUrls urls.length max)
  else .ok ()

def Engine.verifyLinks (engine : Engine) (urls : List String) : Except Refusal LinkReport := do
  validateUrls urls engine.config.maxVerifyUrls
  return .of (engine.network.verify engine.config urls)

/-- How a request ends for the one who asked. -/
inductive Outcome (α : Type)
  | ok (value : α)
  | clientError (message : String)
  | serverError (message : String)
deriving DecidableEq, Repr

/-- All that is told about what went wrong inside. -/
def genericMessage : String := "Analysis failed due to an internal error"

def Outcome.of {α : Type} : Except Refusal α → Outcome α
  | .ok value => .ok value
  | .error refusal =>
    if refusal.isClientError then .clientError refusal.message else .serverError genericMessage

namespace Engine

def analyzeOutcome (engine : Engine) (request : Request) : Outcome Report :=
  .of (engine.analyze request)

def verifyOutcome (engine : Engine) (urls : List String) : Outcome LinkReport :=
  .of (engine.verifyLinks urls)

end Engine
end Checkup

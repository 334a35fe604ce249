import Checkup.Report

/-!
# Tables

Reports as they are shown to a user.
-/

namespace Checkup.Cli

/-- A text with blanks behind it up to a width in characters. -/
def pad (width : Nat) (text : String) : String :=
  text ++ String.ofList (List.replicate (width - text.length) ' ')

/-- The line below the head of a table. -/
def rule : String := String.ofList (List.replicate 90 '=')

/-- How a severity is shown. -/
def severityLabel : Severity → String
  | .error => "❌ error"
  | .warning => "⚠️  warn"
  | .info => "ℹ️  info"

/-- How a rating is shown. -/
def ratingIcon : Rating → String
  | .excellent => "🟢"
  | .good => "🟡"
  | .needsImprovement => "🟠"
  | .poor => "🔴"

/-- An address, cut where it is too long to be shown. -/
def shownUrl (url : String) : String :=
  if 57 < url.length then String.ofList (url.toList.take 57) ++ "..." else url

/-- What is shown about a link besides whether it works. -/
def linkDetail (result : LinkResult) : String :=
  match result.status, result.error with
  | some status, _ => "HTTP " ++ toString status
  | none, some reason => reason
  | none, none => ""

/-- A link in its table. -/
def linkLine (result : LinkResult) : String :=
  pad 60 (shownUrl result.url) ++ " " ++ pad 10 (if result.ok then "✅ OK" else "❌ BROKEN") ++ " " ++
    pad 20 (linkDetail result)

/-- The table of links. -/
def linkLines (results : List LinkResult) : List String :=
  [pad 60 "URL" ++ " " ++ pad 10 "STATUS" ++ " " ++ pad 20 "DETAIL", rule] ++
    results.map linkLine ++ [""]

/-- A finding in its table. -/
def findingLine (finding : Finding) : String :=
  pad 10 (toString finding.line ++ ":" ++ toString finding.column) ++ " " ++
    pad 10 (severityLabel finding.severity) ++ " " ++ pad 24 finding.ruleId ++ " " ++
    finding.message

/-- The table of findings. -/
def findingLines (findings : List Finding) : List String :=
  if findings = [] then ["✅ No issues found"]
  else
    [pad 10 "LOCATION" ++ " " ++ pad 10 "SEVERITY" ++ " " ++ pad 24 "RULE" ++ " MESSAGE", rule] ++
      findings.map findingLine

/-- A report on a text. -/
def reportLines (report : Report) : List String :=
  let summary := report.summary
  let metrics := report.metrics
  ["🔍 Language: " ++ report.language.name,
    ratingIcon summary.rating ++ " Score: " ++ summary.score.brief ++ " / 100 (" ++
      summary.rating.name ++ ")",
    ""] ++
  findingLines report.issues ++
  ["",
    "📏 Metrics:",
    "   Lines: " ++ toString metrics.lineCount ++ "  Characters: " ++
      toString metrics.characterCount ++ "  Words: " ++ toString metrics.wordCount,
    "   Functions (approx.): " ++ toString metrics.functionCount ++ "  Comments: " ++
      toString metrics.commentCount,
    ""] ++
  (if report.links = [] then [] else linkLines report.links) ++
  ["📊 Summary:",
    "   ❌ Errors: " ++ toString summary.errors,
    "   ⚠️  Warnings: " ++ toString summary.warnings,
    "   ℹ️  Info: " ++ toString summary.info] ++
  (if 0 < summary.totalLinks then
    ["   🔗 Broken links: " ++ toString summary.brokenLinks ++ " of " ++ toString summary.totalLinks]
  else [])

/-- A report on a list of links. -/
def linkReportLines (report : LinkReport) : List String :=
  linkLines report.results ++
  ["📊 Summary:",
    "   ✅ Working: " ++ toString report.summary.working,
    "   ❌ Broken: " ++ toString report.summary.broken,
    "   📋 Total: " ++ toString report.summary.total]

/-- Lines as a text. -/
def ofLines (lines : List String) : String := String.join (lines.map (· ++ "\n"))

end Checkup.Cli

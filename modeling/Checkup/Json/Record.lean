import Checkup.Json.Decode
import Checkup.Report

/-!
# Requests and reports as JSON

For each kind of record a way to write it and a way to read it.
-/

namespace Checkup
open Json (Mistake Reader Shape readString readBool readCount readStatus readDouble readOption
  readList check)

namespace Language

def toJson (language : Language) : Json := .string language.name

def ofJson : Reader Language := Json.readName all name

end Language

namespace Severity

def toJson (severity : Severity) : Json := .string severity.name

def ofJson : Reader Severity := Json.readName all name

end Severity

namespace Rating

def toJson (rating : Rating) : Json := .string rating.name

def ofJson : Reader Rating := Json.readName all name

end Rating

namespace Finding

def toJson (finding : Finding) : Json :=
  .object [("line", Json.count finding.line), ("column", Json.count finding.column),
    ("message", .string finding.message), ("severity", finding.severity.toJson),
    ("ruleId", .string finding.ruleId)]

def shape : Shape where
  name := "Issue"
  checks := [("line", check readCount), ("column", check readCount), ("message", check readString),
    ("severity", check Severity.ofJson), ("ruleId", check readString)]

def ofJson : Reader Finding := fun json => do
  let fields ← shape.open json
  let line ← fields.get shape 0 "line" readCount
  let column ← fields.get shape 1 "column" readCount
  let message ← fields.get shape 2 "message" readString
  let severity ← fields.get shape 3 "severity" Severity.ofJson
  let ruleId ← fields.get shape 4 "ruleId" readString
  fields.close shape
  return { line, column, message, severity, ruleId }

end Finding

namespace Metrics

def toJson (metrics : Metrics) : Json :=
  .object [("lineCount", Json.count metrics.lineCount),
    ("characterCount", Json.count metrics.characterCount),
    ("wordCount", Json.count metrics.wordCount),
    ("functionCount", Json.count metrics.functionCount),
    ("commentCount", Json.count metrics.commentCount)]

def shape : Shape where
  name := "Metrics"
  checks := [("lineCount", check readCount), ("characterCount", check readCount),
    ("wordCount", check readCount), ("functionCount", check readCount),
    ("commentCount", check readCount)]

def ofJson : Reader Metrics := fun json => do
  let fields ← shape.open json
  let lineCount ← fields.get shape 0 "lineCount" readCount
  let characterCount ← fields.get shape 1 "characterCount" readCount
  let wordCount ← fields.get shape 2 "wordCount" readCount
  let functionCount ← fields.get shape 3 "functionCount" readCount
  let commentCount ← fields.get shape 4 "commentCount" readCount
  fields.close shape
  return { lineCount, characterCount, wordCount, functionCount, commentCount }

end Metrics

namespace LinkResult

def toJson (result : LinkResult) : Json :=
  .object [("url", .string result.url), ("status", Json.nullable Json.count result.status),
    ("ok", .bool result.ok), ("error", Json.nullable .string result.error)]

def shape : Shape where
  name := "LinkResult"
  checks := [("url", check readString), ("status", check (readOption readStatus)),
    ("ok", check readBool), ("error", check (readOption readString))]

def ofJson : Reader LinkResult := fun json => do
  let fields ← shape.open json
  let url ← fields.get shape 0 "url" readString
  let status ← fields.getD shape 1 "status" (readOption readStatus) none false
  let ok ← fields.get shape 2 "ok" readBool
  let error ← fields.getD shape 3 "error" (readOption readString) none false
  fields.close shape
  return { url, status, ok, error }

end LinkResult

namespace Summary

def toJson (summary : Summary) : Json :=
  .object [("score", Json.number summary.score), ("total", Json.count summary.total),
    ("errors", Json.count summary.errors), ("warnings", Json.count summary.warnings),
    ("info", Json.count summary.info), ("rating", summary.rating.toJson),
    ("brokenLinks", Json.count summary.brokenLinks), ("totalLinks", Json.count summary.totalLinks)]

def shape : Shape where
  name := "Summary"
  checks := [("score", check readDouble), ("total", check readCount), ("errors", check readCount),
    ("warnings", check readCount), ("info", check readCount), ("rating", check Rating.ofJson),
    ("brokenLinks", check readCount), ("totalLinks", check readCount)]

def ofJson : Reader Summary := fun json => do
  let fields ← shape.open json
  let score ← fields.get shape 0 "score" readDouble
  let total ← fields.get shape 1 "total" readCount
  let errors ← fields.get shape 2 "errors" readCount
  let warnings ← fields.get shape 3 "warnings" readCount
  let info ← fields.get shape 4 "info" readCount
  let rating ← fields.get shape 5 "rating" Rating.ofJson
  let brokenLinks ← fields.get shape 6 "brokenLinks" readCount
  let totalLinks ← fields.get shape 7 "totalLinks" readCount
  fields.close shape
  return { score, total, errors, warnings, info, rating, brokenLinks, totalLinks }

end Summary

namespace Report

/-- The fields of a report. -/
def fields (report : Report) : List (String × Json) :=
  [("language", report.language.toJson), ("issues", .array (report.issues.map Finding.toJson)),
    ("metrics", report.metrics.toJson), ("links", .array (report.links.map LinkResult.toJson)),
    ("summary", report.summary.toJson)]

def toJson (report : Report) : Json := .object report.fields

def shape : Shape where
  name := "Report"
  checks := [("language", check Language.ofJson), ("issues", check (readList Finding.ofJson)),
    ("metrics", check Metrics.ofJson), ("links", check (readList LinkResult.ofJson)),
    ("summary", check Summary.ofJson)]

def ofJson : Reader Report := fun json => do
  let fields ← shape.open json
  let language ← fields.get shape 0 "language" Language.ofJson
  let issues ← fields.get shape 1 "issues" (readList Finding.ofJson)
  let metrics ← fields.get shape 2 "metrics" Metrics.ofJson
  let links ← fields.get shape 3 "links" (readList LinkResult.ofJson)
  let summary ← fields.get shape 4 "summary" Summary.ofJson
  fields.close shape
  return { language, issues, metrics, links, summary }

end Report

namespace Request

def toJson (request : Request) : Json :=
  .object [("code", .string request.code), ("filename", Json.nullable .string request.filename),
    ("verifyLinks", .bool request.verifyLinks),
    ("language", Json.nullable Language.toJson request.language)]

def shape : Shape where
  name := "AnalysisRequest"
  checks := [("code", check readString), ("filename", check (readOption readString)),
    ("verifyLinks", check readBool), ("language", check (readOption Language.ofJson))]

def ofJson : Reader Request := fun json => do
  let fields ← shape.open json
  let code ← fields.get shape 0 "code" readString
  let filename ← fields.getD shape 1 "filename" (readOption readString) none true
  let verifyLinks ← fields.getD shape 2 "verifyLinks" readBool false true
  let language ← fields.getD shape 3 "language" (readOption Language.ofJson) none true
  fields.close shape
  return { code, filename, verifyLinks, language }

end Request

namespace LinkReport

/-- The fields of a report on links. -/
def fields (report : LinkReport) : List (String × Json) :=
  [("results", .array (report.results.map LinkResult.toJson)),
    ("summary", .object [("total", Json.count report.summary.total),
      ("working", Json.count report.summary.working),
      ("broken", Json.count report.summary.broken)])]

def toJson (report : LinkReport) : Json := .object report.fields

end LinkReport

namespace Outcome

/-- An outcome as JSON: its kind, and the fields of the value or the message. -/
def toJson {α : Type} (fields : α → List (String × Json)) : Outcome α → Json
  | ok value => .object (("outcome", .string "ok") :: fields value)
  | clientError message =>
    .object [("outcome", .string "client_error"), ("message", .string message)]
  | serverError message =>
    .object [("outcome", .string "server_error"), ("message", .string message)]

end Outcome
end Checkup

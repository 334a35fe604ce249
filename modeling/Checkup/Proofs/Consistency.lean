import Checkup.Proofs.Concatenation
import Checkup.Proofs.Separation

/-!
# Consistency of reports

The parts of a report are computed apart from one another, and agree: the findings stand in the
lines and columns of the text, the summary counts the findings and the links that the report has,
and a report on links alone counts them in the same way.
-/

namespace Checkup

/-- The finding stands in a line of the text or right behind it, and says what one of the rules
says. -/
structure Finding.StandsIn (finding : Finding) (code : String) (rules : List Rule) : Prop where
  line_pos : 1 ≤ finding.line
  column_pos : 1 ≤ finding.column
  column_le : ∃ line, (Text.strippedPieces code.toList)[finding.line - 1]? = some line ∧
    finding.column ≤ line.length + 1
  said : ∃ rule ∈ rules, finding.ruleId = rule.id ∧ finding.message = rule.message ∧
    finding.severity = rule.severity

/-- The summary counts these findings and links. -/
structure Summary.Counts (summary : Summary) (findings : List Finding) (links : List LinkResult) :
    Prop where
  errors : summary.errors = (findings.filter (·.severity = .error)).length
  warnings : summary.warnings = (findings.filter (·.severity = .warning)).length
  info : summary.info = (findings.filter (·.severity = .info)).length
  sum : summary.errors + summary.warnings + summary.info = summary.total
  total : summary.total = findings.length
  score : summary.score = qualityScore summary.errors summary.warnings summary.info
  rating : summary.rating = .ofScore summary.score
  totalLinks : summary.totalLinks = links.length
  brokenLinks : summary.brokenLinks = (links.filter (·.ok = false)).length

/-- The report fits the request and the limit on its text, and its parts fit one another. -/
structure Report.Consistent (report : Report) (request : Request) (catalog : Catalog)
    (config : Config) : Prop where
  language : report.language = request.resolvedLanguage
  characters_pos : 1 ≤ report.metrics.characterCount
  characters_le : report.metrics.characterCount ≤ config.maxCodeChars
  line_le : ∀ issue ∈ report.issues, issue.line ≤ report.metrics.lineCount
  standsIn : ∀ issue ∈ report.issues,
    issue.StandsIn request.code (catalog.rulesFor report.language)
  sorted : report.issues.Pairwise fun a b => a.severity.rank ≤ b.severity.rank
  counts : report.summary.Counts report.issues report.links

/-- The report on links counts as a summary does, and what works and what does not make up all. -/
structure LinkReport.AgreesWith (report : LinkReport) (summary : Summary) : Prop where
  total : report.summary.total = summary.totalLinks
  broken : report.summary.broken = summary.brokenLinks
  working : report.summary.working = summary.totalLinks - summary.brokenLinks
  broken_le : summary.brokenLinks ≤ summary.totalLinks
  sum : report.summary.working + report.summary.broken = report.summary.total

variable {catalog : Catalog} {code : String} {language : Language} {finding : Finding}

namespace Finding

lemma standsIn_of_mem_scan (h : finding ∈ scan catalog code language) :
    finding.StandsIn code (catalog.rulesFor language) := by
  obtain ⟨k, line, hline, rule, hrule, -, m, hm, rfl⟩ := mem_scan_iff.mp h
  rw [Pattern.matchesIn_eq] at hm
  obtain ⟨hanchor, -, hstop, hlen⟩ := Match.shownAt_le hm
  constructor
  · exact Nat.le_add_left 1 k
  · exact Nat.le_add_left 1 _
  · refine ⟨line, hline, ?_⟩
    simp only [Rule.report]
    omega
  · exact ⟨rule, hrule, rfl, rfl, rfl⟩

/-- The metrics count as many lines as a scan goes through. -/
lemma line_le_of_mem_scan (h : finding ∈ scan catalog code language) :
    finding.line ≤ (Metrics.measure code).lineCount := by
  have hstands := standsIn_of_mem_scan h
  have hpos := hstands.line_pos
  obtain ⟨line, hget, -⟩ := hstands.column_le
  have hlt := (List.getElem?_eq_some_iff.mp hget).1
  rw [Text.length_strippedPieces] at hlt
  simp only [Metrics.measure, Text.pieces_eq_splitOn]
  omega

end Finding

lemma Summary.counts_of (findings : List Finding) (links : List LinkResult) :
    (Summary.of findings links).Counts findings links := by
  have hcount (severity : Severity) :
      Summary.count findings severity = (findings.filter (·.severity = severity)).length :=
    List.countP_eq_length_filter
  have hbroken : Summary.broken links = (links.filter (·.ok = false)).length := by
    rw [Summary.broken, List.countP_eq_length_filter]
    simp only [Bool.decide_eq_false]
  constructor
  · exact hcount .error
  · exact hcount .warning
  · exact hcount .info
  · exact (Finding.length_eq_add_count findings).symm
  · rfl
  · rfl
  · rfl
  · rfl
  · exact hbroken

lemma Summary.broken_add_working (links : List LinkResult) :
    Summary.broken links + links.countP (·.ok) = links.length := by
  have hsplit := List.length_eq_countP_add_countP LinkResult.ok (l := links)
  simp only [Bool.not_eq_true, Bool.decide_eq_false] at hsplit
  rw [Summary.broken, hsplit, Nat.add_comm]

lemma LinkReport.of_agreesWith (findings : List Finding) (results : List LinkResult) :
    (LinkReport.of results).AgreesWith (Summary.of findings results) := by
  have hsum := Summary.broken_add_working results
  constructor <;> simp only [LinkReport.of, Summary.of] <;> omega

namespace Engine

/-- A report that is given fits the request and the limits, and its parts fit one another. Every
list of results is counted alike in a report on a text and in a report on links alone. -/
theorem analyze_consistent (engine : Engine) (request : Request) (report : Report)
    (h : engine.analyze request = .ok report) :
    report.Consistent request engine.catalog engine.config ∧
      ∀ (findings : List Finding) (results : List LinkResult),
        (LinkReport.of results).results = results ∧
          (LinkReport.of results).AgreesWith (Summary.of findings results) := by
  have haccepted : ¬request.Refused engine.config := by
    intro hrefused
    obtain ⟨message, hmessage⟩ :=
      (analyzeOutcome_decides engine request).clientError_iff.mpr hrefused
    rw [analyzeOutcome, h, Outcome.of] at hmessage
    exact absurd hmessage (by simp)
  obtain ⟨hne, hlimit⟩ := not_or.mp haccepted
  obtain rfl := eq_report_of_analyze h
  have hlength : request.code.length ≠ 0 := fun hzero => hne (String.length_eq_zero_iff.mp hzero)
  refine ⟨?_, fun findings results => ⟨rfl, LinkReport.of_agreesWith findings results⟩⟩
  constructor
  · rfl
  · simp only [Engine.report, Metrics.measure, String.length_toList]
    omega
  · simp only [Engine.report, Metrics.measure, String.length_toList]
    omega
  · exact fun issue hissue => Finding.line_le_of_mem_scan hissue
  · exact fun issue hissue => Finding.standsIn_of_mem_scan hissue
  · exact Finding.sort_pairwise _
  · exact Summary.counts_of _ _

theorem analyze_consistent_error :
    let engine : Engine := { network := .unreachable }
    let request : Request :=
      { code := "const f = 1\r\n  eval(f) // http://a", verifyLinks := true
        language := some .json }
    engine.analyze request = .ok (engine.report request) ∧
      (engine.report request).Consistent request .builtin {} ∧
      (engine.report request).issues =
        [⟨2, 3, "Avoid eval(): it executes arbitrary code", .error, "no-eval"⟩] ∧
      (engine.report request).summary.brokenLinks = 1 := by
  intro engine request
  have haccepted : engine.analyze request = .ok (engine.report request) := by
    have hlimits : ¬(request.code = "" ∨ 100000 < request.code.length) := by decide
    exact analyze_of_not_refused hlimits
  exact ⟨haccepted, (analyze_consistent engine request _ haccepted).1, by decide +kernel,
    by decide +kernel⟩

end Engine
end Checkup

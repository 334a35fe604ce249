import Checkup.Proofs.Boundary
import Checkup.Proofs.Order

/-!
# Separation of links from the analysis

Two reports on one text in one language differ in their links at most: neither the network nor
whether the links are verified reaches the findings, the metrics or the score. The links themselves
are the addresses that the text mentions, each verified once.
-/

namespace Checkup

/-- The reports agree on all but the links. -/
structure Report.AgreeBesidesLinks (report report' : Report) : Prop where
  language : report.language = report'.language
  issues : report.issues = report'.issues
  metrics : report.metrics = report'.metrics
  score : report.summary.score = report'.summary.score
  rating : report.summary.rating = report'.summary.rating
  total : report.summary.total = report'.summary.total
  errors : report.summary.errors = report'.summary.errors
  warnings : report.summary.warnings = report'.summary.warnings
  info : report.summary.info = report'.summary.info

/-- The report has the links that the request asks for: none, or one result for each address that
the text mentions. -/
structure Report.LinksFit (report : Report) (request : Request) : Prop where
  skipped : request.verifyLinks = false →
    report.links = [] ∧ report.summary.totalLinks = 0 ∧ report.summary.brokenLinks = 0
  verified : request.verifyLinks = true →
    report.links.map (·.url) = Mention.urls request.code ∧
      report.links.length = (Mention.urls request.code).length ∧
      report.links.Pairwise fun link link' => link.url ≠ link'.url

namespace Engine

variable {engine engine' : Engine} {request request' : Request} {report report' : Report}

/-- A report that is given is the one on the text of the request. -/
lemma eq_report_of_analyze (h : engine.analyze request = .ok report) :
    report = engine.report request := by
  by_cases hrefused : request.Refused engine.config
  · have hclient := (analyzeOutcome_decides engine request).clientError_iff.mpr hrefused
    obtain ⟨message, hmessage⟩ := hclient
    rw [analyzeOutcome, h] at hmessage
    exact absurd hmessage (by simp [Outcome.of])
  · rw [analyze_of_not_refused hrefused, Except.ok.injEq] at h
    exact h.symm

lemma links_map_url (engine : Engine) (request : Request) (h : request.verifyLinks = true) :
    (engine.links request).map (·.url) = Mention.urls request.code := by
  rw [links, if_pos h, Network.verify_eq_map, List.map_map]
  calc (Mention.urls request.code).map ((·.url) ∘ engine.network.probe engine.config)
      _ = (Mention.urls request.code).map id :=
        List.map_congr_left fun url _ => Network.probe_url engine.network engine.config url
      _ = Mention.urls request.code := List.map_id _

lemma report_linksFit (engine : Engine) (request : Request) :
    (engine.report request).LinksFit request where
  skipped h := by
    have hlinks : engine.links request = [] := by
      rw [links, if_neg (by simp [h])]
    simp [Engine.report, Summary.of, Summary.broken, hlinks]
  verified h := by
    have hurls := engine.links_map_url request h
    have hnodup := Mention.urls_nodup request.code
    rw [← hurls] at hnodup
    exact ⟨hurls, by rw [← hurls, List.length_map]; rfl, List.pairwise_map.mp hnodup⟩

lemma report_agree (hcatalog : engine'.catalog = engine.catalog) (hcode : request'.code = request.code)
    (hlanguage : request'.resolvedLanguage = request.resolvedLanguage) :
    (engine'.report request').AgreeBesidesLinks (engine.report request) := by
  constructor <;> simp only [Engine.report, Summary.of, hcatalog, hcode, hlanguage]

/-- Two accepted requests for one text in one language have reports that agree besides the links,
whatever the networks answer and whether or not the links are verified. -/
theorem reports_agree_besides_links (catalog : Catalog) (config : Config)
    (network network' : Network) (request request' : Request) (report report' : Report)
    (h : Engine.analyze ⟨catalog, config, network⟩ request = .ok report)
    (h' : Engine.analyze ⟨catalog, config, network'⟩ request' = .ok report')
    (hcode : request.code = request'.code)
    (hlanguage : request.resolvedLanguage = request'.resolvedLanguage) :
    report.AgreeBesidesLinks report' ∧ report.LinksFit request ∧ report'.LinksFit request' := by
  obtain rfl := eq_report_of_analyze h
  obtain rfl := eq_report_of_analyze h'
  exact ⟨report_agree rfl hcode hlanguage, report_linksFit _ request, report_linksFit _ request'⟩

theorem reports_agree_besides_links_named :
    (Request.resolvedLanguage { code := "see http://a.test", filename := some "a.py", verifyLinks := true } =
        .python ∧
      Request.resolvedLanguage { code := "see http://a.test", language := some .python } = .python) ∧
    ∃ report report' : Report,
      Engine.analyze ⟨.builtin, {}, Script.network ⟨[("a.test", .hang)]⟩⟩
        { code := "see http://a.test", filename := some "a.py", verifyLinks := true } = .ok report ∧
      Engine.analyze ⟨.builtin, {}, .unreachable⟩
        { code := "see http://a.test", language := some .python } = .ok report' ∧
      report.AgreeBesidesLinks report' ∧
      report.links.map (·.url) = Mention.urls "see http://a.test" ∧ report'.links = [] := by
  have hnamed : Request.resolvedLanguage
      { code := "see http://a.test", filename := some "a.py", verifyLinks := true } = .python := by
    decide +kernel
  have haccepted (network : Network) (request : Request) (hcode : request.code = "see http://a.test") :
      Engine.analyze ⟨.builtin, {}, network⟩ request =
        .ok (Engine.report ⟨.builtin, {}, network⟩ request) := by
    have hlimits : ¬("see http://a.test" = "" ∨ 100000 < "see http://a.test".length) := by decide
    refine analyze_of_not_refused ?_
    rw [Request.Refused, hcode]
    exact hlimits
  have hasked := haccepted (Script.network ⟨[("a.test", .hang)]⟩)
    { code := "see http://a.test", filename := some "a.py", verifyLinks := true } rfl
  have hplain := haccepted .unreachable { code := "see http://a.test", language := some .python } rfl
  obtain ⟨hagree, hfit, hfit'⟩ := reports_agree_besides_links .builtin {} _ _ _ _ _ _ hasked hplain rfl hnamed
  exact ⟨⟨hnamed, rfl⟩, _, _, hasked, hplain, hagree, (hfit.verified rfl).1, (hfit'.skipped rfl).1⟩

end Engine
end Checkup

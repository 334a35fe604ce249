import Checkup.Json.Record
import Checkup.Proofs.Reading
import Checkup.Proofs.Scores
import Mathlib.Tactic.NormNum

/-!
# Records as JSON and back

A record that is written as JSON is read back as it was, if its counts and statuses are in range and
its score is one. What is read in any of the forms that a record can have is in range, so it is
settled by being written once. Outcomes with different contents are written differently.
-/

namespace Checkup
open Json

/-- What is in range and proper is read back as it was written. What is read from any value at all
is in range, and if it is proper, it is written as a value that is read and written in the same
way. -/
structure Json.RoundTrips {α : Type} (write : α → Json) (read : Json.Reader α)
    (inRange proper : α → Prop) : Prop where
  read_write : ∀ x, inRange x → proper x → read (write x) = .ok x
  settled : ∀ json x, read json = .ok x → proper x →
    inRange x ∧ read (write x) = .ok x ∧ (read (write x)).map write = .ok (write x)

lemma Json.RoundTrips.of {α : Type} {write : α → Json} {read : Json.Reader α}
    {inRange proper : α → Prop} (hundoes : Undoes read write fun x => inRange x ∧ proper x)
    (hyields : Yields read inRange) : RoundTrips write read inRange proper where
  read_write x hrange hproper := hundoes x ⟨hrange, hproper⟩
  settled json x hread hproper := by
    have hrange := hyields json x hread
    have hback := hundoes x ⟨hrange, hproper⟩
    refine ⟨hrange, hback, ?_⟩
    rw [hback]
    rfl

structure Finding.InRange (finding : Finding) : Prop where
  line : finding.line < 2 ^ 64
  column : finding.column < 2 ^ 64

structure Metrics.InRange (metrics : Metrics) : Prop where
  lineCount : metrics.lineCount < 2 ^ 64
  characterCount : metrics.characterCount < 2 ^ 64
  wordCount : metrics.wordCount < 2 ^ 64
  functionCount : metrics.functionCount < 2 ^ 64
  commentCount : metrics.commentCount < 2 ^ 64

def LinkResult.InRange (result : LinkResult) : Prop := ∀ status ∈ result.status, status < 2 ^ 16

structure Summary.InRange (summary : Summary) : Prop where
  total : summary.total < 2 ^ 64
  errors : summary.errors < 2 ^ 64
  warnings : summary.warnings < 2 ^ 64
  info : summary.info < 2 ^ 64
  brokenLinks : summary.brokenLinks < 2 ^ 64
  totalLinks : summary.totalLinks < 2 ^ 64

structure Report.InRange (report : Report) : Prop where
  issues : ∀ issue ∈ report.issues, issue.InRange
  metrics : report.metrics.InRange
  links : ∀ link ∈ report.links, link.InRange
  summary : report.summary.InRange

/-- A report in the outcome, if there is one, is in range, and its score is one. -/
def Outcome.Storable (outcome : Outcome Report) : Prop :=
  ∀ report, outcome = .ok report → report.InRange ∧ report.summary.score.IsScore

lemma Double.IsScore.isFinite {x : Double} (h : x.IsScore) : x.isFinite := by
  obtain ⟨errors, warnings, notes, hvalue⟩ := h
  rw [value?_qualityScore] at hvalue
  cases x with
  | finite => rfl
  | infinite => simp [value?] at hvalue
  | notANumber => simp [value?] at hvalue

lemma Language.undoes_ofJson : Undoes Language.ofJson Language.toJson fun _ => True :=
  undoes_readName fun language => by cases language <;> rfl

lemma Severity.undoes_ofJson : Undoes Severity.ofJson Severity.toJson fun _ => True :=
  undoes_readName fun severity => by cases severity <;> rfl

lemma Rating.undoes_ofJson : Undoes Rating.ofJson Rating.toJson fun _ => True :=
  undoes_readName fun rating => by cases rating <;> rfl

lemma readOption_nullable_string (text : Option String) :
    readOption readString (Json.nullable .string text) = .ok text := by
  have hstring : Undoes readString .string fun _ => True := fun text _ => readString_string text
  exact undoes_readOption hstring (by simp) text fun _ _ => trivial

namespace Finding

lemma undoes_ofJson : Undoes ofJson toJson InRange := by
  intro finding h
  have hline := undoes_readCount _ h.line
  have hcolumn := undoes_readCount _ h.column
  have hmessage := readString_string finding.message
  have hseverity := Severity.undoes_ofJson finding.severity trivial
  have hruleId := readString_string finding.ruleId
  unfold ofJson toJson
  rw [Shape.open_object]
  · rw [ok_bind, Fields.get_named rfl, hline, ok_bind, Fields.get_named rfl, hcolumn, ok_bind,
      Fields.get_named rfl, hmessage, ok_bind, Fields.get_named rfl, hseverity, ok_bind,
      Fields.get_named rfl, hruleId, ok_bind]
    rfl
  · simp [Shape.Accepts, shape, List.lookup_cons, check_eq_ok hline, check_eq_ok hcolumn,
      check_eq_ok hmessage, check_eq_ok hseverity, check_eq_ok hruleId]

lemma yields_ofJson : Yields ofJson InRange := by
  intro json finding h
  unfold ofJson at h
  simp only [bind_eq_ok, pure_eq_ok, Except.ok.injEq] at h
  obtain ⟨fields, -, line, hline, column, hcolumn, message, -, severity, -, ruleId, -, -, -, rfl⟩ :=
    h
  exact ⟨yields_readCount.get hline, yields_readCount.get hcolumn⟩

end Finding

namespace Metrics

lemma undoes_ofJson : Undoes ofJson toJson InRange := by
  intro metrics h
  have hlines := undoes_readCount _ h.lineCount
  have hcharacters := undoes_readCount _ h.characterCount
  have hwords := undoes_readCount _ h.wordCount
  have hfunctions := undoes_readCount _ h.functionCount
  have hcomments := undoes_readCount _ h.commentCount
  unfold ofJson toJson
  rw [Shape.open_object]
  · rw [ok_bind, Fields.get_named rfl, hlines, ok_bind, Fields.get_named rfl, hcharacters, ok_bind,
      Fields.get_named rfl, hwords, ok_bind, Fields.get_named rfl, hfunctions, ok_bind,
      Fields.get_named rfl, hcomments, ok_bind]
    rfl
  · simp [Shape.Accepts, shape, List.lookup_cons, check_eq_ok hlines, check_eq_ok hcharacters,
      check_eq_ok hwords, check_eq_ok hfunctions, check_eq_ok hcomments]

lemma yields_ofJson : Yields ofJson InRange := by
  intro json metrics h
  unfold ofJson at h
  simp only [bind_eq_ok, pure_eq_ok, Except.ok.injEq] at h
  obtain ⟨fields, -, lines, hlines, characters, hcharacters, words, hwords, functions, hfunctions,
    comments, hcomments, -, -, rfl⟩ := h
  exact ⟨yields_readCount.get hlines, yields_readCount.get hcharacters, yields_readCount.get hwords,
    yields_readCount.get hfunctions, yields_readCount.get hcomments⟩

end Metrics

namespace LinkResult

lemma undoes_ofJson : Undoes ofJson toJson InRange := by
  intro result h
  have hurl := readString_string result.url
  have hstatus := undoes_readOption undoes_readStatus (by simp [Json.count]) result.status h
  have hok := readBool_bool result.ok
  have herror := readOption_nullable_string result.error
  unfold ofJson toJson
  rw [Shape.open_object]
  · rw [ok_bind, Fields.get_named rfl, hurl, ok_bind, Fields.getD_named rfl, hstatus, ok_bind,
      Fields.get_named rfl, hok, ok_bind, Fields.getD_named rfl, herror, ok_bind]
    rfl
  · simp [Shape.Accepts, shape, List.lookup_cons, check_eq_ok hurl, check_eq_ok hstatus,
      check_eq_ok hok, check_eq_ok herror]

lemma yields_ofJson : Yields ofJson InRange := by
  intro json result h
  unfold ofJson at h
  simp only [bind_eq_ok, pure_eq_ok, Except.ok.injEq] at h
  obtain ⟨fields, -, url, -, status, hstatus, ok, -, error, -, -, -, rfl⟩ := h
  exact (yields_readOption yields_readStatus).getD (by simp) hstatus

end LinkResult

namespace Summary

lemma undoes_ofJson :
    Undoes ofJson toJson fun summary => summary.InRange ∧ summary.score.IsScore := by
  rintro summary ⟨h, hproper⟩
  have hscore := readDouble_number hproper.isFinite
  have htotal := undoes_readCount _ h.total
  have herrors := undoes_readCount _ h.errors
  have hwarnings := undoes_readCount _ h.warnings
  have hinfo := undoes_readCount _ h.info
  have hrating := Rating.undoes_ofJson summary.rating trivial
  have hbroken := undoes_readCount _ h.brokenLinks
  have hlinks := undoes_readCount _ h.totalLinks
  unfold ofJson toJson
  rw [Shape.open_object]
  · rw [ok_bind, Fields.get_named rfl, hscore, ok_bind, Fields.get_named rfl, htotal, ok_bind,
      Fields.get_named rfl, herrors, ok_bind, Fields.get_named rfl, hwarnings, ok_bind,
      Fields.get_named rfl, hinfo, ok_bind, Fields.get_named rfl, hrating, ok_bind,
      Fields.get_named rfl, hbroken, ok_bind, Fields.get_named rfl, hlinks, ok_bind]
    rfl
  · simp [Shape.Accepts, shape, List.lookup_cons, check_eq_ok hscore, check_eq_ok htotal,
      check_eq_ok herrors, check_eq_ok hwarnings, check_eq_ok hinfo, check_eq_ok hrating,
      check_eq_ok hbroken, check_eq_ok hlinks]

lemma yields_ofJson : Yields ofJson InRange := by
  intro json summary h
  unfold ofJson at h
  simp only [bind_eq_ok, pure_eq_ok, Except.ok.injEq] at h
  obtain ⟨fields, -, score, -, total, htotal, errors, herrors, warnings, hwarnings, info, hinfo,
    rating, -, broken, hbroken, links, hlinks, -, -, rfl⟩ := h
  exact ⟨yields_readCount.get htotal, yields_readCount.get herrors, yields_readCount.get hwarnings,
    yields_readCount.get hinfo, yields_readCount.get hbroken, yields_readCount.get hlinks⟩

end Summary

namespace Report

variable {report : Report}

/-- A report is read from an object that has its fields, whatever other fields the object has. -/
lemma ofJson_object (h : report.InRange) (hproper : report.summary.score.IsScore)
    (extra : List (String × Json)) (hextra : ∀ field ∈ extra, shape.checks.lookup field.1 = none) :
    ofJson (.object (extra ++ report.fields)) = .ok report := by
  have hlanguage := Language.undoes_ofJson report.language trivial
  have hissues := undoes_readList Finding.undoes_ofJson report.issues h.issues
  have hmetrics := Metrics.undoes_ofJson report.metrics h.metrics
  have hlinks := undoes_readList LinkResult.undoes_ofJson report.links h.links
  have hsummary := Summary.undoes_ofJson report.summary ⟨h.summary, hproper⟩
  have hlookup {name : String} {json : Json} (hknown : (shape.checks.lookup name).isSome)
      (hname : report.fields.lookup name = some json) :
      (extra ++ report.fields).lookup name = some json := by
    rw [List.lookup_append, hname]
    have hnone : extra.lookup name = none := by
      rw [List.lookup_eq_none_iff]
      intro field hfield
      rw [bne_iff_ne]
      rintro rfl
      rw [hextra field hfield] at hknown
      simp at hknown
    rw [hnone]
    rfl
  have haccepts : ∀ field ∈ report.fields, shape.Accepts field := by
    simp [fields, Shape.Accepts, shape, List.lookup_cons, check_eq_ok hlanguage,
      check_eq_ok hissues, check_eq_ok hmetrics, check_eq_ok hlinks, check_eq_ok hsummary]
  unfold ofJson
  rw [Shape.open_object]
  · rw [ok_bind, Fields.get_named (hlookup rfl rfl), hlanguage, ok_bind,
      Fields.get_named (hlookup rfl rfl), hissues, ok_bind,
      Fields.get_named (hlookup rfl rfl), hmetrics, ok_bind,
      Fields.get_named (hlookup rfl rfl), hlinks, ok_bind,
      Fields.get_named (hlookup rfl rfl), hsummary, ok_bind]
    rfl
  · intro field hfield
    rcases List.mem_append.mp hfield with hfield | hfield
    · intro test htest
      rw [hextra field hfield] at htest
      simp at htest
    · exact haccepts field hfield

lemma undoes_ofJson :
    Undoes ofJson toJson fun report => report.InRange ∧ report.summary.score.IsScore := by
  rintro report ⟨h, hproper⟩
  exact ofJson_object h hproper [] (by simp)

lemma yields_ofJson : Yields ofJson InRange := by
  intro json report h
  unfold ofJson at h
  simp only [bind_eq_ok, pure_eq_ok, Except.ok.injEq] at h
  obtain ⟨fields, -, language, -, issues, hissues, metrics, hmetrics, links, hlinks, summary,
    hsummary, -, -, rfl⟩ := h
  exact ⟨(yields_readList Finding.yields_ofJson).get hissues, Metrics.yields_ofJson.get hmetrics,
    (yields_readList LinkResult.yields_ofJson).get hlinks, Summary.yields_ofJson.get hsummary⟩

lemma ofJson_outcome (h : report.InRange) (hproper : report.summary.score.IsScore) :
    ofJson ((Outcome.ok report).toJson fields) = .ok report :=
  ofJson_object h hproper [("outcome", .string "ok")] (by simp [shape, List.lookup_cons])

end Report

lemma Request.undoes_ofJson : Undoes Request.ofJson Request.toJson fun _ => True := by
  intro request _
  have hcode := readString_string request.code
  have hfilename := readOption_nullable_string request.filename
  have hverifyLinks := readBool_bool request.verifyLinks
  have hlanguage := undoes_readOption Language.undoes_ofJson (by simp [Language.toJson])
    request.language fun _ _ => trivial
  unfold Request.ofJson Request.toJson
  rw [Shape.open_object]
  · rw [ok_bind, Fields.get_named rfl, hcode, ok_bind, Fields.getD_named rfl, hfilename, ok_bind,
      Fields.getD_named rfl, hverifyLinks, ok_bind, Fields.getD_named rfl, hlanguage, ok_bind]
    rfl
  · simp [Shape.Accepts, Request.shape, List.lookup_cons, check_eq_ok hcode, check_eq_ok hfilename,
      check_eq_ok hverifyLinks, check_eq_ok hlanguage]

/-- Two outcomes that are written alike are alike: the kind of an outcome is its first field, and
what follows is read back. -/
lemma Outcome.eq_of_toJson_eq {outcome outcome' : Outcome Report} (h : outcome.Storable)
    (h' : outcome'.Storable)
    (hjson : outcome.toJson Report.fields = outcome'.toJson Report.fields) :
    outcome = outcome' := by
  cases outcome with
  | ok report =>
    cases outcome' with
    | ok report' =>
      obtain ⟨hrange, hproper⟩ := h report rfl
      obtain ⟨hrange', hproper'⟩ := h' report' rfl
      have hread := Report.ofJson_outcome hrange hproper
      rw [hjson, Report.ofJson_outcome hrange' hproper', Except.ok.injEq] at hread
      rw [hread]
    | clientError | serverError => simp [toJson] at hjson
  | clientError message =>
    cases outcome' with
    | clientError message' => simpa [toJson] using hjson
    | ok | serverError => simp [toJson] at hjson
  | serverError message =>
    cases outcome' with
    | serverError message' => simpa [toJson] using hjson
    | ok | clientError => simp [toJson] at hjson

/-- Every record is read back as it was written, and what is read from any value is settled by being
written once. A report is also read back from the outcome that has it, and outcomes that differ are
written differently. -/
theorem Outcome.records_roundTrip :
    RoundTrips Request.toJson Request.ofJson (fun _ => True) (fun _ => True) ∧
      RoundTrips Language.toJson Language.ofJson (fun _ => True) (fun _ => True) ∧
      RoundTrips Severity.toJson Severity.ofJson (fun _ => True) (fun _ => True) ∧
      RoundTrips Rating.toJson Rating.ofJson (fun _ => True) (fun _ => True) ∧
      RoundTrips Finding.toJson Finding.ofJson Finding.InRange (fun _ => True) ∧
      RoundTrips Metrics.toJson Metrics.ofJson Metrics.InRange (fun _ => True) ∧
      RoundTrips LinkResult.toJson LinkResult.ofJson LinkResult.InRange (fun _ => True) ∧
      RoundTrips Summary.toJson Summary.ofJson Summary.InRange (·.score.IsScore) ∧
      RoundTrips Report.toJson Report.ofJson Report.InRange (·.summary.score.IsScore) ∧
      (∀ report : Report, report.InRange → report.summary.score.IsScore →
        Report.ofJson ((Outcome.ok report).toJson Report.fields) = .ok report) ∧
      ∀ outcome outcome' : Outcome Report, outcome.Storable → outcome'.Storable →
        outcome.toJson Report.fields = outcome'.toJson Report.fields → outcome = outcome' := by
  have hany {α : Type} {write : α → Json} {read : Reader α} {inRange : α → Prop}
      (hundoes : Undoes read write inRange) (hyields : Yields read inRange) :
      RoundTrips write read inRange fun _ => True :=
    .of (fun x hx => hundoes x hx.1) hyields
  exact ⟨hany Request.undoes_ofJson fun _ _ _ => trivial,
    hany Language.undoes_ofJson fun _ _ _ => trivial,
    hany Severity.undoes_ofJson fun _ _ _ => trivial,
    hany Rating.undoes_ofJson fun _ _ _ => trivial,
    hany Finding.undoes_ofJson Finding.yields_ofJson,
    hany Metrics.undoes_ofJson Metrics.yields_ofJson,
    hany LinkResult.undoes_ofJson LinkResult.yields_ofJson,
    .of Summary.undoes_ofJson Summary.yields_ofJson,
    .of Report.undoes_ofJson Report.yields_ofJson,
    fun _ => Report.ofJson_outcome, fun _ _ => eq_of_toJson_eq⟩

/-- An object with a field too many and two too few, and an array with a whole number as its
score. -/
theorem Outcome.records_roundTrip_forms :
    (∃ result, LinkResult.ofJson (.object [("seen", .null), ("ok", .bool false),
        ("url", .string "http://a")]) = .ok result ∧
      result.InRange ∧ LinkResult.ofJson result.toJson = .ok result) ∧
    (∃ summary, Summary.ofJson (.array [.integer 97, .integer 6, .integer 0, .integer 0, .integer 6,
        .string "Excellent", .integer 0, .integer 0]) = .ok summary ∧
      summary.score.IsScore ∧ Summary.ofJson summary.toJson = .ok summary) ∧
    (Outcome.clientError "ok").Storable ∧ (Outcome.serverError "ok").Storable ∧
      (Outcome.clientError "ok").toJson Report.fields ≠
        (Outcome.serverError "ok").toJson Report.fields := by
  obtain ⟨-, -, -, -, -, -, hlink, hsummary, -, -, hinjective⟩ := records_roundTrip
  have hobject : LinkResult.ofJson (.object [("seen", .null), ("ok", .bool false),
      ("url", .string "http://a")]) = .ok ⟨"http://a", none, false, none⟩ := by
    unfold LinkResult.ofJson
    rw [Shape.open_object]
    · rfl
    · simp [Shape.Accepts, LinkResult.shape, List.lookup_cons, check_eq_ok (readBool_bool false),
        check_eq_ok (readString_string "http://a")]
  have harray : Summary.ofJson (.array [.integer 97, .integer 6, .integer 0, .integer 0, .integer 6,
      .string "Excellent", .integer 0, .integer 0]) =
        .ok ⟨.ofInt 97, 6, 0, 0, 6, .excellent, 0, 0⟩ := rfl
  have hscore : (Double.ofInt 97).IsScore := by
    have hdouble : Double.ofInt 97 = .finite false (97 * 2 ^ 46) (-46) := by decide
    have hhalves : halfPoints 0 0 6 = 194 := rfl
    refine ⟨0, 0, 6, ?_⟩
    rw [value?_qualityScore, hdouble, hhalves]
    norm_num [Double.value?]
  obtain ⟨hrange, hback, -⟩ := hlink.settled _ _ hobject trivial
  have hagain := (hsummary.settled _ _ harray hscore).2.1
  have hclient : (Outcome.clientError "ok").Storable := by simp [Storable]
  have hserver : (Outcome.serverError "ok").Storable := by simp [Storable]
  refine ⟨⟨_, hobject, hrange, hback⟩, ⟨_, harray, hscore, hagain⟩, hclient, hserver, ?_⟩
  intro hjson
  have hsame := hinjective _ _ hclient hserver hjson
  simp at hsame

end Checkup

import Checkup.Proofs.Scan
import Checkup.Proofs.Scores

/-!
# Scans of joined texts

A line break between two texts keeps their lines apart, so a scan of the joined text has the
findings of both, and its score is not above theirs. A text to which empty lines are added has the
findings that it had, as no rule of the built-in catalog finds anything in an empty line.
-/

namespace Checkup

lemma Text.strippedPieces_append (a b : List Char) :
    strippedPieces (a ++ '\n' :: b) = strippedPieces a ++ strippedPieces b := by
  rw [strippedPieces, List.splitOn_append_cons_self, List.map_append]
  rfl

lemma Text.length_strippedPieces (text : List Char) :
    (strippedPieces text).length = (text.splitOn '\n').length := by
  rw [strippedPieces, List.length_map]

lemma Text.strippedPieces_replicate (n : Nat) :
    strippedPieces (List.replicate n '\n') = List.replicate (n + 1) [] := by
  induction n with
  | zero => rfl
  | succ n ih =>
    rw [List.replicate_succ, ← List.nil_append ('\n' :: _), strippedPieces_append, ih]
    rfl

/-- The same finding, a number of lines further down. -/
def Finding.moveDown (k : Nat) (finding : Finding) : Finding :=
  { finding with line := finding.line + k }

/-- The summary counts what two others count together, and its score is at most theirs. -/
structure Summary.Joins (joined first second : Summary) : Prop where
  total : joined.total = first.total + second.total
  errors : joined.errors = first.errors + second.errors
  warnings : joined.warnings = first.warnings + second.warnings
  info : joined.info = first.info + second.info
  score_le_first : joined.score.Le first.score
  score_le_second : joined.score.Le second.score

namespace Finding

variable {catalog : Catalog} {language : Language} {rules : List Rule}

lemma findings_moveDown (rule : Rule) (number k : Nat) (line : List Char) :
    rule.findings (number + k) line = (rule.findings number line).map (moveDown k) := by
  rw [Rule.findings, Rule.findings]
  split
  · rfl
  · rw [List.map_map]
    rfl

lemma inLines_cons (rules : List Rule) (line : List Char) (number : Nat)
    (ls : List (List Char × Nat)) :
    inLines rules ((line, number) :: ls) =
      (rules.flatMap fun rule => rule.findings number line) ++ inLines rules ls := rfl

lemma inLines_append (rules : List Rule) (ls ls' : List (List Char × Nat)) :
    inLines rules (ls ++ ls') = inLines rules ls ++ inLines rules ls' := by
  unfold inLines
  exact List.flatMap_append

lemma inLines_moveDown (rules : List Rule) (lines : List (List Char)) (number k : Nat) :
    inLines rules (lines.zipIdx (number + k)) =
      (inLines rules (lines.zipIdx number)).map (moveDown k) := by
  induction lines generalizing number with
  | nil => rfl
  | cons line lines ih =>
    have hline : (rules.flatMap fun rule => rule.findings (number + k) line) =
        (rules.flatMap fun rule => rule.findings number line).map (moveDown k) := by
      rw [List.map_flatMap]
      congr 1
      funext rule
      exact findings_moveDown rule number k line
    have hrest := ih (number + 1)
    rw [Nat.add_right_comm] at hrest
    rw [List.zipIdx_cons, List.zipIdx_cons, inLines_cons, inLines_cons, hline, hrest,
      List.map_append]

/-- Where no rule finds anything, adding lines adds no findings. -/
lemma inLines_eq_nil {lines : List (List Char × Nat)}
    (h : ∀ rule ∈ rules, ∀ line ∈ lines, rule.pattern.matchesIn line.1 = []) :
    inLines rules lines = [] := by
  unfold inLines
  rw [List.flatMap_eq_nil_iff]
  intro line hline
  rw [List.flatMap_eq_nil_iff]
  intro rule hrule
  rw [Rule.findings, h rule hrule line hline]
  simp

lemma ofSeverity_append (severity : Severity) (xs ys : List Finding) :
    ofSeverity severity (xs ++ ys) = ofSeverity severity xs ++ ofSeverity severity ys :=
  List.filter_append xs ys

lemma ofSeverity_moveDown (severity : Severity) (k : Nat) (xs : List Finding) :
    ofSeverity severity (xs.map (moveDown k)) = (ofSeverity severity xs).map (moveDown k) := by
  unfold ofSeverity
  rw [List.filter_map]
  rfl

/-- The findings in the lines of two texts are those of the first, and those of the second as far
down as the first has lines. -/
lemma inLines_join (rules : List Rule) (a b : String) :
    inLines rules ((Text.lines (a ++ "\n" ++ b).toList).zipIdx 1) =
      inLines rules ((Text.lines a.toList).zipIdx 1) ++
        (inLines rules ((Text.lines b.toList).zipIdx 1)).map
          (moveDown (a.toList.splitOn '\n').length) := by
  have htext : (a ++ "\n" ++ b).toList = a.toList ++ '\n' :: b.toList := by
    simp
  rw [htext, Text.lines_eq, Text.lines_eq, Text.lines_eq, Text.strippedPieces_append,
    List.zipIdx_append, inLines_append, Text.length_strippedPieces, inLines_moveDown]

lemma ofSeverity_scan_join (catalog : Catalog) (language : Language) (a b : String)
    (severity : Severity) :
    ofSeverity severity (scan catalog (a ++ "\n" ++ b) language) =
      ofSeverity severity (scan catalog a language) ++
        (ofSeverity severity (scan catalog b language)).map
          (moveDown (a.toList.splitOn '\n').length) := by
  simp only [scan, ofSeverity_sort]
  rw [inLines_join, ofSeverity_append, ofSeverity_moveDown]

lemma length_ofSeverity (severity : Severity) (findings : List Finding) :
    (ofSeverity severity findings).length = Summary.count findings severity := by
  rw [Summary.count, List.countP_eq_length_filter]
  rfl

lemma count_scan_join (catalog : Catalog) (language : Language) (a b : String)
    (severity : Severity) :
    Summary.count (scan catalog (a ++ "\n" ++ b) language) severity =
      Summary.count (scan catalog a language) severity +
        Summary.count (scan catalog b language) severity := by
  rw [← length_ofSeverity, ofSeverity_scan_join, List.length_append, List.length_map,
    length_ofSeverity, length_ofSeverity]

/-- Every finding is an error, a warning or a note. -/
lemma length_eq_add_count (findings : List Finding) :
    findings.length = Summary.count findings .error + Summary.count findings .warning +
      Summary.count findings .info := by
  induction findings with
  | nil => rfl
  | cons a findings ih =>
    simp only [Summary.count, List.countP_cons, List.length_cons] at ih ⊢
    rw [ih]
    cases a.severity <;> simp <;> omega

lemma joins_scan_join (catalog : Catalog) (language : Language) (a b : String)
    (links links₁ links₂ : List LinkResult) :
    (Summary.of (scan catalog (a ++ "\n" ++ b) language) links).Joins
      (Summary.of (scan catalog a language) links₁)
      (Summary.of (scan catalog b language) links₂) := by
  have hcount := count_scan_join catalog language a b
  constructor
  · simp only [Summary.of, length_eq_add_count, hcount]
    omega
  · exact hcount .error
  · exact hcount .warning
  · exact hcount .info
  · simp only [Summary.of, hcount]
    exact qualityScore_anti (Nat.le_add_right _ _) (Nat.le_add_right _ _) (Nat.le_add_right _ _)
  · simp only [Summary.of, hcount]
    exact qualityScore_anti (Nat.le_add_left _ _) (Nat.le_add_left _ _) (Nat.le_add_left _ _)

/-- No built-in rule finds anything in an empty line. -/
lemma matchesIn_nil_of_mem_builtin {rule : Rule}
    (hrule : rule ∈ Catalog.builtin.rulesFor language) : rule.pattern.matchesIn [] = [] := by
  revert rule
  cases language <;> decide +kernel

/-- Lines in which nothing stands add no findings, however they end. -/
lemma scan_builtin_join_empty {a b : String}
    (h : ∀ line ∈ Text.strippedPieces b.toList, line = []) :
    scan .builtin (a ++ "\n" ++ b) language = scan .builtin a language := by
  have hempty : inLines (Catalog.builtin.rulesFor language)
      ((Text.lines b.toList).zipIdx 1) = [] := by
    apply inLines_eq_nil
    intro rule hrule line hline
    rw [Text.lines_eq] at hline
    rw [h line.1 (List.fst_mem_of_mem_zipIdx hline)]
    exact matchesIn_nil_of_mem_builtin hrule
  rw [scan, scan, inLines_join, hempty, List.map_nil, List.append_nil]

lemma scan_builtin_replicate (language : Language) (a : String) (n : Nat) :
    scan .builtin (a ++ String.ofList (List.replicate n '\n')) language =
      scan .builtin a language := by
  cases n with
  | zero => simp
  | succ n =>
    have htext : a ++ String.ofList (List.replicate (n + 1) '\n') =
        a ++ "\n" ++ String.ofList (List.replicate n '\n') := by
      apply String.toList_inj.mp
      simp [List.replicate_succ]
    rw [htext]
    apply scan_builtin_join_empty
    intro line hline
    rw [String.toList_ofList, Text.strippedPieces_replicate] at hline
    exact List.eq_of_mem_replicate hline

/-- A scan of two texts with a line break between them has, of each severity, the findings in the
first text and then those in the second one, moved down by the lines of the first. So the counts add
up, and the score is at most that of either text. With the built-in catalog, empty lines behind a
text change no finding, whether or not carriage returns end them. -/
theorem scan_join (catalog : Catalog) (language : Language) (a b : String) :
    (∀ severity, ofSeverity severity (scan catalog (a ++ "\n" ++ b) language) =
      ofSeverity severity (scan catalog a language) ++
        (ofSeverity severity (scan catalog b language)).map
          (moveDown (a.toList.splitOn '\n').length)) ∧
      (∀ links links₁ links₂, (Summary.of (scan catalog (a ++ "\n" ++ b) language) links).Joins
        (Summary.of (scan catalog a language) links₁)
        (Summary.of (scan catalog b language) links₂)) ∧
      (∀ n, scan .builtin (a ++ String.ofList (List.replicate n '\n')) language =
        scan .builtin a language) ∧
      ((∀ line ∈ Text.strippedPieces b.toList, line = []) →
        scan .builtin (a ++ "\n" ++ b) language = scan .builtin a language) :=
  ⟨ofSeverity_scan_join catalog language a b, joins_scan_join catalog language a b,
    scan_builtin_replicate language a, scan_builtin_join_empty⟩

theorem scan_join_returns :
    (∀ line ∈ Text.strippedPieces "\r\n\r\n".toList, line = []) ∧
      scan .builtin ("var x = 1;" ++ "\n" ++ "\r\n\r\n") .javascript =
        scan .builtin "var x = 1;" .javascript := by
  have hempty : ∀ line ∈ Text.strippedPieces "\r\n\r\n".toList, line = [] := by decide
  exact ⟨hempty, (scan_join .builtin .javascript "var x = 1;" "\r\n\r\n").2.2.2 hempty⟩

end Finding
end Checkup

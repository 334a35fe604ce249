import Checkup.Finding
import Checkup.Proofs.Sorting
import Checkup.Proofs.Successive

/-!
# Scans

A scan of a text reports every successive match of every rule that applies to a line, in the order
of the lines, of the rules and of the matches, and then puts the errors before the warnings and
these before the rest.
-/

namespace Checkup

/-- The lines of a text: the pieces between its line feeds, without the carriage return that may
end them. -/
def Text.strippedPieces (text : List Char) : List (List Char) :=
  (text.splitOn '\n').map fun piece => if ['\r'] <:+ piece then piece.dropLast else piece

lemma Text.pieces_eq_splitOn (text : List Char) : Text.pieces text = text.splitOn '\n' := by
  induction text with
  | nil => rfl
  | cons c text ih =>
    rw [List.splitOn_cons_eq_if_modifyHead, ← ih]
    by_cases hc : c = '\n'
    · simp [hc, Text.pieces]
    · cases hs : Text.pieces text with
      | nil => exact absurd (ih ▸ hs) (List.splitOn_ne_nil _ _)
      | cons piece rest =>
        unfold Text.pieces at hs
        simp [hc, Text.pieces, hs]

lemma Text.getLast?_eq_some_iff_suffix (c : Char) (line : List Char) :
    line.getLast? = some c ↔ [c] <:+ line := by
  rw [List.getLast?_eq_some_iff]
  exact exists_congr fun init => eq_comm

lemma Text.lines_eq (text : List Char) : Text.lines text = Text.strippedPieces text := by
  rw [Text.lines, Text.strippedPieces, Text.pieces_eq_splitOn]
  refine List.map_congr_left fun piece _ => ?_
  simp only [Text.dropReturn, Text.getLast?_eq_some_iff_suffix]

/-- Whether the rule looks at this line: its exemption matches nowhere in it. -/
def Rule.applies (rule : Rule) (line : List Char) : Bool :=
  rule.exemption.all fun exemption =>
    (List.range (line.length + 1)).all fun i => (exemption.ways line i).isEmpty

/-- Where a match is shown: at its marked part, if there is one, or else at its start. -/
def Match.shownAt (m : Match) : Nat :=
  match m.marked with
  | some (start, _) => start
  | none => m.start

/-- What a rule says about a match: the column counts the characters before it. -/
def Rule.say (rule : Rule) (number : Nat) (line : List Char) (m : Match) : Finding where
  line := number
  column := 1 + (line.take m.shownAt).length
  message := rule.message
  severity := rule.severity
  ruleId := rule.id

/-- The findings in the order in which they are made. -/
def Finding.emitted (catalog : Catalog) (code : String) (language : Language) : List Finding :=
  ((Text.strippedPieces code.toList).zipIdx 1).flatMap fun (line, number) =>
    ((catalog.rulesFor language).filter (·.applies line)).flatMap fun rule =>
      (rule.pattern.successive line none 0).map (rule.say number line)

lemma Rule.applies_eq_not_excludes (rule : Rule) (line : List Char) :
    rule.applies line = !rule.excludes line := by
  rw [Rule.applies, Rule.excludes]
  cases rule.exemption with
  | none => rfl
  | some exemption =>
    rw [Option.all_some, Option.any_some, Pattern.occursIn_eq, List.not_any_eq_all_not]
    simp

/-- A match is shown in the text, before its end or at it. -/
lemma Match.shownAt_le {r : Pattern} {text : List Char} {last : Option Nat} {free : Nat} {m : Match}
    (hm : m ∈ r.successive text last free) :
    m.anchor = m.shownAt ∧ m.start ≤ m.shownAt ∧ m.shownAt ≤ m.stop ∧ m.stop ≤ text.length := by
  obtain ⟨-, -, -, -, hstop, hlen⟩ := Pattern.mem_successive hm
  cases hmarked : m.marked with
  | none =>
    simp only [Match.anchor, Match.shownAt, hmarked]
    exact ⟨rfl, Nat.le_refl _, hstop, hlen⟩
  | some part =>
    have hpart := Pattern.marked_of_mem_successive hm hmarked
    simp only [Match.anchor, Match.shownAt, hmarked]
    exact ⟨rfl, hpart.1, by omega, hlen⟩

lemma Rule.findings_eq (rule : Rule) (number : Nat) (line : List Char) :
    rule.findings number line =
      if rule.applies line then (rule.pattern.successive line none 0).map (rule.say number line)
      else [] := by
  rw [Rule.findings, Rule.applies_eq_not_excludes, Pattern.matchesIn_eq]
  cases rule.excludes line with
  | true => rfl
  | false =>
    simp only [Bool.false_eq_true, if_false, Bool.not_false, if_true]
    refine List.map_congr_left fun m hm => ?_
    obtain ⟨hanchor, _, hstop, hlen⟩ := Match.shownAt_le hm
    have hcolumn : (line.take m.shownAt).length = m.shownAt :=
      List.length_take_of_le (by omega)
    rw [Rule.report, Rule.say, hanchor, hcolumn, Nat.add_comm]

lemma Finding.inLines_eq_emitted (catalog : Catalog) (code : String) (language : Language) :
    inLines (catalog.rulesFor language) ((Text.lines code.toList).zipIdx 1) =
      emitted catalog code language := by
  rw [inLines, emitted, Text.lines_eq]
  congr 1
  funext ⟨line, number⟩
  dsimp only
  simp only [Rule.findings_eq]
  induction catalog.rulesFor language with
  | nil => rfl
  | cons rule rules ih =>
    rw [List.flatMap_cons, ih]
    cases ha : rule.applies line <;> simp [ha]

/-- The findings of one severity. -/
def Finding.ofSeverity (severity : Severity) (findings : List Finding) : List Finding :=
  findings.filter (·.severity = severity)

lemma Finding.ofSeverity_cons (severity : Severity) (a : Finding) (findings : List Finding) :
    ofSeverity severity (a :: findings) =
      if a.severity = severity then a :: ofSeverity severity findings
      else ofSeverity severity findings := by
  simp [ofSeverity, List.filter_cons]

/-- A list in the order of severity consists of its errors, its warnings and the rest. -/
lemma Finding.eq_append_of_pairwise {findings : List Finding}
    (h : findings.Pairwise fun a b => a.severity.rank ≤ b.severity.rank) :
    findings = ofSeverity .error findings ++ ofSeverity .warning findings ++
      ofSeverity .info findings := by
  induction findings with
  | nil => rfl
  | cons a findings ih =>
    obtain ⟨ha, hrest⟩ := List.pairwise_cons.mp h
    have hnone (severity : Severity) (hlt : severity.rank < a.severity.rank) :
        ofSeverity severity findings = [] := by
      rw [ofSeverity, List.filter_eq_nil_iff]
      intro b hb heq
      have hle := ha b hb
      rw [of_decide_eq_true heq] at hle
      omega
    have hih := ih hrest
    simp only [ofSeverity_cons]
    cases hs : a.severity with
    | error =>
      simpa using hih
    | warning =>
      have he := hnone .error (by simp [hs, Severity.rank])
      simpa [he] using hih
    | info =>
      have he := hnone .error (by simp [hs, Severity.rank])
      have hw := hnone .warning (by simp [hs, Severity.rank])
      simpa [he, hw] using hih

section Order

variable (findings : List Finding)

lemma Finding.sort_pairwise :
    (sort findings).Pairwise fun a b => a.severity.rank ≤ b.severity.rank :=
  mergeSort_pairwise_le (fun finding : Finding => finding.severity.rank) findings

/-- Sorting does not reorder the findings of one severity. -/
lemma Finding.ofSeverity_sort (severity : Severity) :
    ofSeverity severity (sort findings) = ofSeverity severity findings := by
  let rank (finding : Finding) : Nat := finding.severity.rank
  have hsub : (ofSeverity severity findings).Sublist (sort findings) := by
    refine List.sublist_mergeSort (key_le_trans rank) (key_le_total rank) ?_ List.filter_sublist
    refine List.pairwise_of_forall_mem_list fun a ha b hb => ?_
    have has := (List.mem_filter.mp ha).2
    have hbs := (List.mem_filter.mp hb).2
    simp only [decide_eq_true_eq] at has hbs
    simp [rank, has, hbs]
  have hfilter : ofSeverity severity (ofSeverity severity findings) = ofSeverity severity findings := by
    simp [ofSeverity]
  have hlen : (ofSeverity severity (sort findings)).length = (ofSeverity severity findings).length :=
    ((List.mergeSort_perm findings _).filter _).length_eq
  have hsub' := hsub.filter fun finding => finding.severity = severity
  exact (List.Sublist.eq_of_length (hfilter ▸ hsub') hlen.symm).symm

lemma Finding.sort_eq_append :
    sort findings = ofSeverity .error findings ++ ofSeverity .warning findings ++
      ofSeverity .info findings := by
  have hsorted := eq_append_of_pairwise (sort_pairwise findings)
  simp only [ofSeverity_sort] at hsorted
  exact hsorted

/-- What is left out before sorting is missing after it, and nothing else changes its place. -/
lemma Finding.sort_filter (p : Finding → Bool) :
    (sort findings).filter p = sort (findings.filter p) := by
  have hcomm (severity : Severity) :
      (ofSeverity severity findings).filter p = ofSeverity severity (findings.filter p) := by
    unfold ofSeverity
    exact List.filter_comm _ _ _
  rw [sort_eq_append, sort_eq_append, List.filter_append, List.filter_append, hcomm, hcomm, hcomm]

end Order

/-- A scan reports the matches of the rules that apply to a line, and nothing else. -/
lemma Finding.mem_scan_iff {catalog : Catalog} {language : Language} {code : String} {finding : Finding} :
    finding ∈ scan catalog code language ↔
      ∃ k line, (Text.strippedPieces code.toList)[k]? = some line ∧
        ∃ rule ∈ catalog.rulesFor language, rule.excludes line = false ∧
          ∃ m ∈ rule.pattern.matchesIn line, rule.report (k + 1) m = finding := by
  unfold scan sort inLines
  rw [List.mem_mergeSort, List.mem_flatMap, Text.lines_eq]
  constructor
  · rintro ⟨⟨line, number⟩, hline, h⟩
    obtain ⟨hpos, hget⟩ := List.mk_mem_zipIdx_iff_le_and_getElem?_sub.mp hline
    obtain ⟨rule, hrule, hfinding⟩ := List.mem_flatMap.mp h
    rw [Rule.findings] at hfinding
    split at hfinding
    · simp at hfinding
    · rename_i hexcludes
      rw [← Nat.sub_add_cancel hpos] at hfinding
      exact ⟨number - 1, line, hget, rule, hrule, eq_false_of_ne_true hexcludes,
        List.mem_map.mp hfinding⟩
  · rintro ⟨k, line, hline, rule, hrule, hexcludes, hm⟩
    refine ⟨(line, k + 1), ?_, List.mem_flatMap.mpr ⟨rule, hrule, ?_⟩⟩
    · exact List.mk_mem_zipIdx_iff_le_and_getElem?_sub.mpr ⟨Nat.le_add_left 1 k, hline⟩
    · rw [Rule.findings, hexcludes, if_neg (by simp)]
      exact List.mem_map.mpr hm

/-- A scan lists the successive matches of the rules that apply, line by line and rule by rule,
first those of the errors, then of the warnings, then of the rest. -/
theorem Finding.scan_eq_emitted (catalog : Catalog) (code : String) (language : Language) :
    scan catalog code language =
      ofSeverity .error (emitted catalog code language) ++
        ofSeverity .warning (emitted catalog code language) ++
        ofSeverity .info (emitted catalog code language) := by
  rw [scan, inLines_eq_emitted, sort_eq_append]

end Checkup

import Checkup.Proofs.Scan
import Checkup.Proofs.Spans
import Mathlib.Data.List.Nodup

/-!
# Columns of a rule

The columns at which a scan reports one rule in one line. No other rule of the table and no other
line has a part in them: they are the places of the rule's own matches in that line.
-/

namespace Checkup

namespace Text

variable {code line : List Char}

/-- A line keeps every character but a carriage return at its end. -/
lemma getElem?_dropReturn (text : List Char) {c : Char} (hc : c ≠ '\r') (i : Nat) :
    (dropReturn text)[i]? = some c ↔ text[i]? = some c := by
  rw [dropReturn]
  split
  · rename_i hlast
    obtain ⟨init, rfl⟩ := List.getLast?_eq_some_iff.mp hlast
    rw [List.dropLast_concat]
    constructor
    · intro h
      exact List.getElem?_append_left (List.getElem?_eq_some_iff.mp h).1 ▸ h
    · intro h
      rcases Nat.lt_or_ge i init.length with hlt | hle
      · rwa [List.getElem?_append_left hlt] at h
      · rw [List.getElem?_append_right hle, List.getElem?_singleton] at h
        split at h
        · exact absurd (Option.some.inj h).symm hc
        · exact absurd h (by simp)
  · rfl

lemma getElem?_lines {k : Nat} (h : (code.splitOn '\n')[k]? = some line) :
    (lines code)[k]? = some (dropReturn line) := by
  rw [lines, pieces_eq_splitOn, List.getElem?_map, h, Option.map_some]

/-- A line is a piece of the text, without the carriage return at its end. -/
lemma exists_piece {k : Nat} (h : (strippedPieces code)[k]? = some line) :
    ∃ piece, (code.splitOn '\n')[k]? = some piece ∧ dropReturn piece = line := by
  rw [← lines_eq, lines, pieces_eq_splitOn, List.getElem?_map] at h
  exact Option.map_eq_some_iff.mp h

end Text

/-- Without a mark a match is shown at its start. -/
lemma Pattern.anchor_of_markFree {r : Pattern} (hr : r.markFree) {text : List Char} {m : Match}
    (hm : m ∈ r.matchesIn text) : m.anchor = m.start := by
  obtain ⟨h, hh, hmatch, -⟩ := mem_matchesIn hm
  have hstay := eq_stay_of_markFree hr (List.mem_of_mem_head? hh)
  rw [hmatch, hstay]
  rfl

/-- The rules of all built-in tables. -/
def Rule.all : List Rule := javascript ++ typescript ++ python ++ html ++ css ++ sql ++ link

lemma Rule.mem_all_of_mem_builtin {language : Language} {rule : Rule}
    (h : rule ∈ Catalog.builtin.rulesFor language) : rule ∈ all := by
  unfold all
  unfold Catalog.rulesFor Catalog.builtin Language.fallback at h
  simp only [List.mem_append]
  cases language <;>
    simp only [Option.some_or, Option.none_or, Option.getD_some, List.mem_append] at h <;> tauto

namespace Finding

/-- The columns at which findings report the rule in the line, in the order of the findings. -/
def columnsOf (ruleId : String) (number : Nat) (findings : List Finding) : List Nat :=
  (findings.filter fun f => f.ruleId = ruleId ∧ f.line = number).map (·.column)

variable {rules : List Rule} {rule : Rule} {number : Nat}

lemma mem_findings {line : List Char} {finding : Finding}
    (h : finding ∈ rule.findings number line) :
    finding.ruleId = rule.id ∧ finding.severity = rule.severity ∧ finding.line = number := by
  rw [Rule.findings] at h
  split at h
  · simp at h
  · obtain ⟨m, -, rfl⟩ := List.mem_map.mp h
    exact ⟨rfl, rfl, rfl⟩

/-- All findings of a rule in a line pass a test on their rule and line, or none of them. -/
lemma filter_findings (p : String → Nat → Bool) (rule : Rule) (number : Nat) (line : List Char) :
    (rule.findings number line).filter (fun f => p f.ruleId f.line) =
      if p rule.id number then rule.findings number line else [] := by
  split
  · rename_i hp
    rw [List.filter_eq_self]
    intro f hf
    obtain ⟨hid, -, hnumber⟩ := mem_findings hf
    rw [hid, hnumber, hp]
  · rename_i hp
    rw [List.filter_eq_nil_iff]
    intro f hf
    obtain ⟨hid, -, hnumber⟩ := mem_findings hf
    rw [hid, hnumber]
    exact hp

lemma flatMap_ite {α β : Type} (p : α → Prop) [DecidablePred p] (f : α → List β) (xs : List α) :
    (xs.flatMap fun x => if p x then f x else []) = (xs.filter p).flatMap f := by
  induction xs with
  | nil => rfl
  | cons x xs ih =>
    rw [List.flatMap_cons, ih, List.filter_cons]
    by_cases hx : p x <;> simp [hx]

lemma filter_zipIdx {lines : List (List Char)} {k start : Nat} {line : List Char}
    (h : lines[k]? = some line) :
    (lines.zipIdx start).filter (·.2 = start + k) = [(line, start + k)] := by
  induction lines generalizing k start with
  | nil => simp at h
  | cons first lines ih =>
    rw [List.zipIdx_cons, List.filter_cons]
    cases k with
    | zero =>
      have hrest : (lines.zipIdx (start + 1)).filter (·.2 = start + 0) = [] := by
        rw [List.filter_eq_nil_iff]
        intro p hp
        have hle := List.le_snd_of_mem_zipIdx hp
        simp only [decide_eq_true_eq]
        omega
      obtain rfl : first = line := by simpa using h
      rw [if_pos (by simp), hrest]
      rfl
    | succ k =>
      have hrest : (lines.zipIdx (start + 1)).filter (·.2 = start + 1 + k) =
          [(line, start + 1 + k)] := ih (by simpa using h)
      rw [Nat.add_right_comm, Nat.add_assoc start k 1] at hrest
      rw [if_neg (by simp), hrest]

/-- Of all lines and rules only one line and one rule are left. -/
lemma filter_inLines (start : Nat) {lines : List (List Char)} {k : Nat} {line : List Char}
    (hline : lines[k]? = some line) (hrule : rules.filter (·.id = rule.id) = [rule]) :
    (inLines rules (lines.zipIdx start)).filter
        (fun f => f.ruleId = rule.id ∧ f.line = start + k) = rule.findings (start + k) line := by
  have hrules (number : Nat) (line : List Char) :
      (rules.flatMap fun r => r.findings number line).filter
          (fun f => f.ruleId = rule.id ∧ f.line = start + k) =
        if number = start + k then rule.findings number line else [] := by
    have htest (r : Rule) := filter_findings
      (fun ruleId line => ruleId = rule.id ∧ line = start + k) r number line
    rw [List.filter_flatMap]
    simp only [htest, decide_eq_true_eq, ite_and]
    rw [flatMap_ite, hrule, List.flatMap_singleton]
  rw [inLines, List.filter_flatMap]
  simp only [hrules]
  rw [flatMap_ite, filter_zipIdx hline, List.flatMap_singleton]

/-- Sorting leaves findings of one severity in their order. -/
lemma filter_sort {p : Finding → Bool} (severity : Severity) {findings : List Finding}
    (h : ∀ f ∈ findings, p f → f.severity = severity) :
    (sort findings).filter p = findings.filter p := by
  rw [sort_filter]
  apply List.mergeSort_of_pairwise
  apply List.pairwise_of_forall_mem_list
  intro f hf g hg
  obtain ⟨hf, hpf⟩ := List.mem_filter.mp hf
  obtain ⟨hg, hpg⟩ := List.mem_filter.mp hg
  rw [h f hf hpf, h g hg hpg, decide_eq_true_eq]

/-- The columns that a scan reports for a rule in a line are the places of the rule's matches in it,
if the table has no other rule of that name. -/
theorem columnsOf_scan {catalog : Catalog} {language : Language} {code : String} {k : Nat}
    {line : List Char} (hline : (code.toList.splitOn '\n')[k]? = some line)
    (hrule : (catalog.rulesFor language).filter (·.id = rule.id) = [rule]) :
    columnsOf rule.id (k + 1) (scan catalog code language) =
      (rule.findings (k + 1) (Text.dropReturn line)).map (·.column) := by
  have hfilter := filter_inLines 1 (Text.getElem?_lines hline) hrule
  rw [Nat.add_comm 1 k] at hfilter
  rw [columnsOf, scan, filter_sort rule.severity, hfilter]
  intro f hf hp
  have hmem : f ∈ rule.findings (k + 1) (Text.dropReturn line) := by
    rw [← hfilter]
    exact List.mem_filter.mpr ⟨hf, hp⟩
  exact (mem_findings hmem).2.1

/-- No two rules of a built-in table have one name. -/
lemma builtin_filter_id {language : Language} (hrule : rule ∈ Catalog.builtin.rulesFor language) :
    (Catalog.builtin.rulesFor language).filter (·.id = rule.id) = [rule] := by
  have hnodup : ((Catalog.builtin.rulesFor language).map (·.id)).Nodup := by
    cases language <;> decide +kernel
  have hfilter : (Catalog.builtin.rulesFor language).filter (·.id = rule.id) =
      (Catalog.builtin.rulesFor language).filter (· = rule) := by
    refine List.filter_congr fun other hother => ?_
    rw [decide_eq_decide]
    exact ⟨fun hid => List.inj_on_of_nodup_map hnodup hother hrule hid, fun h => h ▸ rfl⟩
  rw [hfilter, List.filter_eq, List.count_eq_one_of_mem hnodup.of_map hrule]
  rfl

/-- What a built-in rule without exemption reports is where its pattern matches. -/
theorem columnsOf_builtin {language : Language} {code ruleId : String} {r : Pattern} {k : Nat}
    {line : List Char} (hline : (code.toList.splitOn '\n')[k]? = some line)
    (hrule : ∃ rule ∈ Catalog.builtin.rulesFor language, rule.id = ruleId)
    (hpattern : ∀ rule ∈ Catalog.builtin.rulesFor language, rule.id = ruleId →
      rule.pattern = r ∧ rule.exemption = none) :
    columnsOf ruleId (k + 1) (scan .builtin code language) =
      (r.matchesIn (Text.dropReturn line)).map (·.anchor + 1) := by
  obtain ⟨rule, hmem, rfl⟩ := hrule
  obtain ⟨rfl, hexemption⟩ := hpattern rule hmem rfl
  have hexcludes : rule.excludes (Text.dropReturn line) = false := by
    rw [Rule.excludes, hexemption, Option.any_none]
  rw [columnsOf_scan hline (builtin_filter_id hmem), Rule.findings, hexcludes, if_neg (by simp),
    List.map_map]
  rfl

end Finding
end Checkup

import Checkup.Proofs.Tokens

/-!
# Findings told apart

A built-in rule shows each of its matches at a character that the match takes. As the matches of a
rule in a line do not overlap, they are shown at different characters, from left to right. No two
rules of a table have one name, so line, column and name tell the findings of a scan apart.
-/

namespace Checkup

variable {language : Language} {rule : Rule} {line : List Char}

namespace Rule

/-- The matches of the rule are shown at a character that they take. -/
def showsTaken (rule : Rule) : Bool := rule.pattern.token?.any (·.consumes)

lemma showsTaken_of_mem_all (h : rule ∈ all) : rule.showsTaken := by
  have hall : ∀ rule ∈ all, rule.showsTaken := by decide +kernel
  exact hall rule h

lemma anchor_lt_stop (hrule : rule.showsTaken) {m : Match}
    (hm : m ∈ rule.pattern.matchesIn line) : m.anchor < m.stop := by
  obtain ⟨t, ht, hconsumes⟩ := (Option.any_eq_true _ _).mp hrule
  exact (Pattern.spans_token ht hm).lt hconsumes

lemma matchesIn_pairwise_anchor (hrule : rule.showsTaken) (line : List Char) :
    (rule.pattern.matchesIn line).Pairwise fun m m' => m.anchor < m'.anchor := by
  apply (Pattern.matchesIn_pairwise rule.pattern line).imp_of_mem
  intro m m' hm hm' hapart
  have hstop := anchor_lt_stop hrule hm
  rw [Pattern.matchesIn_eq] at hm'
  obtain ⟨hanchor, hstart, -, -⟩ := Match.shownAt_le hm'
  omega

lemma findings_pairwise_column (hrule : rule.showsTaken) (number : Nat) (line : List Char) :
    (rule.findings number line).Pairwise fun f g => f.column < g.column := by
  rw [Rule.findings]
  split
  · exact .nil
  · rw [List.pairwise_map]
    exact (matchesIn_pairwise_anchor hrule line).imp Nat.succ_lt_succ

end Rule

namespace Finding

variable {findings : List Finding}

lemma columnsOf_cons (ruleId : String) (number : Nat) (f : Finding) (findings : List Finding) :
    columnsOf ruleId number (f :: findings) =
      if f.ruleId = ruleId ∧ f.line = number then f.column :: columnsOf ruleId number findings
      else columnsOf ruleId number findings := by
  unfold columnsOf
  rw [List.filter_cons]
  simp only [decide_eq_true_eq]
  split <;> rfl

lemma mem_columnsOf {ruleId : String} {number column : Nat} :
    column ∈ columnsOf ruleId number findings ↔
      ∃ f ∈ findings, (f.ruleId = ruleId ∧ f.line = number) ∧ f.column = column := by
  unfold columnsOf
  simp only [List.mem_map, List.mem_filter, decide_eq_true_eq, and_assoc]

/-- Findings whose columns increase for each rule in each line are told apart by line, column and
rule. -/
lemma nodup_of_columnsOf
    (h : ∀ ruleId number, (columnsOf ruleId number findings).Pairwise (· < ·)) :
    (findings.map fun f => (f.line, f.column, f.ruleId)).Nodup := by
  induction findings with
  | nil => exact .nil
  | cons f findings ih =>
    rw [List.map_cons, List.nodup_cons]
    constructor
    · intro hmem
      obtain ⟨g, hg, heq⟩ := List.mem_map.mp hmem
      simp only [Prod.mk.injEq] at heq
      have hfirst := h f.ruleId f.line
      rw [columnsOf_cons, if_pos ⟨rfl, rfl⟩, List.pairwise_cons] at hfirst
      have hlt := hfirst.1 g.column (mem_columnsOf.mpr ⟨g, hg, ⟨heq.2.2, heq.1⟩, rfl⟩)
      omega
    · apply ih
      intro ruleId number
      have hrest := h ruleId number
      rw [columnsOf_cons] at hrest
      split at hrest
      · exact hrest.of_cons
      · exact hrest

/-- A rule reports columns in the lines of the text only, and a table has one rule of each name. -/
lemma columnsOf_scan_pairwise (code : String) (language : Language) (ruleId : String)
    (number : Nat) : (columnsOf ruleId number (scan .builtin code language)).Pairwise (· < ·) := by
  cases hcolumns : columnsOf ruleId number (scan .builtin code language) with
  | nil => exact .nil
  | cons column columns =>
    -- A reported column gives away its line and its rule.
    have hmem : column ∈ columnsOf ruleId number (scan .builtin code language) := by
      rw [hcolumns]
      exact List.mem_cons_self
    obtain ⟨f, hf, ⟨rfl, rfl⟩, -⟩ := mem_columnsOf.mp hmem
    obtain ⟨k, line, hline, rule, hrule, -, m, -, rfl⟩ := mem_scan_iff.mp hf
    obtain ⟨piece, hpiece, -⟩ := Text.exists_piece hline
    have htaken := Rule.showsTaken_of_mem_all (Rule.mem_all_of_mem_builtin hrule)
    have hpairwise : (columnsOf rule.id (k + 1) (scan .builtin code language)).Pairwise (· < ·) := by
      rw [columnsOf_scan hpiece (builtin_filter_id hrule), List.pairwise_map]
      exact Rule.findings_pairwise_column htaken (k + 1) _
    rw [← hcolumns]
    exact hpairwise

/-- No two findings of a scan with the built-in catalog have the same line, column and rule: in each
line the columns of a rule increase. -/
theorem scan_builtin_distinct (code : String) (language : Language) :
    ((scan .builtin code language).map fun f => (f.line, f.column, f.ruleId)).Nodup ∧
      ∀ ruleId number,
        (columnsOf ruleId number (scan .builtin code language)).Pairwise (· < ·) :=
  ⟨nodup_of_columnsOf (columnsOf_scan_pairwise code language),
    columnsOf_scan_pairwise code language⟩

end Finding
end Checkup

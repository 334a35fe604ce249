import Checkup.Proofs.Columns
import Checkup.Proofs.Concatenation
import Mathlib.Data.Set.Defs

/-!
# Independent rules

A rule reports the same findings whatever other rules its table has. So a scan with a part of a
table is the scan with the whole table, without the findings of the rules that are left out.
-/

namespace Checkup.Finding

variable {rules : List Rule} {findings : List Finding} {language : Language}

lemma filter_ruleId_inLines (p : String → Bool) (rules : List Rule)
    (lines : List (List Char × Nat)) :
    (inLines rules lines).filter (fun f => p f.ruleId) =
      inLines (rules.filter fun rule => p rule.id) lines := by
  unfold inLines
  rw [List.filter_flatMap]
  congr 1
  funext ⟨line, number⟩
  have htest (rule : Rule) := filter_findings (fun ruleId _ => p ruleId) rule number line
  rw [List.filter_flatMap]
  simp only [htest]
  rw [flatMap_ite]
  simp only [Bool.decide_eq_true]

/-- The findings that a list of rules contributes do not depend on the rest of the table. -/
theorem scan_filter_rules {catalog catalog' : Catalog} {language language' : Language}
    (p : String → Bool)
    (h : catalog.rulesFor language = (catalog'.rulesFor language').filter fun rule => p rule.id)
    (code : String) :
    scan catalog code language = (scan catalog' code language').filter fun f => p f.ruleId := by
  unfold scan
  rw [sort_filter, filter_ruleId_inLines, h]

lemma count_filter_le (p : Finding → Bool) (findings : List Finding) (severity : Severity) :
    Summary.count (findings.filter p) severity ≤ Summary.count findings severity := by
  unfold Summary.count
  exact List.filter_sublist.countP_le

/-- Leaving findings out makes no score lower, and links have no part in it. -/
lemma score_le_of_filter (p : Finding → Bool) (findings : List Finding)
    (links links' : List LinkResult) :
    (Summary.of findings links).score.Le (Summary.of (findings.filter p) links').score := by
  have hcount := count_filter_le p findings
  exact qualityScore_anti (hcount .error) (hcount .warning) (hcount .info)

/-- A scan with a table from which the rules of some names are removed has the findings of the scan
with the whole table, in the same order, but for those of the removed rules. Without its own four
rules the table for TypeScript is that for JavaScript, so a text has no higher score as TypeScript
than it has as JavaScript. -/
theorem scan_removed_rules (code : String) :
    (∀ (removed : Set String) [DecidablePred (· ∈ removed)] (catalog catalog' : Catalog)
      (language language' : Language),
      catalog.rulesFor language =
        (catalog'.rulesFor language').filter (fun rule => rule.id ∉ removed) →
      scan catalog code language =
        (scan catalog' code language').filter (fun f => f.ruleId ∉ removed)) ∧
      (scan .builtin code .typescript).filter (fun f => f.ruleId ∉ ["no-explicit-any",
        "no-any-cast", "no-ts-ignore", "no-non-null-assertion"]) =
          scan .builtin code .javascript ∧
      ∀ links links', (Summary.of (scan .builtin code .typescript) links).score.Le
        (Summary.of (scan .builtin code .javascript) links').score := by
  have hscript : scan .builtin code .javascript =
      (scan .builtin code .typescript).filter (fun f => f.ruleId ∉ ["no-explicit-any",
        "no-any-cast", "no-ts-ignore", "no-non-null-assertion"]) :=
    scan_filter_rules (fun id => id ∉ ["no-explicit-any", "no-any-cast", "no-ts-ignore",
      "no-non-null-assertion"]) rfl code
  refine ⟨?_, hscript.symm, ?_⟩
  · intro removed _ catalog catalog' language language' h
    exact scan_filter_rules (fun id => id ∉ removed) h code
  · intro links links'
    rw [hscript]
    exact score_le_of_filter _ _ links links'

/-- A table without two of the rules for JavaScript, which belongs to another language. -/
theorem scan_removed_rules_sql :
    let removed : Set String := {id | id ∈ ["no-eval", "eqeqeq"]}
    let rest := (Rule.javascript ++ Rule.link).filter (fun rule => rule.id ∉ removed)
    let catalog := Catalog.ofTables [(.html, []), (.sql, rest)]
    let code := "var a\neval(a == 0)"
    let declared : Finding := ⟨1, 1, "Use 'let' or 'const' instead of 'var'", .warning, "no-var"⟩
    catalog.rulesFor .sql =
        (Catalog.builtin.rulesFor .json).filter (fun rule => rule.id ∉ removed) ∧
      scan .builtin code .json =
        [⟨2, 1, "Avoid eval(): it executes arbitrary code", .error, "no-eval"⟩, declared,
          ⟨2, 8, "Use '===' instead of '=='", .warning, "eqeqeq"⟩] ∧
      scan catalog code .sql = [declared] := by
  intro removed rest catalog code declared
  have htables : catalog.rulesFor .sql =
      (Catalog.builtin.rulesFor .json).filter (fun rule => rule.id ∉ removed) := rfl
  have hscan : scan .builtin code .json =
      [⟨2, 1, "Avoid eval(): it executes arbitrary code", .error, "no-eval"⟩, declared,
        ⟨2, 8, "Use '===' instead of '=='", .warning, "eqeqeq"⟩] := by
    rw [scan, sort_eq_append]
    decide +kernel
  have hrest := (scan_removed_rules code).1 removed catalog .builtin .sql .json htables
  rw [hscan] at hrest
  exact ⟨htables, hscan, hrest⟩

end Checkup.Finding

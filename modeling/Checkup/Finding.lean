import Checkup.Catalog
import Checkup.Text.Lines

/-!
# Findings

A scan runs the rules over a text line by line. It lists its findings by severity, and those of one
severity in the order of the lines, of the rules and of the matches.
-/

namespace Checkup

/-- A defect that a rule found. Lines and columns are counted from 1. -/
structure Finding where
  line : Nat
  column : Nat
  message : String
  severity : Severity
  ruleId : String
deriving DecidableEq, Repr

def Rule.report (rule : Rule) (number : Nat) (m : Match) : Finding :=
  { line := number
    column := m.anchor + 1
    message := rule.message
    severity := rule.severity
    ruleId := rule.id }

def Rule.findings (rule : Rule) (number : Nat) (line : List Char) : List Finding :=
  if rule.excludes line then [] else (rule.pattern.matchesIn line).map (rule.report number)

namespace Finding

/-- Findings in the order of their severity; those of one severity keep their order. -/
def sort (findings : List Finding) : List Finding :=
  findings.mergeSort fun a b => a.severity.rank ≤ b.severity.rank

/-- The findings of some rules in numbered lines, in the order in which they are made. -/
def inLines (rules : List Rule) (lines : List (List Char × Nat)) : List Finding :=
  lines.flatMap fun (line, number) => rules.flatMap fun rule => rule.findings number line

/-- The findings of the catalog in a text of a language. -/
def scan (catalog : Catalog) (code : String) (language : Language) : List Finding :=
  sort (inLines (catalog.rulesFor language) ((Text.lines code.toList).zipIdx 1))

end Finding
end Checkup

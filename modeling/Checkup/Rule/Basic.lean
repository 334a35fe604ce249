import Checkup.Pattern.Match

/-!
# Rules

A rule looks for one kind of defect in a line of source text.
-/

namespace Checkup

inductive Severity
  | error
  | warning
  | info
deriving DecidableEq, Repr

namespace Severity

/-- Every severity, the worst first. -/
def all : List Severity := [error, warning, info]

def name : Severity → String
  | error => "error"
  | warning => "warning"
  | info => "info"

/-- The place of a severity in a report: the worse, the earlier. -/
def rank : Severity → Nat
  | error => 0
  | warning => 1
  | info => 2

end Severity

/-- A rule: what it looks for, and what it says about each match. Lines in which the exemption
occurs are passed over. -/
structure Rule where
  id : String
  pattern : Pattern
  message : String
  severity : Severity
  exemption : Option Pattern := none
deriving DecidableEq, Repr

/-- Where a match is reported: at its marked part, or else at its start. -/
def Match.anchor (m : Match) : Nat := (m.marked.map (·.1)).getD m.start

def Rule.excludes (rule : Rule) (line : List Char) : Bool := rule.exemption.any (·.occursIn line)

end Checkup

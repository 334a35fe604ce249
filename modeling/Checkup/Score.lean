import Checkup.Finding
import Checkup.Link.Result
import Checkup.Number.Double

/-!
# Scores and summaries

The score of a text is 100 less 5 for each error, 2 for each warning and a half for each note, and
it is kept between 0 and 100. It is computed exactly and then made a double, which changes nothing:
a double has room for the halves. Links are counted but do not change it.
-/

namespace Checkup

inductive Rating
  | excellent
  | good
  | needsImprovement
  | poor
deriving DecidableEq, Repr

namespace Rating

/-- Every rating, the best first. -/
def all : List Rating := [excellent, good, needsImprovement, poor]

def name : Rating → String
  | excellent => "Excellent"
  | good => "Good"
  | needsImprovement => "Needs Improvement"
  | poor => "Poor"

def ofScore (score : Double) : Rating :=
  if score.atLeast 80 then excellent
  else if score.atLeast 60 then good
  else if score.atLeast 40 then needsImprovement
  else poor

end Rating

/-- How many points a finding of this severity costs. -/
def Severity.penalty : Severity → Rat
  | error => 5
  | warning => 2
  | info => 1 / 2

/-- How many points these numbers of findings cost together. -/
def penalty (errors warnings notes : Nat) : Rat :=
  errors * Severity.error.penalty + warnings * Severity.warning.penalty +
    notes * Severity.info.penalty

/-- The number, or the bound below or above which it lies. -/
def clamp (low high x : Rat) : Rat := if x < low then low else if high < x then high else x

/-- The points that are left of a hundred. -/
def points (errors warnings notes : Nat) : Rat := clamp 0 100 (100 - penalty errors warnings notes)

def qualityScore (errors warnings notes : Nat) : Double := .ofRat (points errors warnings notes)

structure Summary where
  score : Double
  total : Nat
  errors : Nat
  warnings : Nat
  info : Nat
  rating : Rating
  brokenLinks : Nat
  totalLinks : Nat
deriving DecidableEq, Repr

namespace Summary

def count (findings : List Finding) (severity : Severity) : Nat :=
  findings.countP (·.severity = severity)

/-- The number of links that do not work. -/
def broken (links : List LinkResult) : Nat := links.countP (!·.ok)

def of (findings : List Finding) (links : List LinkResult) : Summary :=
  let errors := count findings .error
  let warnings := count findings .warning
  let info := count findings .info
  let score := qualityScore errors warnings info
  { score
    total := findings.length
    errors, warnings, info
    rating := .ofScore score
    brokenLinks := broken links
    totalLinks := links.length }

end Summary
end Checkup

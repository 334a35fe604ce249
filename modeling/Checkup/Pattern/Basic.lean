import Checkup.Pattern.CharSet

/-!
# Patterns

A pattern describes the texts that a rule or a heuristic looks for. Choice and repetition are
ordered: of two ways to match, the one that the pattern names first is preferred.
-/

namespace Checkup

/-- A condition on the characters on the two sides of a position. -/
inductive Assertion
  | textStart
  | textEnd
  | lineStart
  | lineEnd
  | wordEdge
  | wordInside
  | wordStart
  | wordEnd
  | wordStartHalf
  | wordEndHalf
deriving DecidableEq, Repr

def isWordAt (c : Option Char) : Bool := c.any Unicode.isWord

/-- Whether the condition holds between these two neighbours; at an end of the text there is
none. -/
def Assertion.holds (before after : Option Char) : Assertion → Bool
  | textStart => before.isNone
  | textEnd => after.isNone
  | lineStart => before.isNone || before == some '\n'
  | lineEnd => after.isNone || after == some '\n'
  | wordEdge => isWordAt before != isWordAt after
  | wordInside => isWordAt before == isWordAt after
  | wordStart => !isWordAt before && isWordAt after
  | wordEnd => isWordAt before && !isWordAt after
  | wordStartHalf => !isWordAt before
  | wordEndHalf => !isWordAt after

/-- A pattern. `alt` prefers its left side, `plus true` repeats as often as possible and
`plus false` as seldom as possible. `mark` notes the part of the text that its pattern matched. -/
inductive Pattern
  | empty
  | char (s : CharSet)
  | look (a : Assertion)
  | seq (r s : Pattern)
  | alt (r s : Pattern)
  | plus (greedy : Bool) (r : Pattern)
  | mark (r : Pattern)
deriving DecidableEq, Repr

namespace Pattern

instance : Append Pattern := ⟨seq⟩

instance : OrOp Pattern := ⟨alt⟩

def oneOrMore (r : Pattern) : Pattern := plus true r

/-- Any number, as many as possible. -/
def zeroOrMore (r : Pattern) : Pattern := alt (plus true r) empty

/-- Any number, as few as possible. -/
def few (r : Pattern) : Pattern := alt empty (plus false r)

/-- One or none, preferably one. -/
def optional (r : Pattern) : Pattern := alt r empty

def sequence : List Pattern → Pattern
  | [] => empty
  | r :: rs => rs.foldl seq r

/-- The first that leads to a match. -/
def choice : List Pattern → Pattern
  | [] => char .nothing
  | [r] => r
  | r :: rs => alt r (choice rs)

def text (s : String) : Pattern := sequence (s.toList.map fun c => char (.one c))

def caselessText (s : String) : Pattern :=
  sequence (s.toList.map fun c => char (.caseless (.one c)))

def texts (ss : List String) : Pattern := choice (ss.map text)

def caselessTexts (ss : List String) : Pattern := choice (ss.map caselessText)

/-- A boundary between a word character and another character or an end of the text. -/
def wordEdge : Pattern := look .wordEdge

def spaces : Pattern := zeroOrMore (char .space)

def spaces₁ : Pattern := oneOrMore (char .space)

def word : Pattern := oneOrMore (char .word)

def notNewline : Pattern := char (.compl (.one '\n'))

end Pattern
end Checkup

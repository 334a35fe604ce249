import Checkup.Pattern.Match
import Checkup.Text.Blank
import Checkup.Text.Lines

/-!
# Metrics

Counts that describe the size and shape of a text. They rest on the text alone and not on a parse of
it, so the number of functions is an estimate.
-/

namespace Checkup

structure Metrics where
  lineCount : Nat
  characterCount : Nat
  wordCount : Nat
  functionCount : Nat
  commentCount : Nat
deriving DecidableEq, Repr

namespace Metrics
open Pattern

/-- A named function, a named value or an arrow. -/
def functionStart : Pattern :=
  choice [
    wordEdge ++ text "function" ++ spaces₁ ++ word,
    wordEdge ++ texts ["const", "let"] ++ spaces₁ ++ word ++ spaces ++ text "=" ++
      char (.allBut "="),
    text "=>"]

/-- Two slashes that do not stand behind a colon, as they do in an address. -/
def lineComment : Pattern := (look .lineStart ||| char (.allBut ":")) ++ text "//"

/-- A comment between its signs, over any number of lines. -/
def blockComment : Pattern := text "/*" ++ few (char .everything) ++ text "*/"

def commentsIn (code : List Char) : Nat :=
  (lineComment.matchesIn code).length + (blockComment.matchesIn code).length

def measure (code : String) : Metrics :=
  let text := code.toList
  { lineCount := (Text.pieces text).length
    characterCount := text.length
    wordCount := Text.wordCount text
    functionCount := (functionStart.matchesIn text).length
    commentCount := commentsIn text }

end Metrics
end Checkup

/-!
# Lines

A text is cut at its line breaks. The line ends of other systems leave a carriage return at the end
of a line, which does not belong to it.
-/

namespace Checkup.Text

/-- The pieces of a text between its line breaks, one more than there are breaks. -/
def pieces (text : List Char) : List (List Char) :=
  text.foldr
    (fun c rest =>
      if c = '\n' then [] :: rest
      else match rest with
        | piece :: rest => (c :: piece) :: rest
        | [] => [[c]])
    [[]]

/-- A line without the carriage return at its end, if it has one. -/
def dropReturn (line : List Char) : List Char :=
  if line.getLast? = some '\r' then line.dropLast else line

def lines (text : List Char) : List (List Char) := (pieces text).map dropReturn

/-- The first line; a carriage return at the end of a text without a line break belongs to it. -/
def firstLine (text : List Char) : List Char :=
  let piece := text.takeWhile (· ≠ '\n')
  if piece.length < text.length then dropReturn piece else piece

end Checkup.Text

import Checkup.Unicode.Property

/-!
# White space around and between words
-/

namespace Checkup.Text

/-- A text without the white space at its two ends. -/
def trim (text : List Char) : List Char :=
  ((text.dropWhile Unicode.isSpace).reverse.dropWhile Unicode.isSpace).reverse

/-- The number of maximal runs of characters that are not white space. -/
def wordCount (text : List Char) : Nat :=
  (text.foldl
    (fun (inWord, count) c =>
      if Unicode.isSpace c then (false, count)
      else if inWord then (true, count) else (true, count + 1))
    (false, 0)).2

def contains (part : List Char) : List Char → Bool
  | [] => part.isEmpty
  | c :: text => part.isPrefixOf (c :: text) || contains part text

end Checkup.Text

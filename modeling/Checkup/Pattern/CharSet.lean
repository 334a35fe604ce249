import Checkup.Unicode.Property

/-!
# Character sets

The sets of characters that a pattern can name, and membership in them.
-/

namespace Checkup

inductive CharSet
  | one (c : Char)
  | oneOf (cs : List Char)
  | range (lo hi : Char)
  | space
  | digit
  | word
  | union (a b : CharSet)
  | inter (a b : CharSet)
  | compl (a : CharSet)
  | caseless (a : CharSet)
deriving DecidableEq, Repr

namespace CharSet

/-- Membership. A character is in `caseless a` when it shares its case folding with a member
of `a`. -/
def contains : CharSet → Char → Bool
  | one d, c => c == d
  | oneOf ds, c => ds.contains c
  | range lo hi, c => lo ≤ c && c ≤ hi
  | space, c => Unicode.isSpace c
  | digit, c => Unicode.isDigit c
  | word, c => Unicode.isWord c
  | union a b, c => a.contains c || b.contains c
  | inter a b, c => a.contains c && b.contains c
  | compl a, c => !a.contains c
  | caseless a, c =>
    a.contains (Unicode.fold c) || a.contains c || (Unicode.unfold (Unicode.fold c)).any a.contains

def nothing : CharSet := oneOf []

def everything : CharSet := compl nothing

def of (text : String) : CharSet := oneOf text.toList

/-- Every character that the text does not have. -/
def allBut (text : String) : CharSet := compl (of text)

def diff (a b : CharSet) : CharSet := inter a (compl b)

instance : OrOp CharSet := ⟨union⟩

end CharSet
end Checkup

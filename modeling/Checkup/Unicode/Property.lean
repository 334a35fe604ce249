import Checkup.Unicode.Boundaries
import Checkup.Unicode.WordTable
import Checkup.Unicode.DigitTable
import Checkup.Unicode.FoldTable

/-!
# Character properties

White space, decimal digits, word characters and simple case folding. Each has a direct rule on
ASCII and a table above it.
-/

namespace Checkup.Unicode

/-- The characters with the property White_Space. -/
def isSpace (c : Char) : Bool :=
  let n := c.toNat
  (9 ≤ n && n ≤ 13) || n == 0x20 || n == 0x85 || n == 0xA0 || n == 0x1680 ||
    (0x2000 ≤ n && n ≤ 0x200A) || n == 0x2028 || n == 0x2029 || n == 0x202F || n == 0x205F ||
    n == 0x3000

/-- Decimal digits of every script. -/
def isDigit (c : Char) : Bool :=
  if c.toNat < 128 then c.isDigit else inside digitPoints c.toNat

/-- Alphabetic characters, marks, decimal digits, connector punctuation and join controls. -/
def isWord (c : Char) : Bool :=
  if c.toNat < 128 then c.isAlphanum || c == '_' else inside wordPoints c.toNat

/-- The representative that a character shares with all characters that differ from it in case
alone. -/
def fold (c : Char) : Char :=
  if c.toNat < 128 then c.toLower
  else
    let i := firstAbove (fun i => (foldRanges.getD i (0, 0, 1, 0)).1) c.toNat foldRanges.size 0
      foldRanges.size
    let (first, last, step, target) := foldRanges.getD (i - 1) (0, 0, 1, 0)
    if first ≤ c.toNat && c.toNat ≤ last && (c.toNat - first) % step == 0 then
      Char.ofNat (target + (c.toNat - first))
    else c

/-- The characters other than `c` that fold to `c`. -/
def unfold (c : Char) : List Char :=
  let candidates :=
    if c.toNat < 128 then
      c.toUpper :: (if c == 's' then ['ſ'] else if c == 'k' then ['K'] else [])
    else
      foldRanges.toList.filterMap fun (first, last, step, target) =>
        let offset := c.toNat - target
        if target ≤ c.toNat && offset % step == 0 && first + offset ≤ last then
          some (Char.ofNat (first + offset))
        else none
  candidates.filter fun d => fold d == c && d != c

end Checkup.Unicode

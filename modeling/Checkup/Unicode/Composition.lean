import Checkup.Unicode.Rows
import Checkup.Unicode.CompositionTable

/-!
# Canonical composition

The composed normal form of a text: every character is decomposed, marks are put into their
canonical order, and then what can be composed is composed. Syllables of Hangul follow an
arithmetic rule, all else the tables.
-/

namespace Checkup.Unicode

def decompositionRows : Array (Array Nat) := rows decompositions

def combiningRows : Array (Array Nat) := rows combiningRuns

def uncomposedColumn : Array Nat := column uncomposed

/-- The compositions, `first, second, result`, ordered by the first and then by the second. -/
def compositionRows : Array (Array Nat) :=
  let pairs := decompositionRows.filterMap fun row =>
    if row.size == 3 && !uncomposedColumn.contains (row.getD 0 0) then
      some #[row.getD 1 0 * 0x200000 + row.getD 2 0, row.getD 0 0]
    else none
  (pairs.toList.mergeSort fun a b => a.getD 0 0 ≤ b.getD 0 0).toArray

/-- The class by which a mark is ordered, 0 for a character that starts a sequence. -/
def combiningClass (c : Char) : Nat := if c.toNat < 0x300 then 0 else runValue combiningRows c.toNat

/-- A character as the one or two characters that it is composed of, if it is. -/
def decomposeStep (c : Char) : List Char :=
  let n := c.toNat
  if n < 0xC0 then [c]
  else if 0xAC00 ≤ n && n < 0xAC00 + 11172 then
    let s := n - 0xAC00
    if s % 28 = 0 then [Char.ofNat (0x1100 + s / 588), Char.ofNat (0x1161 + s % 588 / 28)]
    else [Char.ofNat (0xAC00 + s / 28 * 28), Char.ofNat (0x11A7 + s % 28)]
  else
    let row := lastRow decompositionRows n
    if row.getD 0 0 == n then (row.toList.drop 1).map Char.ofNat else [c]

/-- The full decomposition of a character; no decomposition is deeper than `depth`. -/
def decompose : (depth : Nat) → Char → List Char
  | 0, c => [c]
  | depth + 1, c =>
    match decomposeStep c with
    | [d] => if d == c then [c] else decompose depth d
    | ds => ds.flatMap (decompose depth)

/-- Puts a mark before the marks of higher classes at the end of a reversed text. -/
def insertMark (c : Char) : List Char → List Char
  | [] => [c]
  | d :: ds =>
    if combiningClass c ≠ 0 && combiningClass c < combiningClass d then d :: insertMark c ds
    else c :: d :: ds

/-- The decomposed text in canonical order. -/
def decomposed (text : List Char) : List Char :=
  ((text.flatMap (decompose 8)).foldl (fun done c => insertMark c done) []).reverse

/-- The character that two characters compose to, if there is one. -/
def composePair (a b : Char) : Option Char :=
  let x := a.toNat
  let y := b.toNat
  if 0x1100 ≤ x && x < 0x1113 && 0x1161 ≤ y && y < 0x1176 then
    some (Char.ofNat (0xAC00 + ((x - 0x1100) * 21 + (y - 0x1161)) * 28))
  else if 0xAC00 ≤ x && x < 0xAC00 + 11172 && (x - 0xAC00) % 28 = 0 && 0x11A7 < y && y < 0x11C3 then
    some (Char.ofNat (x + (y - 0x11A7)))
  else
    let row := lastRow compositionRows (x * 0x200000 + y)
    if row.getD 0 0 == x * 0x200000 + y then some (Char.ofNat (row.getD 1 0)) else none

/-- What composition has done: the text before the last starter, that starter, and the marks behind
it that stay, both lists reversed. -/
structure Composing where
  before : List Char := []
  starter : Option Char := none
  marks : List Char := []

/-- Takes one more character. It joins the starter unless a mark of its class or a higher one, or
another starter, stands between. -/
def Composing.next (s : Composing) (c : Char) : Composing :=
  let cls := combiningClass c
  let blocked := match s.marks with
    | [] => false
    | d :: _ => combiningClass d == 0 || combiningClass d ≥ cls
  let joined := if blocked then none else s.starter.bind (composePair · c)
  match joined with
  | some d => { s with starter := some d }
  | none =>
    if cls == 0 then { before := s.marks ++ s.starter.toList ++ s.before, starter := some c }
    else { s with marks := c :: s.marks }

def composed (text : List Char) : List Char :=
  let s := (decomposed text).foldl Composing.next {}
  (s.marks ++ s.starter.toList ++ s.before).reverse

end Checkup.Unicode

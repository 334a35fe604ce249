import Checkup.Unicode.Boundaries

/-!
# Tables written as text

A large table is written as rows of hexadecimal numbers: white space separates the rows, and commas
the numbers of a row.
-/

namespace Checkup.Unicode

/-- The value of a hexadecimal digit; other characters count as 0. -/
def hexValue (c : Char) : Nat :=
  if c.isDigit then c.toNat - 48
  else if 'A' ≤ c && c ≤ 'F' then c.toNat - 55
  else if 'a' ≤ c && c ≤ 'f' then c.toNat - 87
  else 0

/-- The rows read so far, the row and the number being read. -/
structure RowReader where
  rows : Array (Array Nat) := #[]
  row : Array Nat := #[]
  number : Option Nat := none

def RowReader.endNumber (r : RowReader) : RowReader :=
  match r.number with
  | none => r
  | some n => { r with row := r.row.push n, number := none }

def RowReader.endRow (r : RowReader) : RowReader :=
  let r := r.endNumber
  if r.row.isEmpty then r else { r with rows := r.rows.push r.row, row := #[] }

def RowReader.next (r : RowReader) (c : Char) : RowReader :=
  if c == ',' then r.endNumber
  else if c.isWhitespace then r.endRow
  else { r with number := some (16 * r.number.getD 0 + hexValue c) }

def rows (text : String) : Array (Array Nat) :=
  (text.toList.foldl RowReader.next {}).endRow.rows

def column (text : String) : Array Nat := (rows text).map (·.getD 0 0)

/-- The last row whose first number is at most `x`, in a table ordered by first numbers. -/
def lastRow (table : Array (Array Nat)) (x : Nat) : Array Nat :=
  let i := firstAbove (fun i => (table.getD i #[]).getD 0 0) x table.size 0 table.size
  if i = 0 then #[] else table.getD (i - 1) #[]

/-- The value that a table of runs `first, last, value` gives to `x`, 0 outside of all runs. -/
def runValue (table : Array (Array Nat)) (x : Nat) : Nat :=
  let row := lastRow table x
  if row.getD 0 1 ≤ x && x ≤ row.getD 1 0 then row.getD 2 0 else 0

end Checkup.Unicode

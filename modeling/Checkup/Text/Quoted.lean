import Checkup.Unicode.Rows
import Checkup.Unicode.PrintableTable

/-!
# Quoted text

A text in quotation marks, in which characters that could not be told apart are written as escapes.
-/

namespace Checkup.Text

/-- The boundaries of the printable characters, read from their table. -/
def printableColumn : Array Nat := Unicode.column Unicode.printablePoints

def isPrintable (c : Char) : Bool :=
  if c.toNat < 128 then 32 ≤ c.toNat && c.toNat < 127 else Unicode.inside printableColumn c.toNat

def quoteChar (c : Char) : List Char :=
  if c == '\x00' then ['\\', '0']
  else if c == '\t' then ['\\', 't']
  else if c == '\r' then ['\\', 'r']
  else if c == '\n' then ['\\', 'n']
  else if c == '\\' || c == '"' then ['\\', c]
  else if isPrintable c then [c]
  else ['\\', 'u', '\x7b'] ++ Nat.toDigits 16 c.toNat ++ ['\x7d']

def quote (text : String) : String :=
  String.ofList ('"' :: text.toList.flatMap quoteChar ++ ['"'])

end Checkup.Text

/-!
# Percent-encoding

Bytes that a part of an address cannot have are written as a percent sign and two hexadecimal
digits.
-/

namespace Checkup.Url

def hexDigit (n : Nat) : Char := Char.ofNat (if n < 10 then 48 + n else 55 + n)

/-- The value of a hexadecimal digit in either case. -/
def hexValue? (c : Char) : Option Nat :=
  if c.isDigit then some (c.toNat - 48)
  else if 'a' ≤ c && c ≤ 'f' then some (c.toNat - 87)
  else if 'A' ≤ c && c ≤ 'F' then some (c.toNat - 55)
  else none

/-- A byte as a percent sign and two digits. -/
def escapeByte (b : UInt8) : List Char :=
  ['%', hexDigit (b.toNat / 16), hexDigit (b.toNat % 16)]

/-- Writes the characters for which `escaped` holds as escaped bytes, and the others as they
are. -/
def percentEncode (escaped : Char → Bool) (text : List Char) : List Char :=
  text.flatMap fun c => if escaped c then (String.utf8EncodeChar c).flatMap escapeByte else [c]

/-- Control characters, and all characters above ASCII. -/
def isControl (c : Char) : Bool := c.toNat < 32 || 126 < c.toNat

def escapedInFragment (c : Char) : Bool := isControl c || " \"<>`".toList.contains c

/-- What is escaped in the query of an address that has a host. -/
def escapedInQuery (isSpecial : Bool) (c : Char) : Bool :=
  isControl c || " \"#<>".toList.contains c || (isSpecial && c == '\'')

def escapedInPath (c : Char) : Bool := escapedInFragment c || "#?\x7b\x7d".toList.contains c

/-- The bytes of a text in which escapes stand for single bytes. A percent sign that starts no
escape stands for itself. -/
def percentDecode : List Char → List UInt8
  | [] => []
  | '%' :: a :: b :: cs =>
    match hexValue? a, hexValue? b with
    | some x, some y => UInt8.ofNat (16 * x + y) :: percentDecode cs
    | _, _ => 37 :: percentDecode (a :: b :: cs)
  | c :: cs => String.utf8EncodeChar c ++ percentDecode cs

end Checkup.Url

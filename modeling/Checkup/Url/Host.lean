import Checkup.Url.Domain
import Checkup.Url.Percent

/-!
# Hosts

The host of a web address is a domain name, or a number for version 4 of the internet protocol, or
eight numbers in brackets for version 6.
-/

namespace Checkup.Url

inductive Host
  | domain (name : String)
  | ipv4 (address : Nat)
  | ipv6 (pieces : List Nat)
  | uninterpreted (name : String)
deriving DecidableEq, Repr

namespace Host
open Domain (splitAtChar)

/-- The value of digits to a base, if all characters are such digits. -/
def ofDigits? (base : Nat) (digits : List Char) : Option Nat :=
  digits.foldlM (fun n c => (hexValue? c).bind fun d =>
    if d < base then some (base * n + d) else none) 0

/-- One part of an address of version 4: decimal, or octal behind a zero, or hexadecimal behind a
zero and an x. -/
def ipv4Part? : List Char → Option Nat
  | [] => none
  | '0' :: 'x' :: digits => ofDigits? 16 digits
  | '0' :: 'X' :: digits => ofDigits? 16 digits
  | ['0'] => some 0
  | '0' :: digits => ofDigits? 8 digits
  | digits => ofDigits? 10 digits

/-- The parts between the dots, without an empty one at the end. -/
def dottedParts (name : List Char) : List (List Char) :=
  let parts := splitAtChar '.' name
  if 1 < parts.length && parts.getLast? == some [] then parts.dropLast else parts

/-- Whether the last part is a number, so that the name has to be an address of version 4. -/
def endsInNumber (name : List Char) : Bool :=
  match (dottedParts name).getLast? with
  | none => false
  | some last => (last ≠ [] && last.all Char.isDigit) || (ipv4Part? last).isSome

/-- Joins the parts of an address of version 4: every part but the last is a byte, and the last one
fills the bytes that are left. -/
def joinParts : (bytesLeft : Nat) → List Nat → Option Nat
  | _, [] => none
  | bytesLeft, [last] => if last < Nat.pow 256 bytesLeft then some last else none
  | bytesLeft, n :: ns =>
    if n < 256 then (joinParts (bytesLeft - 1) ns).map (n * Nat.pow 256 (bytesLeft - 1) + ·)
    else none

/-- The address of version 4 that a name writes. -/
def ipv4? (name : List Char) : Option Nat := do
  let parts ← (dottedParts name).mapM ipv4Part?
  if 4 < parts.length then none
  joinParts 4 parts

/-- The decimal byte at the start of a text, without needless zeros. -/
def decimalByte? (cs : List Char) : Option (Nat × List Char) :=
  let digits := cs.takeWhile Char.isDigit
  match digits, ofDigits? 10 digits with
  | [], _ => none
  | '0' :: _ :: _, _ => none
  | _, some n => if n < 256 then some (n, cs.drop digits.length) else none
  | _, none => none

/-- An address of version 4 with its dots at the end of one of version 6, as two pieces. -/
def trailingIpv4? (cs : List Char) : Option (List Nat) := do
  let dot : List Char → Option (List Char)
    | '.' :: cs => some cs
    | _ => none
  let (a, cs) ← decimalByte? cs
  let (b, cs) ← decimalByte? (← dot cs)
  let (c, cs) ← decimalByte? (← dot cs)
  let (d, cs) ← decimalByte? (← dot cs)
  if cs ≠ [] then none
  some [256 * a + b, 256 * c + d]

/-- Reads the pieces of an address of version 6 up to its end or to a double colon. The flag tells
which of the two it was. -/
def pieces? : (fuel : Nat) → List Char → Option (List Nat × Option (List Char))
  | 0, _ => none
  | fuel + 1, cs => do
    let digits := (cs.takeWhile fun c => (hexValue? c).isSome).take 4
    let rest := cs.drop digits.length
    let value ← ofDigits? 16 digits
    match digits, rest with
    | _ :: _, [] => some ([value], none)
    | _ :: _, [':', ':'] => some ([value], some [])
    | _ :: _, ':' :: ':' :: rest => some ([value], some rest)
    | _ :: _, ':' :: c :: rest =>
      let (values, gap) ← pieces? fuel (c :: rest)
      some (value :: values, gap)
    | _ :: _, '.' :: _ => (trailingIpv4? cs).map fun values => (values, none)
    | _, _ => none

/-- The eight pieces of the address of version 6 that a text writes; a double colon stands for the
zeros that are missing. -/
def ipv6? (cs : List Char) : Option (List Nat) := do
  let (front, gap) ← match cs with
    | ':' :: ':' :: rest => some ([], some rest)
    | _ => pieces? 9 cs
  match gap with
  | none => if front.length = 8 then some front else none
  | some [] =>
    if front.length < 8 then some (front ++ List.replicate (8 - front.length) 0) else none
  | some rest =>
    let (back, second) ← pieces? 9 rest
    if second.isSome || 8 ≤ front.length + back.length then none
    some (front ++ List.replicate (8 - front.length - back.length) 0 ++ back)

def forbidden (c : Char) : Bool := "\x00\t\n\r #/:<>?@[\\]^|".toList.contains c

/-- The host that a text writes. The hosts of unknown schemes are not interpreted. -/
def read? (isSpecial : Bool) (text : List Char) : Option Host :=
  match text with
  | '[' :: rest =>
    if rest.getLast? == some ']' then (ipv6? rest.dropLast).map ipv6 else none
  | _ =>
    if isSpecial then do
      let name ← String.fromUTF8? (ByteArray.mk (percentDecode text).toArray)
      let ascii ← Domain.toAscii name.toList
      if ascii = [] then none
      if endsInNumber ascii then (ipv4? ascii).map ipv4 else some (domain (String.ofList ascii))
    else if text.any forbidden then none
    else some (uninterpreted (String.ofList (percentEncode isControl text)))

/-- The longest run of two or more zeros, the first of equal ones, as its start and length. -/
def longestZeros : (index : Nat) → (best current : Nat × Nat) → List Nat → Nat × Nat
  | _, best, current, [] => if best.2 < current.2 then current else best
  | index, best, current, n :: ns =>
    if n = 0 then
      let current := if current.2 = 0 then (index, 1) else (current.1, current.2 + 1)
      longestZeros (index + 1) best current ns
    else longestZeros (index + 1) (if best.2 < current.2 then current else best) (0, 0) ns

def writePiece (n : Nat) : List Char := Nat.toDigits 16 n

def write : Host → String
  | domain name => name
  | uninterpreted name => name
  | ipv4 n =>
    ".".intercalate
      ([n / Nat.pow 2 24, n / Nat.pow 2 16 % 256, n / Nat.pow 2 8 % 256, n % 256].map toString)
  | ipv6 pieces =>
    let (start, length) := longestZeros 0 (0, 0) (0, 0) pieces
    let colon := [':']
    let join (ns : List Nat) : List Char := colon.intercalate (ns.map writePiece)
    let inner :=
      if length < 2 then join pieces
      else join (pieces.take start) ++ [':', ':'] ++ join (pieces.drop (start + length))
    String.ofList ('[' :: inner ++ [']'])

end Host
end Checkup.Url

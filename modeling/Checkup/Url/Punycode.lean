/-!
# Punycode

Labels of domain names are written in ASCII: first the ASCII characters of the label, and then, in
digits to the base 36, where the others are to be inserted.
-/

namespace Checkup.Url.Punycode

def digit (value : Nat) : Char := Char.ofNat (if value < 26 then 97 + value else 22 + value)

/-- The value of a digit in either case. -/
def digitValue? (c : Char) : Option Nat :=
  if c.isDigit then some (c.toNat - 22)
  else if c.isUpper then some (c.toNat - 65)
  else if c.isLower then some (c.toNat - 97)
  else none

/-- Divides a large difference down, and counts by how much the bias grows. -/
def shrink : (rounds delta bias : Nat) → Nat × Nat
  | 0, delta, bias => (delta, bias)
  | rounds + 1, delta, bias =>
    if 455 < delta then shrink rounds (delta / 35) (bias + 36) else (delta, bias)

/-- The bias after a difference, for a label that now has `count` characters. -/
def adapt (delta count : Nat) (isFirst : Bool) : Nat :=
  let delta := if isFirst then delta / 700 else delta / 2
  let (delta, bias) := shrink 32 (delta + delta / count) 0
  bias + 36 * delta / (delta + 38)

/-- The value from which on the digit at `position` is not the last one. -/
def threshold (position bias : Nat) : Nat :=
  if position ≤ bias then 1 else if bias + 26 ≤ position then 26 else position - bias

def firstBias : Nat := 72

def maxDelta : Nat := Nat.pow 2 32

/-- Reads one difference and adds it to `delta`. -/
def readDelta (bias : Nat) : (position weight delta : Nat) → List Char → Option (Nat × List Char)
  | _, _, _, [] => none
  | position, weight, delta, c :: cs =>
    match digitValue? c with
    | none => none
    | some value =>
      let delta := delta + value * weight
      let t := threshold position bias
      if maxDelta ≤ delta || maxDelta ≤ weight then none
      else if value < t then some (delta, cs)
      else readDelta bias (position + 36) (weight * (36 - t)) delta cs

/-- Reads the insertions into a label. The next character is at least `n`, and places are counted
on from `place`; each insertion takes a digit or more, so the length of the text is fuel enough. -/
def readInsertions : (fuel : Nat) → (isFirst : Bool) → (n place bias : Nat) →
    (label : List Char) → List Char → Option (List Char)
  | _, _, _, _, _, label, [] => some label
  | 0, _, _, _, _, _, _ => none
  | fuel + 1, isFirst, n, place, bias, label, cs => do
    let (delta, rest) ← readDelta bias 36 1 place cs
    let count := label.length + 1
    let n := n + delta / count
    if !n.isValidChar then none
    else
      let label := label.insertIdx (delta % count) (Char.ofNat n)
      readInsertions fuel false n (delta % count + 1) (adapt (delta - place) count isFirst) label
        rest

/-- The label that a text writes; the last hyphen ends its ASCII characters. -/
def decode (text : List Char) : Option (List Char) :=
  let digits := (text.reverse.takeWhile (· != '-')).reverse
  let ascii := text.take (text.length - digits.length - 1)
  readInsertions digits.length true 128 0 firstBias ascii digits

def writeDelta (bias : Nat) : (fuel position delta : Nat) → List Char
  | 0, _, _ => []
  | fuel + 1, position, delta =>
    let t := threshold position bias
    if delta < t then [digit delta]
    else digit (t + (delta - t) % (36 - t)) ::
      writeDelta bias fuel (position + 36) ((delta - t) / (36 - t))

/-- How far writing has come: the difference since the last insertion, the bias, the number of
characters written, and the digits, reversed. -/
structure Writing where
  delta : Nat
  bias : Nat
  count : Nat
  isFirst : Bool
  digits : List Char

/-- Passes the character `c` of the label while the characters `n` are being inserted. -/
def Writing.pass (n : Nat) (w : Writing) (c : Char) : Writing :=
  if c.toNat < n then { w with delta := w.delta + 1 }
  else if c.toNat = n then
    { delta := 0
      bias := adapt w.delta (w.count + 1) w.isFirst
      count := w.count + 1
      isFirst := false
      digits := (writeDelta w.bias 32 36 w.delta).reverse ++ w.digits }
  else w

/-- Inserts the characters of each code point in turn; those below `n` are written. -/
def writeInsertions (label : List Char) : (codes : List Nat) → (n : Nat) → Writing → List Char
  | [], _, w => w.digits.reverse
  | m :: codes, n, w =>
    let w := { w with delta := w.delta + (m - n) * (w.count + 1) }
    let w := label.foldl (Writing.pass m) w
    writeInsertions label codes (m + 1) { w with delta := w.delta + 1 }

def encode (label : List Char) : List Char :=
  let ascii := label.filter fun c => c.toNat < 128
  let codes := ((label.map Char.toNat).filter (128 ≤ ·)).mergeSort.eraseDups
  (if ascii.isEmpty then [] else ascii ++ ['-']) ++
    writeInsertions label codes 128 ⟨0, firstBias, ascii.length, true, []⟩

end Checkup.Url.Punycode

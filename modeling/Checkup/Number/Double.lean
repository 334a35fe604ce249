/-!
# Double-precision numbers

The numbers with 53 binary digits, as exact values: rounding a ratio to the nearest of them,
comparing them with whole numbers, and the shortest decimal digits that stand for one.
-/

namespace Checkup

/-- A double-precision number. A finite one is `significand * 2 ^ exponent`, up to its sign. -/
inductive Double
  | finite (negative : Bool) (significand : Nat) (exponent : Int)
  | infinite (negative : Bool)
  | notANumber
deriving DecidableEq, Repr

namespace Double

def isFinite : Double → Bool
  | finite .. => true
  | infinite _ | notANumber => false

def minExponent : Int := -1074

/-- `numerator / denominator * 2 ^ -exponent` as a ratio of natural numbers. -/
def scale (numerator denominator : Nat) (exponent : Int) : Nat × Nat :=
  if exponent < 0 then (numerator * Nat.pow 2 (-exponent).toNat, denominator)
  else (numerator, denominator * Nat.pow 2 exponent.toNat)

/-- The whole number nearest to a ratio, the even one of two. -/
def roundHalfEven (numerator denominator : Nat) : Nat :=
  let quotient := numerator / denominator
  let twice := 2 * (numerator % denominator)
  if twice < denominator || (twice == denominator && quotient % 2 == 0) then quotient
  else quotient + 1

/-- The double nearest to a ratio, the one with an even significand of two. -/
def ofRatio (negative : Bool) (numerator denominator : Nat) : Double :=
  if numerator = 0 then .finite negative 0 0
  else
    let high : Int := (numerator.log2 : Int) - (denominator.log2 : Int) - 52
    let (n, d) := scale numerator denominator high
    let exponent := max (if n / d < Nat.pow 2 52 then high - 1 else high) minExponent
    let (n, d) := scale numerator denominator exponent
    let significand := roundHalfEven n d
    let (significand, exponent) :=
      if significand = Nat.pow 2 53 then (Nat.pow 2 52, exponent + 1) else (significand, exponent)
    if exponent > 971 then .infinite negative else .finite negative significand exponent

def ofInt (n : Int) : Double := ofRatio (n < 0) n.natAbs 1

/-- The double nearest to a rational number. -/
def ofRat (q : Rat) : Double := ofRatio (q.num < 0) q.num.natAbs q.den

/-- The double nearest to `coefficient * 10 ^ exponent`. -/
def ofDecimal (negative : Bool) (coefficient : Nat) (exponent : Int) : Double :=
  if exponent < 0 then ofRatio negative coefficient (Nat.pow 10 (-exponent).toNat)
  else ofRatio negative (coefficient * Nat.pow 10 exponent.toNat) 1

def atLeast (bound : Nat) : Double → Bool
  | finite negative significand exponent =>
    let (n, d) := scale significand 1 (-exponent)
    if negative then bound == 0 && significand == 0 else bound * d ≤ n
  | infinite negative => !negative
  | notANumber => false

/-- The same value with the significand as large as doubles have it. -/
def normalize (significand : Nat) (exponent : Int) : Nat × Int :=
  let shift := min (52 - significand.log2) (exponent - minExponent).toNat
  (significand * Nat.pow 2 shift, exponent - shift)

/-- The decimal exponent of a positive ratio: the largest `e` with `10 ^ e` at most the ratio. -/
def decimalExponent (numerator denominator : Nat) : Int :=
  let atLeastPower (e : Int) : Bool :=
    if e < 0 then denominator ≤ numerator * Nat.pow 10 (-e).toNat
    else denominator * Nat.pow 10 e.toNat ≤ numerator
  let guess : Int := ((numerator.log2 : Int) - (denominator.log2 : Int)) * 30103 / 100000
  if atLeastPower (guess + 1) then guess + 1
  else if atLeastPower guess then guess
  else if atLeastPower (guess - 1) then guess - 1
  else guess - 2

/-- The nearer of the two multiples of `10 ^ exponent` around `value`, or the other one, if it lies
in the interval from `low` to `high`; all three are given over the same denominator. -/
def nearestIn (closed : Bool) (low value high denominator : Nat) (exponent : Int) : Option Nat :=
  let unit := if exponent < 0 then denominator else denominator * Nat.pow 10 exponent.toNat
  let up (n : Nat) : Nat := if exponent < 0 then n * Nat.pow 10 (-exponent).toNat else n
  let below := up value / unit
  let inInterval (digits : Nat) : Bool :=
    if closed then up low ≤ digits * unit && digits * unit ≤ up high
    else up low < digits * unit && digits * unit < up high
  let candidates :=
    if roundHalfEven (up value) unit = below then [below, below + 1] else [below + 1, below]
  candidates.find? inInterval

/-- The fewest digits that stand for the positive number `significand * 2 ^ exponent`, as a whole
number and the exponent of ten behind it. The numbers that round to it reach half of the way to the
next ones, which is a quarter of the way to both where the distance halves. -/
def shortest (significand : Nat) (exponent : Int) : Nat × Int :=
  let (m, e) := normalize significand exponent
  let (quarter, denominator) := scale 1 1 (2 - e)
  let reach := if m = Nat.pow 2 52 && e > minExponent then 1 else 2
  let low := (4 * m - reach) * quarter
  let value := 4 * m * quarter
  let high := (4 * m + 2) * quarter
  let first := decimalExponent value denominator
  let found := (List.range 17).findSome? fun (k : Nat) =>
    (nearestIn (m % 2 == 0) low value high denominator (first - k)).map fun digits =>
      (digits, first - (k : Int))
  match found with
  | some (10, e10) => (1, e10 + 1)
  | some (digits, e10) => (digits, e10)
  | none => (0, 0)

/-- Digits and an exponent of ten as text: positional where the number has at most 16 digits before
the point and at most 4 zeros behind it, and with an exponent otherwise. -/
def writeDecimal (digits : Nat) (exponent : Int) : String :=
  let ds := (toString digits).toList
  let point : Int := ds.length + exponent
  let zeros (n : Int) : List Char := List.replicate n.toNat '0'
  let text :=
    if 0 ≤ exponent && point ≤ 16 then ds ++ zeros exponent ++ ['.', '0']
    else if 0 < point && point ≤ 16 then ds.take point.toNat ++ ['.'] ++ ds.drop point.toNat
    else if -5 < point && point ≤ 0 then ['0', '.'] ++ zeros (-point) ++ ds
    else
      ds.take 1 ++ (if ds.length = 1 then [] else '.' :: ds.drop 1) ++
        'e' :: (toString (point - 1)).toList
  String.ofList text

/-- A finite number as text, always with a decimal point or an exponent. -/
def render : Double → Option String
  | finite negative significand exponent =>
    let (digits, e10) := if significand = 0 then (0, 0) else shortest significand exponent
    some ((if negative then "-" else "") ++ writeDecimal digits e10)
  | infinite _ => none
  | notANumber => none

/-- A finite number as text, without a point where the number is whole. -/
def brief (x : Double) : String :=
  let text := (x.render.getD "").toList
  String.ofList
    (if ".0".toList.isSuffixOf text then text.take (text.length - 2) else text)

end Double
end Checkup

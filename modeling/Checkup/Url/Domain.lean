import Checkup.Unicode.Composition
import Checkup.Unicode.DomainTable
import Checkup.Unicode.DirectionTable
import Checkup.Unicode.JoiningTable
import Checkup.Url.Punycode

/-!
# Domain names

A domain name may be written with the characters of any script. Its ASCII form is what is looked
up: letters are put into lower case, compatible characters are replaced, the text is composed, and
each label that then has characters above ASCII is written in Punycode. Labels that could be
mistaken, because of marks, joiners or directions, make the name invalid.
-/

namespace Checkup.Url.Domain
open Unicode

/-- What becomes of a character above ASCII. -/
inductive Preparation
  | kept
  | dropped
  | replaced (text : List Char)
  | refused

def keptColumn : Array Nat := column keptPoints
def droppedColumn : Array Nat := column droppedPoints
def replacedRunRows : Array (Array Nat) := rows replacedRuns
def replacedTextRows : Array (Array Nat) := rows replacedTexts
def markColumn : Array Nat := column markPoints
def directionRows : Array (Array Nat) := rows directionRuns
def joiningRows : Array (Array Nat) := rows joiningRuns

def prepareChar (c : Char) : Preparation :=
  let n := c.toNat
  if inside keptColumn n then .kept
  else if inside droppedColumn n then .dropped
  else
    let row := lastRow replacedTextRows n
    if row.getD 0 0 == n then .replaced ((row.toList.drop 1).map Char.ofNat)
    else
      let run := lastRow replacedRunRows n
      let first := run.getD 0 0
      let step := run.getD 2 1
      if first ≤ n && n ≤ run.getD 1 0 && (n - first) % step == 0 then
        .replaced [Char.ofNat (run.getD 4 0 + (n - first) / step * run.getD 3 0)]
      else .refused

/-- A character of a domain name as it is prepared, if it is not refused. -/
def prepareAt (c : Char) : Option (List Char) :=
  if c.toNat < 128 then some [c.toLower]
  else match prepareChar c with
    | .kept => some [c]
    | .dropped => some []
    | .replaced text => some text
    | .refused => none

/-- The text of a domain name with all characters prepared, but not yet composed. -/
def prepare (name : List Char) : Option (List Char) := (name.mapM prepareAt).map List.flatten

def splitAtChar (separator : Char) (text : List Char) : List (List Char) :=
  text.foldr
    (fun c rest =>
      if c = separator then [] :: rest
      else match rest with
        | piece :: rest => (c :: piece) :: rest
        | [] => [[c]])
    [[]]

/-- The directions that matter to labels. -/
inductive Direction
  | left
  | right
  | arabic
  | arabicNumber
  | number
  | numberSign
  | numberEnd
  | separator
  | neutral
  | boundary
  | mark
  | other
deriving DecidableEq, Repr

def Direction.all : List Direction :=
  [left, right, arabic, arabicNumber, number, numberSign, separator, numberEnd, neutral, boundary,
    mark]

def direction (c : Char) : Direction :=
  let n := c.toNat
  if n < 128 then
    if c.isDigit then .number
    else if c.isAlpha then .left
    else if c == '+' || c == '-' then .numberSign
    else if c == ',' || c == '.' || c == '/' || c == ':' then .separator
    else if c == '#' || c == '$' || c == '%' then .numberEnd
    else if n < 32 || n == 127 then .boundary
    else .neutral
  else (Direction.all[runValue directionRows n]?).getD .other

/-- Whether a name with this label has to obey the rules for both directions. -/
def runsRight (label : List Char) : Bool :=
  label.any fun c => [.right, .arabic, .arabicNumber].contains (direction c)

/-- Whether a label runs in one direction: it starts with a letter, it has only characters that go
with that letter, and it ends with a letter or a number, which marks may follow. -/
def hasOneDirection (label : List Char) : Bool :=
  let ds := label.map direction
  let last := ds.reverse.dropWhile (· == .mark) |>.head?
  match ds.head? with
  | none => true
  | some .left =>
    ds.all ([.left, .number, .numberSign, .separator, .numberEnd, .neutral, .boundary,
      .mark].contains ·) && last.any ([.left, .number].contains ·)
  | some .right | some .arabic =>
    ds.all ([.right, .arabic, .arabicNumber, .number, .numberSign, .separator, .numberEnd, .neutral,
      .boundary, .mark].contains ·) &&
      last.any ([.right, .arabic, .number, .arabicNumber].contains ·) &&
      !(ds.contains .number && ds.contains .arabicNumber)
  | some _ => false

/-- How a character joins: 0 not at all, else as the table says. -/
def joining (c : Char) : Nat := runValue joiningRows c.toNat

/-- Whether every joiner of a label has its place, given the characters before, reversed: behind a
mark that ends a syllable, or, for the one that parts characters, between two that would join. -/
def joinersFit : (before : List Char) → List Char → Bool
  | _, [] => true
  | before, c :: cs =>
    let behindVirama := before.head?.any (combiningClass · == 9)
    let fits :=
      if c.toNat == 0x200D then behindVirama
      else if c.toNat == 0x200C then
        behindVirama ||
          (before.dropWhile (joining · == 1)).head?.any ([2, 4].contains <| joining ·) &&
            (cs.dropWhile (joining · == 1)).head?.any ([3, 4].contains <| joining ·)
      else true
    fits && joinersFit (c :: before) cs

/-- Whether a label with characters above ASCII is well formed by itself. -/
def isWellFormed (label : List Char) : Bool :=
  !(label.head?.any fun c => inside markColumn c.toNat) && joinersFit [] label

def forbidden (c : Char) : Bool :=
  c.toNat ≤ 32 || c.toNat == 127 || "%#/:<>?@[\\]^|".toList.contains c

/-- The longest label above ASCII that is written in Punycode. -/
def maxLabel : Nat := 1000

/-- What introduces a label in Punycode. -/
def acePrefix : List Char := "xn--".toList

/-- The label that a label in Punycode stands for: with characters above ASCII, in composed form,
and of characters that prepared names can have. -/
def readAce (text : List Char) : Option (List Char) := do
  if text.length > 2 * maxLabel then none
  let label ← Punycode.decode text
  let isPrepared := label.all fun c =>
    if c.toNat < 128 then !c.isUpper else inside keptColumn c.toNat
  if label.any (128 ≤ ·.toNat) && isPrepared && composed label == label then some label else none

/-- A label of a prepared name: the characters it stands for, and its ASCII form. -/
def readLabel (text : List Char) : Option (List Char × List Char) := do
  if acePrefix.isPrefixOf text then
    if text.any (128 ≤ ·.toNat) then none
    let label ← readAce (text.drop acePrefix.length)
    if isWellFormed label then some (label, text) else none
  else if text.any (128 ≤ ·.toNat) then
    if isWellFormed text && text.length ≤ maxLabel then
      some (text, acePrefix ++ Punycode.encode text)
    else none
  else some (text, text)

/-- The ASCII form of a domain name, if it is valid. -/
def toAscii (name : List Char) : Option (List Char) := do
  let prepared ← prepare name
  let text := if prepared.all (·.toNat < 128) then prepared else composed prepared
  let labels ← (splitAtChar '.' text).mapM readLabel
  let shown := labels.map (·.1)
  if shown.any (·.any forbidden) then none
  if shown.any runsRight && !shown.all hasOneDirection then none
  some (".".toList.intercalate (labels.map (·.2)))

end Checkup.Url.Domain

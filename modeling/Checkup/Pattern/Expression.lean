import Checkup.Pattern.Basic

/-!
# Pattern expressions

What the text of a pattern says, with counted repetitions still written as counts. An expression
becomes a pattern by writing the counts out, which is refused where the result would be too large.
-/

namespace Checkup

/-- A pattern as it is written. A group notes its name, if it has one. -/
inductive Expression
  | empty
  | set (s : CharSet)
  | look (a : Assertion)
  | seq (e f : Expression)
  | alt (e f : Expression)
  | repeated (least : Nat) (most : Option Nat) (greedy : Bool) (e : Expression)
  | group (name : Option String) (e : Expression)
deriving DecidableEq, Repr

/-- About how many bytes a byte-wise automaton takes to recognise one character of the set. -/
def CharSet.footprint : CharSet → Nat
  | one c => 32 * c.utf8Size
  | oneOf cs => cs.foldl (fun n c => n + 32 * c.utf8Size) 32
  | range _ hi => if hi.toNat < 128 then 40 else 400
  | space => 700
  | digit => 5100
  | word => 49800
  | union a b => a.footprint + b.footprint
  | inter a b => a.footprint + b.footprint
  | compl a => a.footprint + 1000
  | caseless a => 2 * a.footprint

namespace Expression

/-- The name of the group whose start is where a match is reported. -/
def markName : String := "at"

/-- The most bytes that the automaton of a pattern may take. -/
def maxFootprint : Nat := 10 * Nat.pow 2 20

def matchesOnlyEmpty : Expression → Bool
  | empty => true
  | set _ => false
  | look _ => true
  | seq e f => e.matchesOnlyEmpty && f.matchesOnlyEmpty
  | alt e f => e.matchesOnlyEmpty && f.matchesOnlyEmpty
  | repeated _ most _ e => most == some 0 || e.matchesOnlyEmpty
  | group _ e => e.matchesOnlyEmpty

/-- About how many bytes the automaton of the expression takes. A repetition of what matches only
the empty text counts once. -/
def footprint : Expression → Nat
  | empty => 32
  | set s => s.footprint
  | look _ => 32
  | seq e f => e.footprint + f.footprint
  | alt e f => e.footprint + f.footprint + 40
  | repeated least most _ e =>
    if most == some 0 then 32
    else if e.matchesOnlyEmpty then e.footprint + 40
    else match most with
      | none => max least 1 * e.footprint + 40
      | some most => least * e.footprint + (most - least) * (e.footprint + 40)
  | group _ e => e.footprint + 64

def copies (r : Pattern) (count : Nat) : Pattern :=
  if count = 0 then .empty
  else if count = 1 then r
  else .seq (copies r (count / 2)) (copies r (count - count / 2))

/-- Either of two patterns, the first preferred if `greedy`. -/
def prefer (greedy : Bool) (r s : Pattern) : Pattern := if greedy then .alt r s else .alt s r

def atMost (greedy : Bool) (r : Pattern) : (count : Nat) → Pattern
  | 0 => .empty
  | 1 => prefer greedy r .empty
  | count + 1 => prefer greedy (.seq r (atMost greedy r count)) .empty

def times (least : Nat) (most : Option Nat) (greedy : Bool) (r : Pattern) : Pattern :=
  match least, most with
  | 0, none => prefer greedy (.plus greedy r) .empty
  | 1, none => .plus greedy r
  | least + 2, none => .seq (copies r (least + 1)) (.plus greedy r)
  | least, some most =>
    if most ≤ least then copies r least
    else if least = 0 then atMost greedy r most
    else .seq (copies r least) (atMost greedy r (most - least))

def toPattern : Expression → Pattern
  | empty => .empty
  | set s => .char s
  | look a => .look a
  | seq e f => .seq e.toPattern f.toPattern
  | alt e f => .alt e.toPattern f.toPattern
  | repeated least most greedy e =>
    if most == some 0 then .empty
    else if e.matchesOnlyEmpty then times (min least 1) (some 1) greedy e.toPattern
    else times least most greedy e.toPattern
  | group name e => if name == some markName then .mark e.toPattern else e.toPattern

end Expression
end Checkup

import Checkup.Pattern.Basic

/-!
# Matching

All matches of a pattern in a text are found in one pass over the text, from its end to its start.
At each position the pass knows, for every place in the pattern that lies behind a character, how
matching would go on from there; these are the pattern's `Marks`. So the work is at most the size
of the pattern times the length of the text.
-/

namespace Checkup

/-- How a match ends: its end, and the ends of its marked part. -/
structure Hit where
  stop : Nat
  markStart : Option Nat
  markStop : Option Nat
deriving DecidableEq, Repr

/-- The marked part ends here, unless a later one is known. -/
def Hit.closeMark (position : Nat) (h : Hit) : Hit :=
  { h with markStop := h.markStop.or (some position) }

/-- The marked part starts here, unless a later one is known. -/
def Hit.openMark (position : Nat) (h : Hit) : Hit :=
  { h with markStart := h.markStart.or (some position) }

structure Site where
  position : Nat
  before : Option Char
  after : Option Char
deriving DecidableEq, Repr

/-- For each character of a pattern, how matching goes on behind it; the shape follows that of the
pattern. -/
inductive Marks
  | blank
  | hit (h : Hit)
  | both (l r : Marks)
deriving DecidableEq, Repr

namespace Marks

def left : Marks → Marks
  | both l _ => l
  | m => m

def right : Marks → Marks
  | both _ r => r
  | m => m

def ofHit : Option Hit → Marks
  | none => blank
  | some h => hit h

def pair : Marks → Marks → Marks
  | blank, blank => blank
  | l, r => both l r

end Marks

namespace Pattern

/-- The best way to match from the site on, where `marks` says how to go on behind a character that
stands after the site, and `next` how to go on when the pattern ends at the site itself. -/
def first (site : Site) : Pattern → Marks → Option Hit → Option Hit
  | _, .blank, none => none
  | empty, _, next => next
  | char s, m, _ =>
    match m, site.after with
    | .hit h, some c => if s.contains c then some h else none
    | _, _ => none
  | look a, _, next => if a.holds site.before site.after then next else none
  | seq r s, m, next => first site r m.left (first site s m.right next)
  | alt r s, m, next => (first site r m.left next).or (first site s m.right next)
  | plus _ r, m, next => first site r m next
  | mark r, m, next =>
    (first site r m (next.map (·.closeMark site.position))).map (·.openMark site.position)

/-- The same, together with the marks for a character before the site. A repetition goes round
again only over a part that is not empty. -/
def step (site : Site) : Pattern → Marks → Option Hit → Option Hit × Marks
  | _, .blank, none => (none, .blank)
  | empty, _, next => (next, .blank)
  | char s, m, next => (first site (char s) m next, .ofHit next)
  | look a, _, next => (if a.holds site.before site.after then next else none, .blank)
  | seq r s, m, next =>
    let (h, right) := step site s m.right next
    let (h, left) := step site r m.left h
    (h, .pair left right)
  | alt r s, m, next =>
    let (h, left) := step site r m.left next
    let (h', right) := step site s m.right next
    (h.or h', .pair left right)
  | plus greedy r, m, next =>
    let again := first site r m none
    let loop := if greedy then again.or next else next.or again
    (first site r m next, (step site r m loop).2)
  | mark r, m, next =>
    let (h, m) := step site r m (next.map (·.closeMark site.position))
    (h.map (·.openMark site.position), m)

/-- The best match from each position on, given the text before `position` from its end to its
start, and what is known about the rest. -/
def sweep (r : Pattern) : (before : List Char) → (position : Nat) → (after : Option Char) →
    Marks → List (Option Hit) → List (Option Hit)
  | [], position, after, m, found =>
    (step ⟨position, none, after⟩ r m (some ⟨position, none, none⟩)).1 :: found
  | c :: before, position, after, m, found =>
    let (h, m) := step ⟨position, some c, after⟩ r m (some ⟨position, none, none⟩)
    sweep r before (position - 1) (some c) m (h :: found)

/-- The best match from each position of the text on, its end included. -/
def hits (r : Pattern) (text : List Char) : List (Option Hit) :=
  sweep r text.reverse text.length none .blank []

end Pattern

/-- A match in a text: where it starts and stops, and its marked part. -/
structure Match where
  start : Nat
  stop : Nat
  marked : Option (Nat × Nat)
deriving DecidableEq, Repr

def Hit.toMatch (start : Nat) (h : Hit) : Match :=
  { start, stop := h.stop, marked := h.markStart.bind fun i => h.markStop.map fun j => (i, j) }

/-- Where the search for matches stands: the next match starts at `free` or later, and an empty
one not at the end `last` of the previous match. -/
structure Search where
  free : Nat
  last : Option Nat
  found : List Match

/-- Takes the hit at `start`, unless it starts inside the previous match or is empty and touches
it. -/
def Search.take (search : Search) (start : Nat) : Option Hit → Search
  | none => search
  | some h =>
    if start < search.free || (h.stop == start && search.last == some start) then search
    else ⟨h.stop, some h.stop, h.toMatch start :: search.found⟩

namespace Pattern

/-- The matches of a pattern in a text, from left to right, none inside another. -/
def matchesIn (r : Pattern) (text : List Char) : List Match :=
  let search := (r.hits text).foldl
    (fun (search, start) h => (Search.take search start h, start + 1)) (⟨0, none, []⟩, 0)
  search.1.found.reverse

def occursIn (r : Pattern) (text : List Char) : Bool := (r.hits text).any Option.isSome

end Pattern
end Checkup

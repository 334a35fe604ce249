import Checkup.Pattern.Expression

/-!
# Reading patterns

Patterns are written in the usual notation for regular expressions: `|`, `*`, `+`, `?`, counts in
braces, groups, classes in brackets, escapes, and flags such as `(?i)`. References back to a group
and conditions on what lies ahead or behind are not part of it.
-/

namespace Checkup.Expression

inductive Fault
  | groupNotClosed
  | groupNotOpened
  | groupNotKnown
  | tooDeep
  | nameNotValid
  | nameTwice
  | flagNotKnown
  | nothingToRepeat
  | countNotValid
  | classNotClosed
  | rangeNotValid
  | escapeNotKnown
  | tooLarge
deriving DecidableEq, Repr

/-- How the characters of a pattern are to be understood. -/
structure Flags where
  caseless : Bool := false
  byLine : Bool := false
  dotIsAll : Bool := false
  seldomFirst : Bool := false
  spaced : Bool := false
deriving DecidableEq, Repr

/-- The set of a range or class item, in both cases if the flags say so. -/
def Flags.apply (flags : Flags) (s : CharSet) : CharSet :=
  if flags.caseless then .caseless s else s

inductive Escape
  | char (c : Char)
  | set (s : CharSet)
  | look (a : Assertion)

/-- The value of a run of hexadecimal digits, if there is one and it is a character. -/
def hexChar? (digits : List Char) : Option Char :=
  let value? := digits.foldlM (fun n c =>
    if c.isDigit then some (16 * n + (c.toNat - 48))
    else if 'a' ≤ c && c ≤ 'f' then some (16 * n + (c.toNat - 87))
    else if 'A' ≤ c && c ≤ 'F' then some (16 * n + (c.toNat - 55))
    else none) 0
  match value? with
  | some n => if digits ≠ [] && n.isValidChar then some (Char.ofNat n) else none
  | none => none

/-- A character given by its code point: in braces, or in exactly `width` digits. -/
def readHex (width : Nat) (cs : List Char) : Except Fault (Char × List Char) :=
  let (digits, rest) := match cs with
    | '\x7b' :: cs => (cs.takeWhile (· != '\x7d'), (cs.dropWhile (· != '\x7d')).tail?)
    | cs => (cs.take width, if cs.length < width then none else some (cs.drop width))
  match hexChar? digits, rest with
  | some c, some rest => .ok (c, rest)
  | _, _ => .error .escapeNotKnown

/-- The kinds of word boundary that are written with a name in braces. -/
def boundaryNames : List (String × Assertion) :=
  [("start", .wordStart), ("end", .wordEnd), ("start-half", .wordStartHalf),
    ("end-half", .wordEndHalf)]

/-- A word boundary, behind its letter: a name in braces narrows it, and other braces do not
belong to it. -/
def readBoundary (cs : List Char) : Except Fault (Escape × List Char) :=
  match cs with
  | '\x7b' :: inner =>
    let name := inner.takeWhile fun c => c.isAlpha || c == '-'
    if name.isEmpty then .ok (.look .wordEdge, cs)
    else match boundaryNames.lookup (String.ofList name), inner.drop name.length with
      | some a, '\x7d' :: rest => .ok (.look a, rest)
      | _, _ => .error .escapeNotKnown
  | _ => .ok (.look .wordEdge, cs)

/-- One escape, behind its backslash. -/
def readEscape : List Char → Except Fault (Escape × List Char)
  | [] => .error .escapeNotKnown
  | 'd' :: cs => .ok (.set .digit, cs)
  | 's' :: cs => .ok (.set .space, cs)
  | 'w' :: cs => .ok (.set .word, cs)
  | 'D' :: cs => .ok (.set (.compl .digit), cs)
  | 'S' :: cs => .ok (.set (.compl .space), cs)
  | 'W' :: cs => .ok (.set (.compl .word), cs)
  | 'A' :: cs => .ok (.look .textStart, cs)
  | 'z' :: cs => .ok (.look .textEnd, cs)
  | 'b' :: cs => readBoundary cs
  | 'B' :: cs => .ok (.look .wordInside, cs)
  | '<' :: cs => .ok (.look .wordStart, cs)
  | '>' :: cs => .ok (.look .wordEnd, cs)
  | 'a' :: cs => .ok (.char '\x07', cs)
  | 'f' :: cs => .ok (.char '\x0c', cs)
  | 't' :: cs => .ok (.char '\t', cs)
  | 'n' :: cs => .ok (.char '\n', cs)
  | 'r' :: cs => .ok (.char '\r', cs)
  | 'v' :: cs => .ok (.char '\x0b', cs)
  | 'x' :: cs => do let (c, cs) ← readHex 2 cs; return (.char c, cs)
  | 'u' :: cs => do let (c, cs) ← readHex 4 cs; return (.char c, cs)
  | 'U' :: cs => do let (c, cs) ← readHex 8 cs; return (.char c, cs)
  | c :: cs =>
    if c.toNat < 128 && !c.isAlphanum then .ok (.char c, cs) else .error .escapeNotKnown

def namedClasses : List (String × CharSet) :=
  let alpha := .union (.range 'a' 'z') (.range 'A' 'Z')
  let digits := .range '0' '9'
  [("alnum", .union alpha digits), ("alpha", alpha), ("ascii", .range '\x00' '\x7f'),
    ("blank", .of "\t "), ("cntrl", .union (.range '\x00' '\x1f') (.one '\x7f')),
    ("digit", digits), ("graph", .range '!' '~'), ("lower", .range 'a' 'z'),
    ("print", .range ' ' '~'),
    ("punct", .diff (.range '!' '~') (.union alpha digits)),
    ("space", .of "\t\n\x0b\x0c\r "), ("upper", .range 'A' 'Z'),
    ("word", .union (.union alpha digits) (.one '_')),
    ("xdigit", .union digits (.union (.range 'a' 'f') (.range 'A' 'F')))]

/-- A named class, behind its opening bracket and colon. -/
def readNamedClass? (cs : List Char) : Option (CharSet × List Char) :=
  let (negated, cs) := match cs with
    | '^' :: cs => (true, cs)
    | cs => (false, cs)
  let name := cs.takeWhile (· != ':')
  match namedClasses.lookup (String.ofList name), cs.drop name.length with
  | some s, ':' :: ']' :: rest => some (if negated then .compl s else s, rest)
  | _, _ => none

inductive ClassOp
  | and
  | minus
  | xor

def ClassOp.apply : ClassOp → CharSet → CharSet → CharSet
  | and, a, b => .inter a b
  | minus, a, b => .diff a b
  | xor, a, b => .union (.diff a b) (.diff b a)

/-- The set of an operation whose left side is waiting. -/
def combine (waiting : Option (CharSet × ClassOp)) (s : CharSet) : CharSet :=
  match waiting with
  | none => s
  | some (left, op) => op.apply left s

/-- One end of a range, or an item of its own. -/
def readClassChar : List Char → Except Fault (Escape × List Char)
  | [] => .error .classNotClosed
  | '\\' :: cs => readEscape cs
  | c :: cs => .ok (.char c, cs)

/-- A class item: a character, a range or an escape for a set. -/
def readClassItem (flags : Flags) (cs : List Char) : Except Fault (CharSet × List Char) := do
  let (low, rest) ← readClassChar cs
  match rest with
  | '-' :: rest' =>
    match rest', low with
    | [], _ => .error .classNotClosed
    | ']' :: _, .char c => return (flags.apply (.one c), rest)
    | '-' :: _, .char c => return (flags.apply (.one c), rest)
    | ']' :: _, .set s => return (s, rest)
    | '-' :: _, .set s => return (s, rest)
    | _, .char lo =>
      let (high, rest) ← readClassChar rest'
      match high with
      | .char hi => if lo ≤ hi then return (flags.apply (.range lo hi), rest)
                    else .error .rangeNotValid
      | _ => .error .rangeNotValid
    | _, .set _ => .error .rangeNotValid
    | _, .look _ => .error .escapeNotKnown
  | _ =>
    match low with
    | .char c => return (flags.apply (.one c), rest)
    | .set s => return (s, rest)
    | .look _ => .error .escapeNotKnown

mutual

/-- A class, behind its opening bracket. A hyphen, or else a closing bracket, right at the start
stands for itself. -/
def readClass (flags : Flags) : (fuel : Nat) → List Char → Except Fault (CharSet × List Char)
  | 0, _ => .error .classNotClosed
  | fuel + 1, cs => do
    let (negated, cs) := match cs with
      | '^' :: cs => (true, cs)
      | cs => (false, cs)
    let hyphens := cs.takeWhile (· == '-')
    let cs := cs.drop hyphens.length
    let (items, cs) := match hyphens, cs with
      | [], ']' :: cs => (CharSet.one ']', cs)
      | [], cs => (.nothing, cs)
      | _, cs => (.one '-', cs)
    let (s, rest) ← readClassItems flags fuel none items cs
    return (if negated then .compl s else s, rest)

/-- The rest of a class, up to its closing bracket, after the items read so far. -/
def readClassItems (flags : Flags) : (fuel : Nat) → (waiting : Option (CharSet × ClassOp)) →
    (items : CharSet) → List Char → Except Fault (CharSet × List Char)
  | 0, _, _, _ => .error .classNotClosed
  | _ + 1, _, _, [] => .error .classNotClosed
  | _ + 1, waiting, items, ']' :: cs => .ok (combine waiting items, cs)
  | fuel + 1, waiting, items, '&' :: '&' :: cs =>
    readClassItems flags fuel (some (combine waiting items, .and)) .nothing cs
  | fuel + 1, waiting, items, '-' :: '-' :: cs =>
    readClassItems flags fuel (some (combine waiting items, .minus)) .nothing cs
  | fuel + 1, waiting, items, '~' :: '~' :: cs =>
    readClassItems flags fuel (some (combine waiting items, .xor)) .nothing cs
  | fuel + 1, waiting, items, '[' :: cs =>
    match cs with
    | ':' :: inner =>
      match readNamedClass? inner with
      | some (s, rest) => readClassItems flags fuel waiting (items ||| flags.apply s) rest
      | none => do
        let (s, rest) ← readClass flags fuel cs
        readClassItems flags fuel waiting (items ||| s) rest
    | _ => do
      let (s, rest) ← readClass flags fuel cs
      readClassItems flags fuel waiting (items ||| s) rest
  | fuel + 1, waiting, items, cs => do
    let (s, rest) ← readClassItem flags cs
    readClassItems flags fuel waiting (items ||| s) rest

end

/-- The number at the start of the text, which blanks may surround. -/
def readNumber (cs : List Char) : Except Fault (Nat × List Char) :=
  let cs := cs.dropWhile Unicode.isSpace
  let digits := cs.takeWhile Char.isDigit
  let value := digits.foldl (fun n c => 10 * n + (c.toNat - 48)) 0
  if digits.isEmpty || Nat.pow 2 32 ≤ value then .error .countNotValid
  else .ok (value, (cs.drop digits.length).dropWhile Unicode.isSpace)

/-- The counts of a repetition, behind the opening brace. -/
def readCounts (flags : Flags) (cs : List Char) : Except Fault ((Nat × Option Nat) × List Char) := do
  let (least, cs) ← readNumber cs
  match cs with
  | '\x7d' :: cs => return ((least, some least), cs)
  | ',' :: cs =>
    match if flags.spaced then cs.dropWhile Unicode.isSpace else cs with
    | '\x7d' :: cs => return ((least, none), cs)
    | cs =>
      let (most, cs) ← readNumber cs
      match cs with
      | '\x7d' :: cs =>
        if least ≤ most then return ((least, some most), cs) else .error .countNotValid
      | _ => .error .countNotValid
  | _ => .error .countNotValid

/-- The flags up to a closing parenthesis or a colon, which is left in the text. The flags are
switched on, behind a hyphen off; none may come twice, and a hyphen needs a flag behind it. -/
def readFlags (on : Bool) (seen : List Char) (flags : Flags) :
    List Char → Except Fault (Flags × List Char)
  | [] => .error .groupNotClosed
  | c :: cs =>
    if c == ')' || c == ':' then
      if seen.head? == some '-' then .error .flagNotKnown else .ok (flags, c :: cs)
    else if seen.contains c then .error .flagNotKnown
    else match c with
      | '-' => readFlags false ('-' :: seen) flags cs
      | 'i' => readFlags on ('i' :: seen) { flags with caseless := on } cs
      | 'm' => readFlags on ('m' :: seen) { flags with byLine := on } cs
      | 's' => readFlags on ('s' :: seen) { flags with dotIsAll := on } cs
      | 'U' => readFlags on ('U' :: seen) { flags with seldomFirst := on } cs
      | 'x' => readFlags on ('x' :: seen) { flags with spaced := on } cs
      | 'u' => if on then readFlags on ('u' :: seen) flags cs else .error .flagNotKnown
      | _ => .error .flagNotKnown

/-- A group name, behind its opening angle bracket. -/
def readName (cs : List Char) : Except Fault (String × List Char) :=
  let name := cs.takeWhile (· != '>')
  let startsName (c : Char) := c == '_' || (Unicode.isWord c && !Unicode.isDigit c)
  let continuesName (c : Char) := Unicode.isWord c || c == '.' || c == '[' || c == ']'
  match name, cs.drop name.length with
  | c :: more, _ :: rest =>
    if startsName c && more.all continuesName then .ok (String.ofList name, rest)
    else .error .nameNotValid
  | _, _ => .error .nameNotValid

/-- An item of a group, and how deep it is nested. A change of flags is an item without an
expression, and cannot be repeated. -/
structure Item where
  expression : Option Expression
  depth : Nat

/-- The depth of parts that stand together: one more than that of the deepest, if there are several
of them. -/
def joinDepths : List Nat → Nat
  | [] => 0
  | [depth] => depth
  | depth :: depths => 1 + depths.foldl max depth

/-- A group that is being read: its finished alternatives and the items of the current one, both
with the last first, and the flags in force. -/
structure Frame where
  captures : Bool
  name : Option String
  flags : Flags
  alternatives : List (Expression × Nat) := []
  items : List Item := []

namespace Frame

/-- The alternative that is being read, and its depth. -/
def current (f : Frame) : Expression × Nat :=
  let expression := match (f.items.filterMap (·.expression)).reverse with
    | [] => .empty
    | e :: es => es.foldl .seq e
  (expression, joinDepths (f.items.map (·.depth)))

/-- The whole contents of the group, and their depth. -/
def contents (f : Frame) : Expression × Nat :=
  let (last, depth) := f.current
  (f.alternatives.foldl (fun e a => .alt a.1 e) last,
    joinDepths (depth :: f.alternatives.map (·.2)))

def push (f : Frame) (e : Expression) (depth : Nat) : Frame :=
  { f with items := ⟨some e, depth⟩ :: f.items }

def add (f inner : Frame) : Frame :=
  let (e, depth) := inner.contents
  f.push (if inner.captures then .group inner.name e else e) (depth + 1)

def repeatLast (f : Frame) (least : Nat) (most : Option Nat) (cs : List Char) :
    Except Fault (Frame × List Char) :=
  let (lazily, cs) := match cs with
    | '?' :: cs => (true, cs)
    | cs => (false, cs)
  match f.items with
  | ⟨some e, depth⟩ :: items =>
    let e := .repeated least most (lazily == f.flags.seldomFirst) e
    .ok ({ f with items := ⟨some e, depth + 1⟩ :: items }, cs)
  | _ => .error .nothingToRepeat

end Frame

/-- Where the reader stands: the group being read, those around it from the inside out, and the
names taken. -/
structure Reading where
  frame : Frame
  outer : List Frame
  names : List String

def maxDepth : Nat := 250

def classDepth : Nat := 2

def Reading.enter (r : Reading) (captures : Bool) (name : Option String) (flags : Flags) :
    Except Fault Reading :=
  if r.outer.length ≥ maxDepth then .error .tooDeep
  else if name.any r.names.contains then .error .nameTwice
  else .ok
    { frame := { captures, name, flags }
      outer := r.frame :: r.outer
      names := name.toList ++ r.names }

def readGroup (r : Reading) : List Char → Except Fault (Reading × List Char)
  | '?' :: '=' :: _ | '?' :: '!' :: _ | '?' :: '<' :: '=' :: _ | '?' :: '<' :: '!' :: _ =>
    .error .groupNotKnown
  | '?' :: 'P' :: '<' :: cs | '?' :: '<' :: cs => do
    let (name, cs) ← readName cs
    return (← r.enter true (some name) r.frame.flags, cs)
  | '?' :: cs => do
    let (flags, rest) ← readFlags true [] r.frame.flags cs
    match rest with
    | ')' :: rest =>
      if cs.head? == some ')' then .error .nothingToRepeat
      else
        let items := ⟨none, 0⟩ :: r.frame.items
        return ({ r with frame := { r.frame with flags, items } }, rest)
    | _ => return (← r.enter false none flags, rest.drop 1)
  | cs => do return (← r.enter true none r.frame.flags, cs)

/-- Reads one item, or one sign between items. -/
def Reading.next (r : Reading) : List Char → Except Fault (Reading × List Char)
  | [] => .ok (r, [])
  | c :: cs =>
    let flags := r.frame.flags
    let item (e : Expression) (cs : List Char) : Except Fault (Reading × List Char) :=
      .ok ({ r with frame := r.frame.push e 0 }, cs)
    let repeated (least : Nat) (most : Option Nat) (cs : List Char) := do
      let (frame, cs) ← r.frame.repeatLast least most cs
      return ({ r with frame }, cs)
    if flags.spaced && Unicode.isSpace c then .ok (r, cs)
    else if flags.spaced && c == '#' then .ok (r, cs.dropWhile (· != '\n'))
    else match c with
    | '(' => readGroup r cs
    | ')' =>
      match r.outer with
      | [] => .error .groupNotOpened
      | frame :: outer => .ok ({ r with frame := frame.add r.frame, outer }, cs)
    | '|' =>
      .ok ({ r with frame := { r.frame with
        alternatives := r.frame.current :: r.frame.alternatives, items := [] } }, cs)
    | '*' => repeated 0 none cs
    | '+' => repeated 1 none cs
    | '?' => repeated 0 (some 1) cs
    | '\x7b' =>
      if r.frame.items.isEmpty then .error .nothingToRepeat
      else do
        let ((least, most), cs) ← readCounts flags cs
        repeated least most cs
    | '[' => do
      let (s, cs) ← readClass flags (2 * cs.length + 2) cs
      return ({ r with frame := r.frame.push (.set s) classDepth }, cs)
    | '.' => item (.set (if flags.dotIsAll then .everything else .compl (.one '\n'))) cs
    | '^' => item (.look (if flags.byLine then .lineStart else .textStart)) cs
    | '$' => item (.look (if flags.byLine then .lineEnd else .textEnd)) cs
    | '\\' => do
      let (e, cs) ← readEscape cs
      match e with
      | .char c => item (.set (flags.apply (.one c))) cs
      | .set s => item (.set s) cs
      | .look a => item (.look a) cs
    | c => item (.set (flags.apply (.one c))) cs

/-- Reads to the end of the text; each step takes at least one character, so the length of the text
is fuel enough. -/
def Reading.finish (r : Reading) : (fuel : Nat) → List Char → Except Fault Expression
  | _, [] =>
    if !r.outer.isEmpty then .error .groupNotClosed
    else
      let (e, depth) := r.frame.contents
      if depth ≤ maxDepth then .ok e else .error .tooDeep
  | 0, _ => .error .groupNotClosed
  | fuel + 1, cs => do
    let (r, cs) ← r.next cs
    r.finish fuel cs

def read (text : String) : Except Fault Expression :=
  Reading.finish ⟨{ captures := false, name := none, flags := {} }, [], []⟩ text.length text.toList

end Expression

def Pattern.read (text : String) : Except Expression.Fault Pattern := do
  let e ← Expression.read text
  if e.footprint ≤ Expression.maxFootprint then return e.toPattern else throw .tooLarge

end Checkup

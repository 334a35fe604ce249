import Checkup.Number.Double

/-!
# JSON values

The values in which requests and reports are exchanged, and the two ways to write them: on one line,
or with an element on each line. An object keeps the order of its fields.
-/

namespace Checkup

inductive Json
  | null
  | bool (b : Bool)
  | integer (n : Int)
  | real (x : Double)
  | string (s : String)
  | array (items : List Json)
  | object (fields : List (String × Json))
deriving Repr

namespace Json

def count (n : Nat) : Json := integer n

/-- A double-precision number; there is none for one that is not finite. -/
def number (x : Double) : Json := if x.isFinite then real x else null

def nullable {α : Type} (toJson : α → Json) : Option α → Json
  | none => null
  | some x => toJson x

/-- A character of a string as it is written. -/
def writeChar (c : Char) : String :=
  if c == '"' then "\\\""
  else if c == '\\' then "\\\\"
  else if c == '\x08' then "\\b"
  else if c == '\x0c' then "\\f"
  else if c == '\n' then "\\n"
  else if c == '\r' then "\\r"
  else if c == '\t' then "\\t"
  else if c.toNat < 16 then "\\u000" ++ String.ofList (Nat.toDigits 16 c.toNat)
  else if c.toNat < 32 then "\\u00" ++ String.ofList (Nat.toDigits 16 c.toNat)
  else String.singleton c

/-- A string as it is written, behind `done`. -/
def writeString (done : String) (s : String) : String :=
  s.toList.foldl (fun done c => done ++ writeChar c) (done ++ "\"") ++ "\""

/-- The signs between the elements of a value: what follows a bracket and a comma, what precedes the
closing bracket, each at a depth, and what stands between a field's name and its value. -/
structure Layout where
  separator : (depth : Nat) → String
  afterName : String

/-- Everything on one line. -/
def oneLine : Layout := ⟨fun _ => "", ":"⟩

/-- An element on each line, two blanks deeper than what it belongs to. -/
def indented : Layout :=
  ⟨fun depth => "\n" ++ String.ofList (List.replicate (2 * depth) ' '), ": "⟩

mutual

/-- A value as it is written, behind `done`. -/
def write (layout : Layout) (depth : Nat) (done : String) : Json → String
  | null => done ++ "null"
  | bool b => done ++ (if b then "true" else "false")
  | integer n => done ++ toString n
  | real x => done ++ x.render.getD "null"
  | string s => writeString done s
  | array [] => done ++ "[]"
  | array (item :: items) =>
    let done := write layout (depth + 1) (done ++ "[" ++ layout.separator (depth + 1)) item
    writeItems layout (depth + 1) done items ++ layout.separator depth ++ "]"
  | object [] => done ++ "\x7b\x7d"
  | object ((name, value) :: fields) =>
    let done := writeString (done ++ "\x7b" ++ layout.separator (depth + 1)) name
    let done := done ++ layout.afterName
    let done := write layout (depth + 1) done value
    writeFields layout (depth + 1) done fields ++ layout.separator depth ++ "\x7d"

def writeItems (layout : Layout) (depth : Nat) (done : String) : List Json → String
  | [] => done
  | item :: items =>
    writeItems layout depth (write layout depth (done ++ "," ++ layout.separator depth) item) items

def writeFields (layout : Layout) (depth : Nat) (done : String) : List (String × Json) → String
  | [] => done
  | (name, value) :: fields =>
    let done := writeString (done ++ "," ++ layout.separator depth) name ++ layout.afterName
    writeFields layout depth (write layout depth done value) fields

end

def compact (json : Json) : String := write oneLine 0 "" json

def pretty (json : Json) : String := write indented 0 "" json

end Json
end Checkup

import Checkup.Json.Basic
import Checkup.Text.Quoted

/-!
# Reading JSON values

A value is read as a value of a given type. Of several mistakes the first is told: the fields of an
object are visited in the order of their names, and fields that are missing come last. An object can
also be given as an array of its fields in their order.
-/

namespace Checkup.Json

/-- Why a value is not of a type. -/
inductive Mistake
  | missingField (name : String)
  | wrongType (found : Json) (expected : String)
  | outOfRange (n : Int) (expected : String)
  | unknownVariant (name : String) (variants : List String)
  | wrongLength (length : Nat) (expected : String)
  | notOneKey

def describe : Json → String
  | null => "null"
  | bool b => "boolean `" ++ (if b then "true" else "false") ++ "`"
  | integer n => "integer `" ++ toString n ++ "`"
  | real x => "floating point `" ++ x.render.getD "null" ++ "`"
  | string s => "string " ++ Text.quote s
  | array _ => "sequence"
  | object _ => "map"

def Mistake.message : Mistake → String
  | missingField name => "missing field `" ++ name ++ "`"
  | wrongType found expected => "invalid type: " ++ found.describe ++ ", expected " ++ expected
  | outOfRange n expected =>
    "invalid value: integer `" ++ toString n ++ "`, expected " ++ expected
  | unknownVariant name variants =>
    "unknown variant `" ++ name ++ "`, expected one of " ++
      ", ".intercalate (variants.map fun v => "`" ++ v ++ "`")
  | wrongLength length expected =>
    "invalid length " ++ toString length ++ ", expected " ++ expected
  | notOneKey => "invalid value: map, expected map with a single key"

abbrev Reader (α : Type) := Json → Except Mistake α

def readString : Reader String
  | string s => .ok s
  | json => .error (.wrongType json "a string")

def readBool : Reader Bool
  | bool b => .ok b
  | json => .error (.wrongType json "a boolean")

/-- A natural number below `bound`; `expected` names the type of such numbers. -/
def readNat (bound : Nat) (expected : String) : Reader Nat
  | integer n =>
    if 0 ≤ n && n < bound then .ok n.toNat else .error (.outOfRange n expected)
  | json => .error (.wrongType json expected)

def readCount : Reader Nat := readNat (Nat.pow 2 64) "usize"

def readStatus : Reader Nat := readNat (Nat.pow 2 16) "u16"

/-- A double-precision number, which can be given as a whole one. -/
def readDouble : Reader Double
  | integer n => .ok (.ofInt n)
  | real x => .ok x
  | json => .error (.wrongType json "f64")

def readOption {α : Type} (read : Reader α) : Reader (Option α)
  | null => .ok none
  | json => (read json).map some

def readList {α : Type} (read : Reader α) : Reader (List α)
  | array items => items.mapM read
  | json => .error (.wrongType json "a sequence")

/-- One of the named values. -/
def readVariant {α : Type} (values : List α) (name : α → String) (given : String) :
    Except Mistake α :=
  match values.find? (name · == given) with
  | some value => .ok value
  | none => .error (.unknownVariant given (values.map name))

/-- One of the named values, given by its name or as an object of a single field with that name and
nothing in it. -/
def readName {α : Type} (values : List α) (name : α → String) : Reader α
  | string s => readVariant values name s
  | object [(key, content)] => do
    let value ← readVariant values name key
    match content with
    | null => return value
    | _ => throw (.wrongType content "unit")
  | object _ => .error .notOneKey
  | json => .error (.wrongType json "string or map")

/-- The fields of a record, by their names or by their places. -/
inductive Fields
  | named (fields : List (String × Json))
  | placed (items : List Json)

/-- How a record is read: its name, its number of fields, and what its known fields have to be. -/
structure Shape where
  name : String
  checks : List (String × (Json → Except Mistake Unit))

def Shape.title (shape : Shape) : String := "struct " ++ shape.name

def check {α : Type} (read : Reader α) (json : Json) : Except Mistake Unit := do
  let _ ← read json

/-- The fields of a record, after those that are given by name have been checked in the order of
their names. -/
def Shape.open (shape : Shape) : Json → Except Mistake Fields
  | object fields => do
    for (name, json) in fields.mergeSort fun a b => a.1 ≤ b.1 do
      match shape.checks.lookup name with
      | some check => check json
      | none => pure ()
    return .named fields
  | array items => .ok (.placed items)
  | json => .error (.wrongType json shape.title)

def Fields.get {α : Type} (fields : Fields) (shape : Shape) (place : Nat) (name : String)
    (read : Reader α) : Except Mistake α :=
  match fields with
  | named fields =>
    match fields.lookup name with
    | some json => read json
    | none => .error (.missingField name)
  | placed items =>
    match items[place]? with
    | some json => read json
    | none => .error (.wrongLength place
        (shape.title ++ " with " ++ toString shape.checks.length ++ " elements"))

/-- A field with a default that holds where it is not there; where the fields are given by their
places only if `anywhere` says so. -/
def Fields.getD {α : Type} (fields : Fields) (shape : Shape) (place : Nat) (name : String)
    (read : Reader α) (default : α) (anywhere : Bool) : Except Mistake α :=
  match fields with
  | named fields =>
    match fields.lookup name with
    | some json => read json
    | none => .ok default
  | placed items =>
    match items[place]? with
    | some json => read json
    | none => if anywhere then .ok default else (placed items).get shape place name read

/-- Ends a record: there may be no more items than fields. -/
def Fields.close (fields : Fields) (shape : Shape) : Except Mistake Unit :=
  match fields with
  | named _ => .ok ()
  | placed items =>
    if items.length ≤ shape.checks.length then .ok ()
    else .error (.wrongLength items.length "fewer elements in array")

end Checkup.Json

import Checkup.Text.Blank

/-!
# Languages

The closed set of languages that a text can be written in.
-/

namespace Checkup

inductive Language
  | javascript
  | typescript
  | python
  | html
  | css
  | json
  | sql
  | markdown
deriving DecidableEq, Repr, Inhabited

namespace Language

/-- Every language, in the order in which they are listed. -/
def all : List Language := [javascript, typescript, python, html, css, json, sql, markdown]

def name : Language → String
  | javascript => "javascript"
  | typescript => "typescript"
  | python => "python"
  | html => "html"
  | css => "css"
  | json => "json"
  | sql => "sql"
  | markdown => "markdown"

/-- The language of a text that nothing tells about. -/
def fallback : Language := javascript

def ofName? (name : String) : Option Language := all.find? (·.name == name)

/-- The language that a user names, in any ASCII case and with white space around it. -/
def parse? (text : String) : Option Language :=
  ofName? (String.ofList ((Text.trim text.toList).map Char.toLower))

def unknownMessage (text : String) : String :=
  "unknown language '" ++ text ++ "' (expected one of: " ++
    ", ".intercalate (all.map name) ++ ")"

end Language
end Checkup

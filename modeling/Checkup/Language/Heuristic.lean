import Checkup.Language.Basic
import Checkup.Pattern.Match

/-!
# The language of a content

A list of tests, each of which looks for the traces of one language. The first test that a text
passes decides.
-/

namespace Checkup

namespace Heuristic
open Pattern

def quote : CharSet := .of "\"'`"

/-- An interface or a named type at the start of a line. -/
def typeDeclaration : Pattern :=
  look .lineStart ++ spaces ++ optional (text "export" ++ spaces₁) ++
    (text "interface" ++ spaces₁ ++ word ||| text "type" ++ spaces₁ ++ word ++ spaces ++ text "=")

/-- A colon before the name of a basic type. -/
def basicType : Pattern :=
  text ":" ++ spaces ++
    texts ["string", "number", "boolean", "any", "void", "unknown", "never"] ++ wordEdge

/-- An import or export at the start of a line. -/
def moduleLine : Pattern :=
  look .lineStart ++ spaces ++
    (text "import" ++ spaces₁ ++
        optional (oneOrMore notNewline ++ spaces₁ ++ text "from" ++ spaces₁) ++ char quote |||
      text "export" ++ spaces₁ ++
        texts ["default", "const", "let", "function", "class", "async", "\x7b"])

def typeImport : Pattern :=
  look .lineStart ++ spaces ++ text "import" ++ spaces₁ ++ text "type" ++ wordEdge

def typedParameter : Pattern :=
  text "function" ++ spaces₁ ++ word ++ spaces ++ text "(" ++ zeroOrMore (char (.allBut ")")) ++
    char .word ++ spaces ++ text ":" ++ spaces ++ word

/-- A result type between a parameter list and a body. -/
def resultType : Pattern :=
  text ")" ++ spaces ++ text ":" ++ spaces ++ oneOrMore (char (.word ||| .of "<>[]")) ++ spaces ++
    texts ["\x7b", "=>"]

/-- The head of a function that ends its line with a colon. -/
def indentedFunction : Pattern :=
  look .lineStart ++ spaces ++ optional (text "async" ++ spaces₁) ++ text "def" ++ spaces₁ ++
    word ++ spaces ++ text "(" ++ zeroOrMore notNewline ++ text ")" ++ spaces ++
    optional (text "->" ++ spaces ++ oneOrMore (char (.allBut ":"))) ++ text ":" ++ spaces ++
    optional (text "#" ++ zeroOrMore notNewline) ++ look .lineEnd

/-- The head of a class that ends its line with a colon. -/
def indentedClass : Pattern :=
  look .lineStart ++ spaces ++ text "class" ++ spaces₁ ++ word ++
    optional (text "(" ++ zeroOrMore (char (.allBut ")")) ++ text ")") ++ text ":" ++ spaces ++
    look .lineEnd

/-- The keyword that starts a function, up to its parameter list. -/
def functionKeyword : Pattern :=
  wordEdge ++ text "function" ++ wordEdge ++ spaces ++ optional (text "*") ++ spaces ++
    zeroOrMore (char .word) ++ spaces ++ text "("

def documentType : Pattern := caselessText "<!doctype" ++ spaces₁ ++ caselessText "html"

def element : Pattern :=
  text "<" ++
    caselessTexts ["html", "head", "body", "div", "span", "p", "a", "script", "style", "link",
      "meta", "img", "ul", "ol", "li", "table", "form", "input", "button", "section", "nav",
      "header", "footer"] ++
    wordEdge ++ zeroOrMore (char (.allBut ">")) ++ text ">"

/-- A brace and a quoted key at the start of the text. -/
def objectStart : Pattern :=
  look .textStart ++ spaces ++ text "\x7b" ++ spaces ++ text "\"" ++
    zeroOrMore (char (.allBut "\"")) ++ text "\"" ++ spaces ++ text ":"

def statement : Pattern :=
  look .lineStart ++ spaces ++
    choice [
      caselessText "select" ++ spaces₁ ++ oneOrMore notNewline ++ spaces₁ ++ caselessText "from" ++
        char .space,
      caselessText "insert" ++ spaces₁ ++ caselessText "into" ++ char .space,
      caselessText "update" ++ spaces₁ ++ word ++ spaces₁ ++ caselessText "set" ++ char .space,
      caselessText "delete" ++ spaces₁ ++ caselessText "from" ++ char .space,
      caselessText "create" ++ spaces₁ ++ caselessTexts ["table", "index", "view"] ++ char .space]

/-- A selector at the start of a line, and a declaration in its braces. -/
def styleRule : Pattern :=
  look .lineStart ++ spaces ++ oneOrMore (char (.word ||| .space ||| .of ".#:[]=*>+~,-")) ++
    text "\x7b" ++ zeroOrMore (char (.allBut "\x7b\x7d")) ++ oneOrMore (char (.word ||| .of "-")) ++
    spaces ++ text ":" ++ spaces ++ oneOrMore (char (.allBut ";\x7b\x7d")) ++ text ";"

/-- One to six hash signs and a title at the start of a line. -/
def heading : Pattern :=
  let hash := text "#"
  look .lineStart ++ hash ++
    optional (hash ++ optional (hash ++ optional (hash ++ optional (hash ++ optional hash)))) ++
    spaces₁ ++ char (.compl .space)

end Heuristic

structure Heuristic where
  name : String
  language : Language
  fires : List Char → Bool

namespace Heuristic

/-- Types of variables are written down. -/
def hasTypes (code : List Char) : Bool := typeDeclaration.occursIn code || basicType.occursIn code

/-- A module that has types and does not load others by a call. -/
def isTypedModule (code : List Char) : Bool :=
  moduleLine.occursIn code && !Text.contains "require(".toList code &&
    (typeImport.occursIn code || typedParameter.occursIn code || resultType.occursIn code)

/-- The tests, the first of which to fire decides. -/
def table : List Heuristic :=
  [⟨"type-annotations", .typescript, hasTypes⟩,
    ⟨"module-syntax", .typescript, isTypedModule⟩,
    ⟨"module-syntax", .javascript, moduleLine.occursIn⟩,
    ⟨"python-def", .python, fun code =>
      indentedFunction.occursIn code || indentedClass.occursIn code⟩,
    ⟨"js-functions", .javascript, fun code =>
      functionKeyword.occursIn code || Text.contains "=>".toList code⟩,
    ⟨"html-markup", .html, fun code => documentType.occursIn code || element.occursIn code⟩,
    ⟨"json-object", .json, objectStart.occursIn⟩,
    ⟨"sql-statement", .sql, statement.occursIn⟩,
    ⟨"css-rules", .css, styleRule.occursIn⟩,
    ⟨"markdown-heading", .markdown, heading.occursIn⟩]

end Heuristic

/-- The first test that a text passes. -/
def Language.ofContent? (code : String) : Option Heuristic :=
  Heuristic.table.find? (·.fires code.toList)

end Checkup

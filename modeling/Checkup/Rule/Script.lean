import Checkup.Rule.Basic

/-!
# Rules for JavaScript and TypeScript
-/

namespace Checkup.Rule
open Pattern

def quoteMark : CharSet := .of "\"'`"

/-- Words that name a secret, in either case. -/
def secretName : Pattern :=
  choice [caselessText "password", caselessText "passwd", caselessText "secret",
    caselessText "api" ++ optional (text "_") ++ caselessText "key",
    caselessText "access" ++ optional (text "_") ++ caselessText "token"]

/-- A comparison sign between characters that would not make it a longer one. -/
def bareComparison (sign notBefore : String) : Pattern :=
  (look .textStart ||| char (.allBut notBefore)) ++ mark (text sign) ++
    (char (.allBut "=") ||| look .textEnd)

def javascript : List Rule :=
  [{ id := "no-var"
     pattern := wordEdge ++ text "var" ++ spaces₁
     message := "Use 'let' or 'const' instead of 'var'"
     severity := .warning },
   { id := "no-eval"
     pattern := wordEdge ++ text "eval" ++ spaces ++ text "("
     message := "Avoid eval(): it executes arbitrary code"
     severity := .error },
   { id := "no-implied-eval"
     pattern := wordEdge ++ texts ["setTimeout", "setInterval"] ++ spaces ++ text "(" ++ spaces ++
      char quoteMark
     message := "Passing a string to setTimeout/setInterval behaves like eval()"
     severity := .error },
   { id := "no-new-function"
     pattern := wordEdge ++ text "new" ++ spaces₁ ++ text "Function" ++ spaces ++ text "("
     message := "new Function() executes arbitrary code"
     severity := .error },
   { id := "no-inner-html"
     pattern := text "." ++ texts ["innerHTML", "outerHTML"] ++ spaces ++ text "=" ++
      char (.allBut "=")
     message := "Assigning HTML strings directly can lead to XSS"
     severity := .error },
   { id := "no-document-write"
     pattern := wordEdge ++ text "document.write" ++ optional (text "ln") ++ spaces ++ text "("
     message := "Avoid document.write()"
     severity := .warning },
   { id := "eqeqeq"
     pattern := bareComparison "==" "=!<>"
     message := "Use '===' instead of '=='"
     severity := .warning },
   { id := "no-loose-inequality"
     pattern := bareComparison "!=" "=!"
     message := "Use '!==' instead of '!='"
     severity := .warning },
   { id := "no-debugger"
     pattern := wordEdge ++ text "debugger" ++ wordEdge
     message := "Remove debugger statements"
     severity := .warning },
   { id := "no-hardcoded-secret"
     pattern := wordEdge ++ secretName ++ wordEdge ++ spaces ++ char (.of ":=") ++ spaces ++
      char quoteMark ++ oneOrMore (char (.compl quoteMark)) ++ char quoteMark
     message := "Possible hard-coded credential"
     severity := .error },
   { id := "no-console"
     pattern := wordEdge ++ text "console." ++ texts ["log", "debug", "trace"] ++ spaces ++ text "("
     message := "Remove console logging before shipping"
     severity := .info },
   { id := "no-alert"
     pattern := wordEdge ++ texts ["alert", "confirm", "prompt"] ++ spaces ++ text "("
     message := "Avoid blocking browser dialogs"
     severity := .info },
   { id := "todo-comment"
     pattern := text "//" ++ spaces ++ texts ["TODO", "FIXME", "HACK", "XXX"] ++ wordEdge
     message := "Unresolved TODO/FIXME comment"
     severity := .info }]

/-- The rules that TypeScript has beyond those for JavaScript. -/
def typescript : List Rule :=
  [{ id := "no-explicit-any"
     pattern := text ":" ++ spaces ++ text "any" ++ wordEdge
     message := "Avoid the 'any' type"
     severity := .warning },
   { id := "no-any-cast"
     pattern := wordEdge ++ text "as" ++ spaces₁ ++ text "any" ++ wordEdge
     message := "Avoid casting to 'any'"
     severity := .warning },
   { id := "no-ts-ignore"
     pattern := text "@ts-" ++ texts ["ignore", "nocheck"] ++ wordEdge
     message := "Do not suppress type errors"
     severity := .warning },
   { id := "no-non-null-assertion"
     pattern := char .word ++ text "!." ++ char .word
     message := "Non-null assertion hides possible null values"
     severity := .info }]

end Checkup.Rule

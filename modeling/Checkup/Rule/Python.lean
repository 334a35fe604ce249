import Checkup.Rule.Script

/-!
# Rules for Python
-/

namespace Checkup.Rule
open Pattern

def python : List Rule :=
  [{ id := "no-eval"
     pattern := wordEdge ++ text "eval" ++ spaces ++ text "("
     message := "Avoid eval(): it executes arbitrary code"
     severity := .error },
   { id := "no-exec"
     pattern := wordEdge ++ text "exec" ++ spaces ++ text "("
     message := "Avoid exec(): it executes arbitrary code"
     severity := .error },
   { id := "no-shell-true"
     pattern := wordEdge ++ text "subprocess." ++ word ++ text "(" ++ zeroOrMore notNewline ++
      text "shell" ++ spaces ++ text "=" ++ spaces ++ text "True"
     message := "subprocess with shell=True is open to injection"
     severity := .error },
   { id := "no-pickle-load"
     pattern := wordEdge ++ text "pickle.load" ++ optional (text "s") ++ spaces ++ text "("
     message := "Unpickling untrusted data can execute code"
     severity := .warning },
   { id := "no-yaml-load"
     pattern := wordEdge ++ text "yaml.load" ++ spaces ++ text "("
     message := "Use yaml.safe_load() instead of yaml.load()"
     severity := .warning },
   { id := "no-hardcoded-secret"
     pattern := wordEdge ++ secretName ++ wordEdge ++ spaces ++ text "=" ++ spaces ++
      char (.of "\"'") ++ oneOrMore (char (.allBut "\"'")) ++ char (.of "\"'")
     message := "Possible hard-coded credential"
     severity := .error },
   { id := "no-bare-except"
     pattern := wordEdge ++ text "except" ++ spaces ++ text ":"
     message := "Bare 'except:' catches everything; name the exception"
     severity := .warning },
   { id := "no-wildcard-import"
     pattern := look .textStart ++ spaces ++ text "from" ++ spaces₁ ++
      oneOrMore (char (.compl .space)) ++ spaces₁ ++ text "import" ++ spaces₁ ++ text "*"
     message := "Wildcard imports hide where names come from"
     severity := .warning },
   { id := "compare-none"
     pattern := char (.of "=!") ++ text "=" ++ spaces ++ text "None" ++ wordEdge
     message := "Compare with None using 'is' / 'is not'"
     severity := .warning },
   { id := "no-print"
     pattern := look .textStart ++ spaces ++ text "print" ++ spaces ++ text "("
     message := "Use logging instead of print()"
     severity := .info },
   { id := "todo-comment"
     pattern := text "#" ++ spaces ++ texts ["TODO", "FIXME", "HACK", "XXX"] ++ wordEdge
     message := "Unresolved TODO/FIXME comment"
     severity := .info }]

end Checkup.Rule

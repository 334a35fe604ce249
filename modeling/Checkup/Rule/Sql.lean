import Checkup.Rule.Basic

/-!
# Rules for SQL
-/

namespace Checkup.Rule
open Pattern

/-- The word that restricts a statement to some rows. -/
def restriction : Pattern := wordEdge ++ caselessText "where" ++ wordEdge

def sql : List Rule :=
  [{ id := "delete-without-where"
     pattern := wordEdge ++ caselessText "delete" ++ spaces₁ ++ caselessText "from" ++ spaces₁ ++
      word
     message := "DELETE without WHERE removes every row"
     severity := .error
     exemption := some restriction },
   { id := "update-without-where"
     pattern := wordEdge ++ caselessText "update" ++ spaces₁ ++ word ++ spaces₁ ++
      caselessText "set" ++ wordEdge
     message := "UPDATE without WHERE changes every row"
     severity := .error
     exemption := some restriction },
   { id := "no-drop"
     pattern := wordEdge ++ caselessText "drop" ++ spaces₁ ++
      caselessTexts ["table", "database", "schema"] ++ wordEdge
     message := "Destructive DROP statement"
     severity := .warning },
   { id := "no-grant-all"
     pattern := wordEdge ++ caselessText "grant" ++ spaces₁ ++ caselessText "all" ++ wordEdge
     message := "GRANT ALL gives more privileges than needed"
     severity := .warning },
   { id := "no-select-star"
     pattern := wordEdge ++ caselessText "select" ++ spaces₁ ++ text "*"
     message := "Select explicit columns instead of *"
     severity := .warning },
   { id := "todo-comment"
     pattern := text "--" ++ spaces ++ texts ["TODO", "FIXME"] ++ wordEdge
     message := "Unresolved TODO/FIXME comment"
     severity := .info }]

end Checkup.Rule

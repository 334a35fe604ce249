import Checkup.Rule.Basic

/-!
# Rules for HTML and CSS
-/

namespace Checkup.Rule
open Pattern

def html : List Rule :=
  [{ id := "no-javascript-url"
     pattern := caselessText "href" ++ spaces ++ text "=" ++ spaces ++ char (.of "\"'") ++ spaces ++
      caselessText "javascript:"
     message := "Avoid javascript: URLs"
     severity := .warning },
   { id := "img-alt"
     pattern := caselessText "<img" ++ wordEdge ++ zeroOrMore (char (.allBut ">")) ++ text ">"
     message := "Images need an alt attribute"
     severity := .warning
     exemption := some (wordEdge ++ caselessText "alt" ++ spaces ++ text "=") },
   { id := "blank-target-rel"
     pattern := caselessText "target" ++ spaces ++ text "=" ++ spaces ++ char (.of "\"'") ++
      caselessText "_blank" ++ char (.of "\"'")
     message := "target=\"_blank\" without rel=\"noopener\""
     severity := .warning
     exemption := some (wordEdge ++ caselessText "rel" ++ spaces ++ text "=" ++ spaces ++
      char (.of "\"'") ++ zeroOrMore (char (.allBut "\"'")) ++ caselessText "noopener") },
   { id := "no-inline-handler"
     pattern := char .space ++ caselessText "on" ++ oneOrMore (char (.caseless (.range 'a' 'z'))) ++
      spaces ++ text "="
     message := "Inline event handlers mix markup and behaviour"
     severity := .warning },
   { id := "no-deprecated-tag"
     pattern := text "<" ++ caselessTexts ["font", "center", "marquee", "blink"] ++ wordEdge
     message := "Deprecated HTML element"
     severity := .warning },
   { id := "no-inline-style"
     pattern := char .space ++ caselessText "style" ++ spaces ++ text "="
     message := "Prefer CSS classes over inline styles"
     severity := .info },
   { id := "todo-comment"
     pattern := text "<!--" ++ spaces ++ texts ["TODO", "FIXME"] ++ wordEdge
     message := "Unresolved TODO/FIXME comment"
     severity := .info }]

def css : List Rule :=
  [{ id := "no-expression"
     pattern := wordEdge ++ caselessText "expression" ++ spaces ++ text "("
     message := "CSS expressions execute script"
     severity := .error },
   { id := "no-important"
     pattern := text "!important" ++ wordEdge
     message := "Avoid !important"
     severity := .warning },
   { id := "no-import"
     pattern := text "@import" ++ wordEdge
     message := "@import blocks parallel stylesheet downloads"
     severity := .info },
   { id := "no-universal-selector"
     pattern := look .lineStart ++ spaces ++ text "*" ++ spaces ++ text "\x7b"
     message := "Universal selector is slow on large documents"
     severity := .info },
   { id := "todo-comment"
     pattern := text "/*" ++ spaces ++ texts ["TODO", "FIXME"] ++ wordEdge
     message := "Unresolved TODO/FIXME comment"
     severity := .info }]

end Checkup.Rule

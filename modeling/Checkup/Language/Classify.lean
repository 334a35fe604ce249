import Checkup.Language.Filename
import Checkup.Language.Directive
import Checkup.Language.Heuristic

/-!
# The language of a text

A filename goes before an interpreter directive, and that before the content.
-/

namespace Checkup.Language

/-- The language of a text, as its filename, its first line or its content tell it. -/
def classify (code : String) (filename : Option String) : Language :=
  (filename.bind ofFilename?).or (ofDirective? code) |>.or ((ofContent? code).map (·.language))
    |>.getD fallback

end Checkup.Language

import Checkup.Language.Basic
import Checkup.Text.Lines

/-!
# The language of an interpreter directive

The first line of a script can name the program that runs it.
-/

namespace Checkup.Language

/-- The language that the interpreter directive of a text tells, if it has one. -/
def ofDirective? (code : String) : Option Language :=
  let line := Text.firstLine code.toList
  if !"#!".toList.isPrefixOf line then none
  else if Text.contains "python".toList line then some python
  else if Text.contains "node".toList line then some javascript
  else none

end Checkup.Language

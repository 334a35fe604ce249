import Checkup.Pattern.Reader
import Checkup.Refusal
import Checkup.Rule.Basic

/-!
# Rules from text

A rule whose patterns are given as text is refused if one of them is not a pattern.
-/

namespace Checkup

def Rule.readPattern (id text : String) : Except Refusal Pattern :=
  match Pattern.read text with
  | .ok pattern => .ok pattern
  | .error _ => .error (.invalidRule id)

/-- A rule from the texts of its patterns. -/
def Rule.compile (id pattern message : String) (severity : Severity) (exemption : Option String) :
    Except Refusal Rule := do
  let pattern ← readPattern id pattern
  let exemption ← exemption.mapM (readPattern id)
  return { id, pattern, message, severity, exemption }

end Checkup

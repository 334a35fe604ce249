/-!
# Refusals

Why a request is not carried out. Some refusals are for the one who asks to mend; the others stay
inside, and he is told no more than that something went wrong.
-/

namespace Checkup

inductive Refusal
  | emptyCode
  | codeTooLong (length max : Nat)
  | noUrls
  | tooManyUrls (count max : Nat)
  | invalidRule (id : String)
  | internal (text : String)
deriving DecidableEq, Repr

namespace Refusal

def message : Refusal → String
  | emptyCode => "Code is required and must not be empty"
  | codeTooLong length max =>
    "Code is too long: " ++ toString length ++ " characters (maximum is " ++ toString max ++ ")"
  | noUrls => "At least one URL is required"
  | tooManyUrls count max =>
    "Too many URLs: " ++ toString count ++ " given (maximum is " ++ toString max ++ ")"
  | invalidRule id => "Rule '" ++ id ++ "' has an invalid pattern"
  | internal text => "Internal error: " ++ text

/-- Whether the one who asks can mend it. -/
def isClientError : Refusal → Bool
  | emptyCode | codeTooLong .. | noUrls | tooManyUrls .. => true
  | invalidRule _ | internal _ => false

end Refusal
end Checkup

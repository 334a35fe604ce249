/-!
# Results of link checks
-/

namespace Checkup

/-- Why a link check got no response. -/
inductive Failure
  | timeout
  | invalidUrl
  | dnsError
  | connectionRefused
  | connectionFailed
  | sslError
  | tooManyRedirects
  | requestFailed
deriving DecidableEq, Repr

def Failure.reason : Failure → String
  | timeout => "timeout"
  | invalidUrl => "invalid_url"
  | dnsError => "dns_error"
  | connectionRefused => "connection_refused"
  | connectionFailed => "connection_failed"
  | sslError => "ssl_error"
  | tooManyRedirects => "too_many_redirects"
  | requestFailed => "request_failed"

/-- The result of checking one link: the status of the response, if there was one, whether the link
works, and otherwise why there was none. -/
structure LinkResult where
  url : String
  status : Option Nat
  ok : Bool
  error : Option String
deriving DecidableEq, Repr

namespace LinkResult

def response (url : String) (status : Nat) : LinkResult :=
  { url, status := some status, ok := status < 400, error := none }

def failure (url : String) (reason : Failure) : LinkResult :=
  { url, status := none, ok := false, error := some reason.reason }

end LinkResult
end Checkup

import Checkup.Link.Result
import Checkup.Url.Resolve

/-!
# Networks

A network answers a request for an address with a response or a failure, after some time or never.
A scripted network is one whose answers are listed by address and by host.
-/

namespace Checkup

inductive Reply
  | response (status : Nat) (location : Option String)
  | failure (reason : Failure)
deriving DecidableEq, Repr

/-- What a request leads to, and after how many milliseconds; without a reply it hangs. -/
structure Answer where
  delay : Nat
  reply : Option Reply
deriving DecidableEq, Repr

/-- A network: an answer to each address. -/
structure Network where
  answer : Url → Answer

def Network.unreachable : Network where
  answer _ := { delay := 0, reply := some (.failure .connectionFailed) }

inductive Behaviour
  | status (code : Nat)
  | redirect (location : String) (status : Nat)
  | close
  | garbage
  | hang
deriving DecidableEq, Repr

namespace Behaviour

def plainReply : Behaviour → Option Reply
  | status code => some (.response code none)
  | redirect location code => some (.response code (some location))
  | close | garbage => some (.failure .requestFailed)
  | hang => none

/-- The reply to a request for a secure connection, which no scripted host can complete: it either
refuses, or goes on in a way that is no secure connection. -/
def secureReply : Behaviour → Option Reply
  | status 200 | garbage => some (.failure .sslError)
  | status _ | redirect .. | close => some (.failure .connectionFailed)
  | hang => none

end Behaviour

/-- A scripted network: behaviours by address or by host. -/
structure Script where
  behaviours : List (String × Behaviour) := []
deriving DecidableEq, Repr

namespace Script

/-- The characters above ASCII letters and digits that the authority of a request can have. -/
def authorityMarks : List Char := "!$&'()*+,-.:;=@[]_~%".toList

def maxAddress : Nat := 65534

def isRequestable (u : Url) : Bool :=
  u.write.utf8ByteSize ≤ maxAddress &&
    u.hostText.toList.all fun c => c.isAlphanum || authorityMarks.contains c

/-- The address of the host at which nothing listens. -/
def closedHost : String := "127.0.0.9"

def unknownDomain : String := ".dnsfail.test"

/-- The behaviour that is listed first under one of these keys, tried in turn. -/
def find (script : Script) (keys : List String) (otherwise : Behaviour) : Behaviour :=
  (keys.findSome? fun key => script.behaviours.lookup key).getD otherwise

def reply (script : Script) (u : Url) : Option Reply :=
  if !u.isWeb then
    some (.failure (if u.host.isSome then .connectionFailed else .requestFailed))
  else if !isRequestable u then some (.failure .requestFailed)
  else if u.hostText == closedHost then some (.failure .connectionRefused)
  else if unknownDomain.toList.isSuffixOf u.hostText.toList then some (.failure .dnsError)
  else if u.scheme == "http" then (script.find [u.target, u.hostText] (.status 200)).plainReply
  else
    let tunnel := u.hostText ++ ":" ++ toString (u.port.getD 443)
    (script.find [tunnel, u.hostText] (.status 502)).secureReply

/-- The network of a script. Its replies come at once. -/
def network (script : Script) : Network where
  answer u := { delay := 0, reply := script.reply u }

end Script
end Checkup

import Checkup.Url.Host

/-!
# Addresses

An absolute address in its normal form, and the way it is written. The user information of an
address is read over: it is no part of what is looked up.
-/

namespace Checkup

/-- What follows the host: the segments between its slashes, or a text without structure. -/
inductive Url.Path
  | segments (names : List String)
  | plain (text : String)
deriving DecidableEq, Repr

structure Url where
  scheme : String
  host : Option Url.Host
  port : Option Nat
  path : Url.Path
  query : Option String
  fragment : Option String
deriving DecidableEq, Repr

namespace Url

/-- The schemes whose addresses always have a host, and their ports. -/
def specialPorts : List (String × Nat) :=
  [("http", 80), ("https", 443), ("ws", 80), ("wss", 443), ("ftp", 21)]

def isSpecial (scheme : String) : Bool := (specialPorts.lookup scheme).isSome

/-- Whether a link to the address can be checked: it is a web address. -/
def isWeb (u : Url) : Bool := (u.scheme == "http" || u.scheme == "https") && u.host.isSome

def hostText (u : Url) : String := (u.host.map Host.write).getD ""

/-- The host, and the port where it is not that of the scheme. -/
def authority (u : Url) : String :=
  u.hostText ++ (u.port.map fun n => ":" ++ toString n).getD ""

def Path.write : Path → String
  | segments names => String.join (names.map ("/" ++ ·))
  | plain text => text

/-- The address without its fragment, as it is asked for. -/
def target (u : Url) : String :=
  u.scheme ++ ":" ++ (if u.host.isSome then "//" ++ u.authority else "") ++ u.path.write ++
    (u.query.map ("?" ++ ·)).getD ""

def write (u : Url) : String := u.target ++ (u.fragment.map ("#" ++ ·)).getD ""

end Url
end Checkup

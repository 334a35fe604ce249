import Checkup.Config
import Checkup.Link.Network

/-!
# Probes

A probe requests an address and follows its redirections, within a number of requests and a time for
all of them. Links are probed in batches; the results are in the order of the links.
-/

namespace Checkup

/-- The statuses that send a request on to another address. -/
def redirectStatuses : List Nat := [301, 302, 303, 307, 308]

/-- Whether a redirection can lead to the address: a web address that can be requested, or another
one that names a host or has no slashes. -/
def Url.isRedirectTarget (u : Url) : Bool :=
  if u.isWeb then Script.isRequestable u
  else match u.host with
    | some host => host.write ≠ ""
    | none => match u.path with
      | .segments _ => false
      | .plain text => text ≠ ""

/-- Where a response sends the request on to, if it does. A location that is no address is
ignored. -/
def redirection (u : Url) (status : Nat) (location : Option String) : Option Url :=
  if redirectStatuses.contains status then
    (location.bind (Url.resolve (some u))).filter Url.isRedirectTarget
  else none

inductive Verdict
  | response (status : Nat)
  | failure (reason : Failure)
deriving DecidableEq, Repr

/-- Requests an address and follows redirections, at most `hops` of them; all answers together have
to come before `timeLeft` is over. -/
def Network.request (network : Network) : (hops timeLeft : Nat) → Url → Verdict
  | hops, timeLeft, u =>
    let answer := network.answer u
    if timeLeft ≤ answer.delay then .failure .timeout
    else match answer.reply with
      | none => .failure .timeout
      | some (.failure reason) => .failure reason
      | some (.response status location) =>
        match redirection u status location, hops with
        | none, _ => .response status
        | some _, 0 => .failure .tooManyRedirects
        | some next, hops + 1 => network.request hops (timeLeft - answer.delay) next

/-- What a probe of a link comes to. With a limit of `n` redirections the `n`-th one fails. -/
def Network.probe (network : Network) (config : Config) (url : String) : LinkResult :=
  match (Url.read url).filter Url.isWeb with
  | none => .failure url .invalidUrl
  | some u =>
    match network.request (config.maxRedirects - 1) config.probeTimeout u with
    | .response status => .response url status
    | .failure reason => .failure url reason

/-- A list cut into parts of `size` elements, the last one shorter; parts have at least one. -/
def batches {α : Type} (size : Nat) : (fuel : Nat) → List α → List (List α)
  | _, [] => []
  | 0, xs => [xs]
  | fuel + 1, xs => xs.take (max size 1) :: batches size fuel (xs.drop (max size 1))

def Network.verify (network : Network) (config : Config) (urls : List String) : List LinkResult :=
  (batches config.batchSize urls.length urls).flatMap (·.map (network.probe config))

end Checkup

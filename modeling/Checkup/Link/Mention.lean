import Checkup.Pattern.Match
import Checkup.Text.Blank

/-!
# Mentions of web addresses

A text can mention an address as an attribute of an element, as the target of a link, as the
argument of a call or bare. The first three have delimiters, so a bare mention that starts inside
one of them is a part of it and no mention of its own.
-/

namespace Checkup

/-- An address in a text, and where it stands. -/
structure Mention where
  start : Nat
  stop : Nat
  url : String
deriving DecidableEq, Repr

namespace Mention
open Pattern

def scheme : Pattern := text "http" ++ optional (text "s") ++ text "://"

/-- An attribute that holds an address. -/
def attributeValue : Pattern :=
  wordEdge ++ caselessText "href" ++ spaces ++ text "=" ++ spaces ++ char (.of "\"'") ++
    mark (oneOrMore (char (.allBut "\"'"))) ++ char (.of "\"'")

/-- A link with its label in brackets and its target in parentheses. -/
def labelled : Pattern :=
  text "[" ++ zeroOrMore (char (.allBut "]")) ++ text "](" ++
    mark (scheme ++ oneOrMore (char (.compl (.one ')' ||| .space)))) ++ text ")"

def methods : List String := ["get", "post", "put", "patch", "delete", "head", "request"]

/-- The start of a call that looks like a request, up to its first argument. -/
def caller : Pattern :=
  wordEdge ++
    choice [
      text "fetch",
      text "axios" ++ optional (text "." ++ texts methods),
      texts ["requests", "httpx", "http", "https", "client", "session"] ++ text "." ++
        texts methods,
      text "urlopen",
      text "$." ++ texts ["get", "post", "ajax"],
      text "XMLHttpRequest().open"] ++
    spaces ++ text "(" ++ spaces

/-- A call whose first argument, or whose second behind the name of a method, is an address. -/
def argument : Pattern :=
  caller ++
    optional (char (.of "\"'") ++ texts ["GET", "POST", "PUT", "DELETE", "HEAD"] ++
      char (.of "\"'") ++ spaces ++ text "," ++ spaces) ++
    char (.of "\"'`") ++ mark (scheme ++ oneOrMore (char (.compl (.of "\"'`" ||| .space)))) ++
    char (.of "\"'`")

/-- An address by itself, up to white space, a quotation mark, a bracket or a parenthesis. -/
def bare : Pattern := scheme ++ oneOrMore (char (.compl (.space ||| .of "\"'`<>()")))

/-- The part of a text from `start` to `stop`, as a mention. -/
def ofRange (code : Array Char) (start stop : Nat) : Mention :=
  ⟨start, stop, String.ofList (code.extract start stop).toList⟩

/-- The marked parts of the matches of a pattern. -/
def marked (pattern : Pattern) (code : Array Char) : List Mention :=
  (pattern.matchesIn code.toList).filterMap fun m =>
    m.marked.map fun (start, stop) => ofRange code start stop

/-- Whether the value of an attribute is an absolute web address; white space around it does not
count. -/
def isAbsolute (mention : Mention) : Bool :=
  let url := Text.trim mention.url.toList
  "http://".toList.isPrefixOf url || "https://".toList.isPrefixOf url

def delimited (code : Array Char) : List Mention :=
  (marked attributeValue code).filter isAbsolute ++ marked labelled code ++ marked argument code

/-- The bare mentions that do not start inside one of the others. -/
def undelimited (code : Array Char) (others : List Mention) : List Mention :=
  ((bare.matchesIn code.toList).filter fun m =>
      !others.any fun other => other.start ≤ m.start && m.start < other.stop).map
    fun m => ofRange code m.start m.stop

/-- All mentions, in the order of their starts. -/
def all (code : Array Char) : List Mention :=
  let found := delimited code
  (found ++ undelimited code found).mergeSort fun a b => a.start ≤ b.start

/-- The addresses that a text mentions, each once, in the order of their first mentions. -/
def urls (code : String) : List String := ((all code.toList.toArray).map (·.url)).eraseDups

end Mention
end Checkup

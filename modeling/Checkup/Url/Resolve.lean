import Checkup.Url.Basic

/-!
# Reading addresses

A text is read as an absolute address, or as one that is relative to another address. White space
and control characters around it and line breaks and tabs anywhere do not count.
-/

namespace Checkup.Url
open Domain (splitAtChar)

def significant (text : List Char) : List Char :=
  let outer (c : Char) : Bool := c.toNat ≤ 32
  let trimmed := ((text.dropWhile outer).reverse.dropWhile outer).reverse
  trimmed.filter fun c => !(c == '\t' || c == '\n' || c == '\r')

/-- The scheme at the start of a text, in lower case, and what follows its colon. -/
def readScheme? (text : List Char) : Option (String × List Char) :=
  let inScheme (c : Char) : Bool := c.isAlphanum || c == '+' || c == '-' || c == '.'
  let scheme := text.takeWhile inScheme
  match scheme, text.drop scheme.length with
  | c :: _, ':' :: rest =>
    if c.isAlpha then some (String.ofList (scheme.map Char.toLower), rest) else none
  | _, _ => none

/-- Whether a character separates segments: a slash, or for special schemes a backslash. -/
def isSlash (special : Bool) (c : Char) : Bool := c == '/' || (special && c == '\\')

def isSingleDot (segment : List Char) : Bool :=
  [".", "%2e"].contains (String.ofList (segment.map Char.toLower))

def isDoubleDot (segment : List Char) : Bool :=
  ["..", ".%2e", "%2e.", "%2e%2e"].contains (String.ofList (segment.map Char.toLower))

def cutPath (special : Bool) (text : List Char) : List (List Char) :=
  splitAtChar '/' (text.map fun c => if isSlash special c then '/' else c)

/-- Goes along the segments of a path from the names passed so far, in reverse: a double dot goes
back, a single dot stays, and at the end either leaves an empty name. -/
def follow (names : List String) : List (List Char) → List String
  | [] => names.reverse
  | segment :: segments =>
    let isLast := segments.isEmpty
    if isDoubleDot segment then
      follow (if isLast then "" :: names.drop 1 else names.drop 1) segments
    else if isSingleDot segment then follow (if isLast then "" :: names else names) segments
    else follow (String.ofList (percentEncode escapedInPath segment) :: names) segments

/-- The query and the fragment of a text that starts with the sign of one of them, or is empty. -/
def readEnd (special : Bool) (text : List Char) : Option String × Option String :=
  let query := text.takeWhile (· != '#')
  let fragment := (text.drop query.length).tail?
  (query.tail?.map fun q => String.ofList (percentEncode (escapedInQuery special) q),
    fragment.map fun f => String.ofList (percentEncode escapedInFragment f))

/-- Splits a text where its query or its fragment starts. -/
def splitEnd (text : List Char) : List Char × List Char :=
  let path := text.takeWhile fun c => c != '?' && c != '#'
  (path, text.drop path.length)

/-- The port that a text writes, `none` inside where it is that of the scheme. -/
def readPort? (scheme : String) (text : List Char) : Option (Option Nat) :=
  if text.all Char.isDigit then
    let value := text.foldl (fun n c => 10 * n + (c.toNat - 48)) 0
    if 65535 < value then none
    else if text.isEmpty || specialPorts.lookup scheme == some value then some none
    else some (some value)
  else none

/-- The part of an authority before the colon of its port; a colon in brackets is none. -/
def hostPart : (inBrackets : Bool) → List Char → List Char
  | _, [] => []
  | inBrackets, c :: cs =>
    if c == ':' && !inBrackets then []
    else c :: hostPart (if c == '[' then true else if c == ']' then false else inBrackets) cs

/-- Reads what follows the two slashes before a host. -/
def readAuthority (scheme : String) (text : List Char) : Option Url := do
  let special := isSpecial scheme
  let authority := text.takeWhile fun c => !(isSlash special c || c == '?' || c == '#')
  let rest := text.drop authority.length
  let place := (authority.reverse.takeWhile (· != '@')).reverse
  let hostText := hostPart false place
  let portText := place.drop (hostText.length + 1)
  if hostText.isEmpty && (special || place ≠ [] || authority ≠ []) then none
  let host ← Host.read? special hostText
  let port ← readPort? scheme portText
  let (path, ending) := splitEnd rest
  let (query, fragment) := readEnd special ending
  let names := if path.isEmpty && !special then [] else follow [] (cutPath special (path.drop 1))
  some { scheme, host := some host, port, path := .segments names, query, fragment }

/-- Reads a text that is relative to a base with a host. -/
def readRelative (base : Url) (text : List Char) : Option Url :=
  let special := isSpecial base.scheme
  let (path, ending) := splitEnd text
  let (query, fragment) := readEnd special ending
  let baseNames := match base.path with
    | .segments names => names
    | .plain _ => []
  match path with
  | [] =>
    match ending with
    | '?' :: _ => some { base with query, fragment }
    | _ => some { base with fragment }
  | c :: cs =>
    if isSlash special c then
      match cs with
      | d :: _ =>
        if isSlash special d then
          readAuthority base.scheme ((cs ++ ending).drop 1 |> fun t =>
            if special then t.dropWhile (isSlash true) else t)
        else some { base with path := .segments (follow [] (cutPath special cs)), query, fragment }
      | [] => some { base with path := .segments (follow [] [[]]), query, fragment }
    else
      let names := follow (baseNames.reverse.drop 1) (cutPath special path)
      some { base with path := .segments names, query, fragment }

/-- Reads what follows a scheme that is not special. -/
def readPlain (scheme : String) (text : List Char) : Option Url :=
  match text with
  | '/' :: '/' :: rest => readAuthority scheme rest
  | _ =>
    let (path, ending) := splitEnd text
    let (query, fragment) := readEnd false ending
    let path := match path with
      | '/' :: path => .segments (follow [] (cutPath false path))
      | path => .plain (String.ofList (percentEncode isControl path))
    some { scheme, host := none, port := none, path, query, fragment }

/-- The address that a text writes, relative to a base with a host if there is one. -/
def resolve (base : Option Url) (text : String) : Option Url :=
  let text := significant text.toList
  match readScheme? text with
  | none => base.bind (readRelative · text)
  | some (scheme, rest) =>
    if isSpecial scheme then
      let slashes := rest.takeWhile (isSlash true)
      match base with
      | some base =>
        if base.scheme == scheme && slashes.length < 2 then readRelative base rest
        else readAuthority scheme (rest.drop slashes.length)
      | none => readAuthority scheme (rest.drop slashes.length)
    else readPlain scheme rest

def read (text : String) : Option Url := resolve none text

end Checkup.Url

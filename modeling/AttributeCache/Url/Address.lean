import AttributeCache.Url.Host
/-!
# Addresses

An address says which host a request goes to, plainly or secured, and what
it asks that host for. Those of the schemes `http` and `https` are taken in,
and no others. What is written in more than one way is brought to one: any
number of slashes or backslashes may stand behind the scheme, a user in
front of the host and a fragment at the end are left out, `.` and `..` in
the path are resolved, the common port is not named, and characters that may
not stand in a request are written in percent form. An address too long to
ask for is refused.
-/

namespace AttributeCache.Url

/-- How a request is carried. -/
inductive Scheme where
  | http
  | https
deriving DecidableEq, Repr

namespace Scheme

def name : Scheme → String
  | http => "http"
  | https => "https"

/-- The scheme of a name, in either case. -/
def ofName? (name : List Char) : Option Scheme :=
  [http, https].find? fun scheme => name.map Char.toLower = scheme.name.toList

/-- The port that is not named. -/
def commonPort : Scheme → Nat
  | http => 80
  | https => 443

end Scheme

/-- Where requests go to. -/
structure Endpoint where
  scheme : Scheme
  /-- The host, and the port unless it is the common one. -/
  authority : String
deriving DecidableEq, Repr

/-- An absolute address. -/
structure Address extends Endpoint where
  /-- The path, and the query behind a question mark. -/
  target : String
deriving DecidableEq, Repr

/-! ## Host and port -/

/-- What stands in front of the first colon outside brackets, and the rest
from the colon on. -/
def spanHost (inBrackets : Bool) : List Char → List Char × List Char
  | [] => ([], [])
  | c :: rest =>
    if c = ':' ∧ !inBrackets then ([], c :: rest)
    else
      let (host, port) := spanHost (c == '[' || (inBrackets && c != ']')) rest
      (c :: host, port)

/-- The port behind the host, if one is named and not the common one. -/
def port? (scheme : Scheme) : List Char → Option (Option Nat)
  | [] | [':'] => some none
  | ':' :: digits =>
    match (Text.readDigits? digits).filter (· < UInt16.size) with
    | some port => some (if port = scheme.commonPort then none else some port)
    | none => none
  | _ => none

/-- What stands behind the last `@`. -/
def withoutUser (s : List Char) : List Char :=
  (s.reverse.takeWhile (· != '@')).reverse

/-- The host and the port as a request names them. -/
def authority? (scheme : Scheme) (s : List Char) : Option String := do
  let (host, port) := spanHost false (withoutUser s)
  let host ← host? host
  match ← port? scheme port with
  | some port => return host ++ ":" ++ toString port
  | none => return host

/-! ## Path and query -/

/-- A slash of either kind. -/
def isSlash (c : Char) : Bool :=
  c == '/' || c == '\\'

/-- A segment with its points written as such. -/
def plainPoints : List Char → List Char
  | '%' :: '2' :: 'e' :: rest => '.' :: plainPoints rest
  | '%' :: '2' :: 'E' :: rest => '.' :: plainPoints rest
  | c :: rest => c :: plainPoints rest
  | [] => []

/-- Whether a segment names a drive: a letter, and a colon or a bar. -/
def isDrive : List Char → Bool
  | [letter, mark] => letter.isAlpha && (mark == ':' || mark == '|')
  | _ => false

/-- The segments left by `..`, the last of them first. A drive is not left,
and above the root there is nothing to leave. -/
def leave : List (List Char) → List (List Char)
  | [] => []
  | segment :: before => if isDrive segment then segment :: before else before

/-- The segments with `.` and `..` resolved, those taken before standing
last first. -/
def resolve (taken : List (List Char)) : List (List Char) → List (List Char)
  | [] => taken.reverse
  | segment :: rest =>
    let atEnd (taken : List (List Char)) := if rest.isEmpty then [] :: taken else taken
    if plainPoints segment = ['.'] then resolve (atEnd taken) rest
    else if plainPoints segment = ['.', '.'] then resolve (atEnd (leave taken)) rest
    else resolve (segment :: taken) rest

/-- The characters written in percent form in a path. -/
def escapedInPath (c : Char) : Bool :=
  c.toNat ≤ 0x20 || "\"<>\x60#?\x7b\x7d".toList.contains c

/-- The characters written in percent form in a query. -/
def escapedInQuery (c : Char) : Bool :=
  c.toNat ≤ 0x20 || "\"<>#\x27".toList.contains c

/-- The path from the root. -/
def pathText (s : List Char) : List Char :=
  let segments :=
    match s with
    | [] => [[]]
    | _ :: below => resolve [] (Text.splitWhere isSlash below)
  segments.flatMap fun segment => '/' :: Text.percentEncode escapedInPath segment

/-- The path and the query of what stands behind the authority. -/
def targetText (s : List Char) : String :=
  let s := s.takeWhile (· != '#')
  let path := pathText (s.takeWhile (· != '?'))
  String.ofList <|
    match s.dropWhile (· != '?') with
    | [] => path
    | _ :: query => path ++ '?' :: Text.percentEncode escapedInQuery query

/-- The characters written in percent form in a fragment. -/
def escapedInFragment (c : Char) : Bool :=
  c.toNat ≤ 0x20 || "\"<>\x60".toList.contains c

/-- The fragment of what stands behind the authority, from the `#` on. -/
def fragmentText (s : List Char) : List Char :=
  match s.dropWhile (· != '#') with
  | [] => []
  | _ :: fragment => '#' :: Text.percentEncode escapedInFragment fragment

/-! ## Whole addresses -/

/-- The characters that do not count at the ends of an address. -/
def isOuterBlank (c : Char) : Bool :=
  c.toNat ≤ 0x20

/-- The text without what does not count: blanks and control characters at
the ends, tabs and line breaks anywhere. -/
def significant (s : List Char) : List Char :=
  let s := (s.dropWhile isOuterBlank).reverse.dropWhile isOuterBlank
  s.reverse.filter fun c => c != '\t' && c != '\n' && c != '\r'

/-- The address as text. -/
def Address.text (a : Address) : String :=
  a.scheme.name ++ "://" ++ a.authority ++ a.target

/-- The most characters of an address, its fragment included. -/
def maxLength : Nat := 65534

/-- The address a text writes. -/
def Address.parse? (s : String) : Option Address := do
  let (name, rest) ← Text.cut ':' (significant s.toList)
  let scheme ← Scheme.ofName? name
  let rest := rest.dropWhile isSlash
  let endsAuthority (c : Char) : Bool := isSlash c || c == '?' || c == '#'
  let authority ← authority? scheme (rest.takeWhile (!endsAuthority ·))
  let behind := rest.dropWhile (!endsAuthority ·)
  let address : Address := ⟨⟨scheme, authority⟩, targetText behind⟩
  if address.text.length + (fragmentText behind).length ≤ maxLength then some address else none

end AttributeCache.Url

import AttributeCache.Text.Split
/-!
# Media types

A content type is a type and a subtype with a slash between, and may have
parameters behind semicolons. `isJson` asks for the type `application` and
for `json` as the subtype or as what follows its last plus.
-/

namespace AttributeCache.Http

/-- The characters of a name in a media type. -/
def isTokenChar (c : Char) : Bool :=
  c.isAlphanum || "!#$%&'*+-.^_\x60|~".toList.contains c

/-- Where in a list of parameters a character stands. -/
inductive ParameterPlace where
  | beforeName
  | inName
  | beforeValue
  | inValue
  | afterQuote
  | inQuotes
  | behindQuotes
deriving DecidableEq, Repr

/-- Whether a list of parameters is well formed. A quoted value is not
empty: a second quote right behind the first belongs to it. -/
def validParameters : ParameterPlace → List Char → Bool
  | .beforeName, [] | .beforeValue, [] | .inValue, [] | .behindQuotes, [] => true
  | .inName, [] | .afterQuote, [] | .inQuotes, [] => false
  | .beforeName, c :: rest =>
    if c = ' ' then validParameters .beforeName rest
    else isTokenChar c && validParameters .inName rest
  | .inName, c :: rest =>
    if c = '=' then validParameters .beforeValue rest
    else isTokenChar c && validParameters .inName rest
  | .beforeValue, c :: rest =>
    if c = '"' then validParameters .afterQuote rest
    else isTokenChar c && validParameters .inValue rest
  | .inValue, c :: rest =>
    if c = ';' then validParameters .beforeName rest
    else isTokenChar c && validParameters .inValue rest
  | .afterQuote, c :: rest => (0x20 ≤ c.toNat && c.toNat ≠ 0x7F) && validParameters .inQuotes rest
  | .inQuotes, c :: rest =>
    if c = '"' then validParameters .behindQuotes rest
    else (0x20 ≤ c.toNat && c.toNat ≠ 0x7F) && validParameters .inQuotes rest
  | .behindQuotes, c :: rest =>
    if c = ';' then validParameters .beforeName rest
    else c = ' ' && validParameters .behindQuotes rest

/-- The subtype up to its last plus, and what follows that. A plus in
front is part of the name. -/
def splitSuffix (s : List Char) : List Char × Option (List Char) :=
  match Text.cut '+' s.reverse with
  | some (after, before) =>
    if before.isEmpty then (s, none) else (before.reverse, some after.reverse)
  | none => (s, none)

/-- Whether a content type announces JSON. -/
def isJson (contentType : String) : Bool :=
  match Text.cut '/' contentType.toList with
  | none => false
  | some (mainType, rest) =>
    let (subtype, parameters) :=
      match Text.cut ';' rest with
      | some (subtype, parameters) => (subtype, parameters)
      | none => (rest, [])
    let lower (s : List Char) := String.ofList (s.map Char.toLower)
    let (name, suffix) := splitSuffix subtype
    mainType.all isTokenChar && subtype.all isTokenChar &&
      contentType.toList.all (·.toNat < 0x7F) &&
      validParameters .beforeName parameters && lower mainType == "application" &&
      (lower name == "json" || suffix.any (lower · == "json"))

end AttributeCache.Http

import AttributeCache.Text.Percent
import AttributeCache.Text.Split
/-!
# Form queries

The query of a request holds names and values: pairs with `&` between, a
name up to the first `=`. In both a `+` is a blank and bytes may be written in
percent form. Bytes that are not UTF-8 become U+FFFD.
-/

namespace AttributeCache.Http

/-- A blank for each `+`. -/
def plusToBlank (s : List Char) : List Char :=
  s.map fun c => if c = '+' then ' ' else c

/-- A name or a value. -/
def decodeComponent (s : List Char) : String :=
  Text.decodeLossy (Text.percentDecode (plusToBlank s))

/-- The names with their values. Empty pairs do not count. -/
def queryPairs (query : String) : List (String × String) :=
  ((Text.splitWhere (· == '&') query.toList).filter (!·.isEmpty)).map fun pair =>
    match Text.cut '=' pair with
    | some (name, value) => (decodeComponent name, decodeComponent value)
    | none => (decodeComponent pair, "")

/-- All values of a name. -/
def queryValues (query name : String) : List String :=
  ((queryPairs query).filter (·.1 == name)).map (·.2)

end AttributeCache.Http

import AttributeCache.Json.Printer
import AttributeCache.Text.Split
import AttributeCache.Text.Utf8
/-!
# Requests and responses

What a request asks for and what is answered: a status and, where there is
one, a JSON body. A request may name the scheme and the host in front of
the path; this says nothing about what is asked for.
-/

namespace AttributeCache.Http

/-- A request. -/
structure Request where
  method : String
  /-- The path, and the query behind a question mark; in front of them there
  may be a scheme and a host. -/
  target : String
  contentType : Option String := none
  body : Text.Bytes := []
deriving Repr

/-- The characters of a scheme. -/
def isSchemeChar (c : Char) : Bool :=
  c.isAlphanum || "+-.~".toList.contains c

/-- What stands behind the scheme and the host, if they are named. -/
def withoutHost (target : List Char) : List Char :=
  match Text.cut ':' target with
  | some (scheme, '/' :: '/' :: rest) =>
    if scheme.all isSchemeChar then rest.dropWhile fun c => c != '/' && c != '?' && c != '#'
    else target
  | _ => target

namespace Request

/-- The path and the query, without the fragment. -/
def plainTarget (r : Request) : List Char :=
  (withoutHost r.target.toList).takeWhile (· != '#')

/-- The path. -/
def path (r : Request) : String :=
  String.ofList (r.plainTarget.takeWhile (· != '?'))

/-- The query, empty if there is none. -/
def query (r : Request) : String :=
  String.ofList ((r.plainTarget.dropWhile (· != '?')).drop 1)

end Request

/-- A response. -/
structure Response where
  status : Nat
  /-- The JSON text, if that is what the body is. -/
  json : Option String := none
deriving DecidableEq, Repr

namespace Response

/-- A response without a JSON body. -/
def ofStatus (status : Nat) : Response := ⟨status, none⟩

/-- A value. -/
def ofValue (v : Json.Value) : Response := ⟨200, some v.text⟩

/-- A refusal with its wording. -/
def ofError (status : Nat) (message : String) : Response :=
  ⟨status, some (Json.Value.object [("error", .string message)]).text⟩

/-- The same without the body. -/
def withoutBody (r : Response) : Response :=
  { r with json := r.json.map fun _ => "" }

end Response

end AttributeCache.Http

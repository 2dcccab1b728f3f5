import AttributeCache.Text.Split
/-!
# Property paths

A path names an attribute of an entity, or one nested in it: segments with
points between, such as `customer.address.city`. A first segment that
begins with `+` names a dynamic attribute by its code. Segments are trimmed
and never empty.
-/

namespace AttributeCache

/-- A path of one or more segments. -/
structure PropertyPath where
  first : String
  rest : List String
deriving DecidableEq, Repr

namespace PropertyPath

/-- Marks a segment that names a dynamic attribute. -/
def dynamicMark : Char := '+'

/-- The code a segment names, if it names a dynamic attribute. -/
def dynamicCode? (segment : String) : Option String :=
  match segment.toList with
  | '+' :: code => some (String.ofList code)
  | _ => none

/-- All segments in order. -/
def segments (p : PropertyPath) : List String :=
  p.first :: p.rest

/-- How many segments there are. -/
def length (p : PropertyPath) : Nat :=
  p.segments.length

/-- Whether the path names an attribute of the entity itself. -/
def isDirect (p : PropertyPath) : Bool :=
  p.rest.isEmpty

/-- The segments with points between. -/
def text (p : PropertyPath) : String :=
  Text.join "." p.segments

instance : ToString PropertyPath := ⟨text⟩

/-- Why a text is no path. -/
inductive Refused where
  | blank
  | emptySegment (path : String)
  | nestedDynamic (path : String)
  | unnamedDynamic (path : String)
deriving DecidableEq, Repr

/-- The wording of the refusal. -/
def Refused.message : Refused → String
  | .blank => "unsupported operation: empty property path"
  | .emptySegment path =>
    "unsupported operation: property path '" ++ path ++ "' has an empty segment"
  | .nestedDynamic path =>
    "unsupported operation: property path '" ++ path ++
      "': dynamic attributes are only addressable at the root"
  | .unnamedDynamic path =>
    "unsupported operation: property path '" ++ path ++ "' names no dynamic attribute"

/-- Reads a path. Blanks around it and around its segments do not count. -/
def parse (s : String) : Except Refused PropertyPath :=
  let path := Text.trim s
  if path.isEmpty then .error .blank
  else
    match (Text.pieces '.' path).map Text.trim with
    | [] => .error .blank
    | first :: rest =>
      if (first :: rest).any String.isEmpty then .error (.emptySegment path)
      else if rest.any fun segment => (dynamicCode? segment).isSome then
        .error (.nestedDynamic path)
      else if first = "+" then .error (.unnamedDynamic path)
      else .ok ⟨first, rest⟩

end PropertyPath

end AttributeCache

import AttributeCache.Json.Value
import AttributeCache.PropertyPath
/-!
# Entities

An entity holds static attributes in a JSON value and the values of its
dynamic attributes by code. A path leads from one of either kind down
through the fields of nested objects.
-/

namespace AttributeCache

/-- An instance of an entity type. -/
structure Entity where
  id : String
  entityType : String
  data : Json.Value
  /-- Sorted by code. -/
  dynamicAttributes : List (String × Json.Value)
deriving Repr, BEq, Inhabited

namespace Entity

/-- An entity without dynamic attributes. -/
def new (id entityType : String) (data : Json.Value) : Entity :=
  ⟨id, entityType, data, []⟩

/-- A static attribute of the entity itself. -/
def value? (e : Entity) (name : String) : Option Json.Value :=
  e.data.get? name

/-- A dynamic attribute. -/
def dynamicValue? (e : Entity) (code : String) : Option Json.Value :=
  Keyed.find? code e.dynamicAttributes

/-- Sets a dynamic attribute. -/
def setDynamicValue (e : Entity) (code : String) (value : Json.Value) : Entity :=
  { e with dynamicAttributes := Keyed.insert code value e.dynamicAttributes }

/-- Where a path starts. -/
def root? (e : Entity) (segment : String) : Option Json.Value :=
  match PropertyPath.dynamicCode? segment with
  | some code => e.dynamicValue? code
  | none => e.value? segment

/-- What a path leads to. -/
def valueAt? (e : Entity) (path : PropertyPath) : Option Json.Value := do
  path.rest.foldlM (fun value segment => value.get? segment) (← e.root? path.first)

/-- Equal with the zeros of both signs as one number. -/
def same (a b : Entity) : Bool :=
  a.id == b.id && a.entityType == b.entityType && a.data.same b.data &&
    (Json.Value.object a.dynamicAttributes).same (.object b.dynamicAttributes)

end Entity

end AttributeCache

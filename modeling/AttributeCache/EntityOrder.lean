import AttributeCache.Entity
import AttributeCache.Json.Printer
/-!
# Ordering entities by a path

Values are compared by kind first and within a kind by nature: truth
values, then numbers, then text. Arrays and objects have no order of their
own and rank as their JSON text, so any two values compare. Missing values
and `null` are one, and come first or last as asked. A descending order is
the ascending one reversed, the place of the missing values included.
-/

namespace AttributeCache

/-- A value that is not null, as far as it is compared. -/
inductive SortKey where
  | bool (b : Bool)
  | number (n : Number)
  | text (s : String)

namespace SortKey

/-- The key of a value. -/
def of : Json.Value → SortKey
  | .bool b => .bool b
  | .number n => .number n
  | .string s => .text s
  | v => .text v.text

/-- The place of a kind among the kinds. -/
def rank : SortKey → Nat
  | .bool _ => 0
  | .number _ => 1
  | .text _ => 2

/-- By kind, then within the kind. -/
def compare : SortKey → SortKey → Ordering
  | .bool a, .bool b => Ord.compare a b
  | .number a, .number b => a.compare b
  | .text a, .text b => Ord.compare a b
  | a, b => Ord.compare a.rank b.rank

end SortKey

/-- Where missing values stand in ascending order. -/
inductive NullPlace where
  | first
  | last
deriving DecidableEq, Repr

/-- How an order reads the value it compares by. -/
inductive Accessor where
  /-- A static attribute of the entity itself. -/
  | property (name : String)
  /-- A dynamic attribute. -/
  | dynamic (code : String)
  /-- A nested path, walked for each entity. -/
  | path (p : PropertyPath)
deriving DecidableEq, Repr

namespace Accessor

/-- The accessor for a path; a direct path needs no walk. -/
def ofPath (path : PropertyPath) : Accessor :=
  if path.isDirect then
    match PropertyPath.dynamicCode? path.first with
    | some code => .dynamic code
    | none => .property path.first
  else .path path

/-- The value to compare by; `null` counts as missing. -/
def read? (a : Accessor) (e : Entity) : Option Json.Value :=
  let value :=
    match a with
    | .property name => e.value? name
    | .dynamic code => e.dynamicValue? code
    | .path p => e.valueAt? p
  value.filter (!·.isNull)

end Accessor

/-- An order of entities by one path. -/
structure EntityOrder where
  path : PropertyPath
  accessor : Accessor
  ascending : Bool
  nulls : NullPlace
deriving DecidableEq, Repr

namespace EntityOrder

/-- The order by a path. -/
def ofPath (path : PropertyPath) (ascending : Bool) (nulls : NullPlace := .first) :
    EntityOrder :=
  ⟨path, .ofPath path, ascending, nulls⟩

/-- The place of two values in ascending order. -/
def compareNullable (nulls : NullPlace) : Option Json.Value → Option Json.Value → Ordering
  | none, none => .eq
  | none, some _ => if nulls = .first then .lt else .gt
  | some _, none => if nulls = .first then .gt else .lt
  | some a, some b => (SortKey.of a).compare (SortKey.of b)

/-- The place of two entities. -/
def compare (o : EntityOrder) (a b : Entity) : Ordering :=
  let ordering := compareNullable o.nulls (o.accessor.read? a) (o.accessor.read? b)
  if o.ascending then ordering else ordering.swap

/-- The entities in order; those that compare equal stay as they stood. -/
def sort (o : EntityOrder) (entities : List Entity) : List Entity :=
  entities.mergeSort fun a b => (o.compare a b).isLE

end EntityOrder

end AttributeCache

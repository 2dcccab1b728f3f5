import AttributeCache.Entity
/-!
# Datasource events

What happens to a datasource, and the roles in which a listener hears of
it. A collection listener hears everything; a datasource listener hears of
states, items and values; a value listener of values only.
-/

namespace AttributeCache.Datasource

/-- The state of a datasource. -/
inductive State where
  | notInitialized
  | invalid
  | valid
deriving DecidableEq, Repr

/-- What changed in a collection. -/
inductive Operation where
  | refresh
  | clear
  | add
  | remove
  | update
deriving DecidableEq, Repr

/-- A role a listener plays, and the role an event is for. -/
inductive Role where
  | datasource
  | collection
  | value
deriving DecidableEq, Repr

/-- Something that happened. -/
inductive Event where
  | stateChanged (datasource : String) (previous current : State)
  | itemChanged (datasource : String) (previous current : Option Entity)
  | collectionChanged (datasource : String) (operation : Operation)
  | valueChanged (item : Entity) (property : String) (previous current : Option Json.Value)

/-- The role an event is for. -/
def Event.role : Event → Role
  | .stateChanged .. => .datasource
  | .itemChanged .. => .datasource
  | .collectionChanged .. => .collection
  | .valueChanged .. => .value

/-- Whether a listener in a role hears of events for another. -/
def Role.accepts : Role → Role → Bool
  | .collection, _ => true
  | .datasource, event => event == .datasource || event == .value
  | .value, event => event == .value

end AttributeCache.Datasource

import AttributeCache.Datasource.Event
/-!
# Notifying the actions of a component

The actions that listen to one datasource, in the order they were added,
each under an id of its own. Adding under an id that is there replaces the
action and keeps its place. `H` is what is called for an event. Whoever
removes an action is told whether there was one, and whoever notifies how
many deliveries were made.
-/

namespace AttributeCache.Datasource

/-- An action and the roles it listens in. -/
structure Action (H : Type) where
  id : String
  roles : List Role
  handler : H

/-- Whether the action hears of events for a role; one of its roles is
enough. -/
def Action.hears (a : Action H) (event : Role) : Bool :=
  a.roles.any (·.accepts event)

/-- The actions in order. -/
structure Notifier (H : Type) where
  actions : List (Action H) := []

namespace Notifier

/-- The ids in order. -/
def ids (n : Notifier H) : List String :=
  n.actions.map (·.id)

/-- The actions with one put in the place of its id, or at the end. -/
def put (action : Action H) : List (Action H) → List (Action H)
  | [] => [action]
  | a :: rest => if a.id = action.id then action :: rest else a :: put action rest

/-- Adds an action, or replaces the one of its id. -/
def add (n : Notifier H) (action : Action H) : Notifier H :=
  ⟨put action n.actions⟩

/-- Whether an action has this id. -/
def contains (n : Notifier H) (id : String) : Bool :=
  n.actions.any (·.id == id)

/-- Removes the action of an id, if there is one. -/
def remove (n : Notifier H) (id : String) : Notifier H :=
  ⟨n.actions.filter (·.id != id)⟩

/-- The handlers to call for an event, in order, each once. -/
def handlers (n : Notifier H) (event : Event) : List H :=
  (n.actions.filter (·.hears event.role)).map (·.handler)

end Notifier

/-! ## Calls and their answers -/

/-- What is asked of a notifier. -/
inductive Call (H : Type) where
  | add (action : Action H)
  | remove (id : String)
  | notify (event : Event)

/-- What comes back. -/
inductive Answer (H : Type) where
  | added
  | removed (found : Bool)
  /-- The handlers called, in order, and how many deliveries were made. -/
  | notified (called : List H) (deliveries : Nat)
deriving DecidableEq

/-- What a notifier does for a call. -/
def Notifier.answer (n : Notifier H) : Call H → Answer H × Notifier H
  | .add action => (.added, n.add action)
  | .remove id => (.removed (n.contains id), n.remove id)
  | .notify event =>
    let called := n.handlers event
    (.notified called called.length, n)

end AttributeCache.Datasource

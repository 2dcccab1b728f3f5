import AttributeCache.Configuration.Error
/-!
# Namespaces and their members

Namespaces in the order they were declared in, each with its members in the
order they were inserted in. A member belongs to one namespace only. The
list is all there is: who owns a member is read off it.
-/

namespace AttributeCache

/-- A declared namespace and the classes it owns. -/
structure Namespace where
  name : String
  members : List String
deriving DecidableEq, Repr

/-- The declared namespaces in order. -/
structure NamespaceMap where
  namespaces : List Namespace := []
deriving DecidableEq, Repr

namespace NamespaceMap

/-! ## Questions -/

/-- Where a namespace stands. -/
def position? (m : NamespaceMap) (name : String) : Option Nat :=
  m.namespaces.findIdx? (·.name == name)

/-- The namespace of a name. -/
def get? (m : NamespaceMap) (name : String) : Option Namespace :=
  m.namespaces.find? (·.name == name)

/-- The members of a namespace. -/
def members? (m : NamespaceMap) (name : String) : Option (List String) :=
  (m.get? name).map (·.members)

/-- The name of the namespace that owns a member. -/
def owner? (m : NamespaceMap) (member : String) : Option String :=
  (m.namespaces.find? (·.members.contains member)).map (·.name)

/-- Whether some namespace owns a member. -/
def contains (m : NamespaceMap) (member : String) : Bool :=
  m.namespaces.any (·.members.contains member)

/-- All members, namespace by namespace. -/
def allMembers (m : NamespaceMap) : List String :=
  m.namespaces.flatMap (·.members)

/-- How many members there are. -/
def memberCount (m : NamespaceMap) : Nat :=
  m.allMembers.length

/-- Whether a class name is that of the namespace, a point, and more. -/
def encloses (name member : String) : Bool :=
  let start := name.toList ++ ['.']
  start.isPrefixOf member.toList && start.length < member.toList.length

/-- Where the first namespace stands that encloses a class. -/
def enclosing? (m : NamespaceMap) (member : String) : Option Nat :=
  m.namespaces.findIdx? fun ns => encloses ns.name member

/-! ## Changes -/

/-- The map with a namespace declared, and where it stands. Declaring it
again changes nothing. -/
def declare (m : NamespaceMap) (name : String) : NamespaceMap × Nat :=
  match m.position? name with
  | some position => (m, position)
  | none => (⟨m.namespaces ++ [⟨name, []⟩]⟩, m.namespaces.length)

/-- Adds a member to the namespace at a position, unless one owns it. -/
def insert (m : NamespaceMap) (position : Nat) (member : String) :
    Except ConfigurationError NamespaceMap :=
  match m.owner? member with
  | some owner => .error (.duplicateMember member owner)
  | none =>
    .ok ⟨m.namespaces.modify position fun ns => { ns with members := ns.members ++ [member] }⟩

end NamespaceMap

end AttributeCache

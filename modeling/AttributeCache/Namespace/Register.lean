import AttributeCache.Keyed
import AttributeCache.Namespace
/-!
# Namespaces with tables

A register is a map of namespaces that is not searched. Beside the list it
keeps two tables: where the namespace of each name stands, and where the
owner of each member stands. Every answer is looked up in a table, and every
change is made to the list and to the tables.

A position that is asked for is one that `declare` has returned. Where no
namespace stands at a position there is no answer at all.
-/

namespace AttributeCache

/-- Namespaces in the order they were declared in, and tables of them. -/
structure NamespaceRegister where
  namespaces : List Namespace := []
  /-- Where the namespace of a name stands. -/
  positions : List (String × Nat) := []
  /-- Where the owner of a member stands. -/
  owners : List (String × Nat) := []
deriving DecidableEq, Repr

namespace NamespaceRegister

/-- The namespaces alone. -/
def toMap (r : NamespaceRegister) : NamespaceMap :=
  ⟨r.namespaces⟩

/-! ## Questions -/

/-- The namespace of a name. -/
def get? (r : NamespaceRegister) (name : String) : Option Namespace := do
  let position ← Keyed.find? name r.positions
  r.namespaces[position]?

/-- The members of a namespace. -/
def members? (r : NamespaceRegister) (name : String) : Option (List String) :=
  (r.get? name).map (·.members)

/-- The name of the namespace that owns a member. -/
def owner? (r : NamespaceRegister) (member : String) : Option String := do
  let position ← Keyed.find? member r.owners
  let owner ← r.namespaces[position]?
  return owner.name

/-- Whether some namespace owns a member. -/
def contains (r : NamespaceRegister) (member : String) : Bool :=
  (Keyed.find? member r.owners).isSome

/-- All members, namespace by namespace. -/
def allMembers (r : NamespaceRegister) : List String :=
  r.namespaces.flatMap (·.members)

/-- How many members there are. -/
def memberCount (r : NamespaceRegister) : Nat :=
  r.owners.length

/-! ## Changes -/

/-- The register with a namespace declared, and where it stands. Declaring it
again changes nothing. -/
def declare (r : NamespaceRegister) (name : String) : NamespaceRegister × Nat :=
  match Keyed.find? name r.positions with
  | some position => (r, position)
  | none =>
    let position := r.namespaces.length
    ({ r with
      namespaces := r.namespaces ++ [⟨name, []⟩]
      positions := Keyed.insert name position r.positions }, position)

/-- The register with a member added to the namespace at a position, and how
that went: it is refused where some namespace owns the member. -/
def insert? (r : NamespaceRegister) (position : Nat) (member : String) :
    Option (NamespaceRegister × Except ConfigurationError Unit) :=
  match Keyed.find? member r.owners with
  | some position => do
    let owner ← r.namespaces[position]?
    return (r, .error (.duplicateMember member owner.name))
  | none => do
    let ns ← r.namespaces[position]?
    return ({ r with
      namespaces := r.namespaces.set position { ns with members := ns.members ++ [member] }
      owners := Keyed.insert member position r.owners }, .ok ())

end NamespaceRegister

end AttributeCache

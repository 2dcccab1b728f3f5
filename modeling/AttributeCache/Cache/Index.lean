import AttributeCache.Cache.Error
import AttributeCache.Keyed
import AttributeCache.Namespace
/-!
# Index of definitions

Definitions grouped by entity type. Each must be valid, belong to a known
entity type, and have a code of its own within the type; they are taken in
one after the other, and the first that breaks a rule is reported. In the
end each group is put in display order, by place and then by code.
-/

namespace AttributeCache

/-- Definitions by entity type, the types sorted. -/
structure AttributeIndex where
  groups : List (String × List AttributeDefinition) := []
deriving Repr, BEq

namespace AttributeIndex

/-- Display order: by place, then by code. -/
def inDisplayOrder (a b : AttributeDefinition) : Bool :=
  ((compare a.order.toInt b.order.toInt).then (compare a.code b.code)).isLE

/-- Takes in a definition behind those of its entity type. -/
def add (m : NamespaceMap) (index : AttributeIndex) (d : AttributeDefinition) :
    Except CacheError AttributeIndex :=
  match d.validate with
  | .error e => .error (.invalidAttribute e)
  | .ok () =>
    if !m.contains d.entityType then .error (.unknownEntityType d.entityType d.code)
    else
      let group := (Keyed.find? d.entityType index.groups).getD []
      if group.any (·.code == d.code) then .error (.duplicateAttribute d.entityType d.code)
      else .ok ⟨Keyed.insert d.entityType (group ++ [d]) index.groups⟩

/-- The index with each group in display order. -/
def ordered (index : AttributeIndex) : AttributeIndex :=
  ⟨index.groups.map fun (entityType, group) => (entityType, group.mergeSort inDisplayOrder)⟩

/-- The index of some definitions. -/
def build (m : NamespaceMap) (definitions : List AttributeDefinition) :
    Except CacheError AttributeIndex :=
  (definitions.foldlM (add m) {}).map ordered

/-- How many definitions there are. -/
def length (index : AttributeIndex) : Nat :=
  (index.groups.flatMap (·.2)).length

/-- Whether there is no definition. -/
def isEmpty (index : AttributeIndex) : Bool :=
  index.groups.isEmpty

end AttributeIndex

end AttributeCache

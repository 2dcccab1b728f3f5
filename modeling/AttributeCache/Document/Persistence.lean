import AttributeCache.Json.Decode
/-!
# Persistence descriptors

A persistence descriptor lists the classes of a persistence unit. The unit
may be missing as far as reading goes; merging asks for it.
-/

namespace AttributeCache

/-- A unit of persistent classes. -/
structure PersistenceUnit where
  name : Option String := none
  classes : List String := []
deriving DecidableEq, Repr

/-- A persistence descriptor. -/
structure PersistenceDocument where
  unit : Option PersistenceUnit := none
deriving DecidableEq, Repr

namespace PersistenceDocument

/-- The fields of a unit read so far. -/
structure UnitDraft where
  name : Option (Option String) := none
  classes : Option (List String) := none

/-- How a unit is read. -/
def unitRecord : Json.Record UnitDraft PersistenceUnit where
  names := ["name", "classes"]
  strict := true
  field room name :=
    match name with
    | "name" => some fun t d => do
      return { d with name := ← Json.Record.once d.name (t.asOptional Json.Tree.asString) }
    | "classes" => some fun t d => do
      let value := t.asList (fun _ t => t.asString) room
      return { d with classes := ← Json.Record.once d.classes value }
    | _ => none
  blank := {}
  finish d := return ⟨d.name.join, d.classes.getD []⟩

/-- How a descriptor is read. -/
def record : Json.Record (Option (Option PersistenceUnit)) PersistenceDocument where
  names := ["persistence_unit"]
  strict := true
  field room name :=
    match name with
    | "persistence_unit" => some fun t d =>
      Json.Record.once d (t.asOptional (unitRecord.read room))
    | _ => none
  blank := none
  finish d := return ⟨d.join⟩

/-- Reads a descriptor. -/
def ofTree : Nat → Json.Tree → Except Json.Fault PersistenceDocument :=
  record.read

end PersistenceDocument

end AttributeCache

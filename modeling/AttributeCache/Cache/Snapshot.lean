import AttributeCache.Attribute.Json
import AttributeCache.Cache.Index
import AttributeCache.Stamp.Json
/-!
# Snapshots

One published generation of the definitions, with the stamp it was
published under. A snapshot is never changed; a reload publishes another.
-/

namespace AttributeCache

/-- A generation of the definitions. -/
structure Snapshot where
  timestamp : Stamp
  /-- Definitions by entity type, the types sorted. -/
  attributes : List (String × List AttributeDefinition)
deriving Repr, BEq

namespace Snapshot

/-- The index under a stamp. -/
def ofIndex (timestamp : Stamp) (index : AttributeIndex) : Snapshot :=
  ⟨timestamp, index.groups⟩

/-- The definitions of an entity type in display order. -/
def attributesFor (s : Snapshot) (entityType : String) : List AttributeDefinition :=
  (Keyed.find? entityType s.attributes).getD []

/-- The definition of a code. -/
def attribute? (s : Snapshot) (entityType code : String) : Option AttributeDefinition :=
  (s.attributesFor entityType).find? (·.code == code)

/-- The entity types that have definitions, sorted. -/
def entityTypes (s : Snapshot) : List String :=
  s.attributes.map (·.1)

/-- How many definitions there are. -/
def length (s : Snapshot) : Nat :=
  (s.attributes.flatMap (·.2)).length

/-- Whether there is no entity type with definitions. -/
def isEmpty (s : Snapshot) : Bool :=
  s.attributes.isEmpty

/-! ## JSON form -/

/-- The snapshot as a record. -/
def json (s : Snapshot) : Json.Value :=
  .object [("timestamp", s.timestamp.json),
    ("attributes", .object (s.attributes.map fun (entityType, group) =>
      (entityType, .array (group.map (·.json)))))]

/-- The fields read so far. -/
structure Draft where
  timestamp : Option Stamp := none
  attributes : Option (List (String × List AttributeDefinition)) := none

/-- How a snapshot is read. -/
def record : Json.Record Draft Snapshot where
  names := ["timestamp", "attributes"]
  strict := false
  field room name :=
    match name with
    | "timestamp" => some fun t d => do
      return { d with timestamp := ← Json.Record.once d.timestamp (Stamp.ofTree room t) }
    | "attributes" => some fun t d => do
      let value := t.asMap (Json.Tree.asList AttributeDefinition.ofTree) room
      return { d with attributes := ← Json.Record.once d.attributes value }
    | _ => none
  blank := {}
  finish d := do
    return ⟨← Json.Record.need d.timestamp, ← Json.Record.need d.attributes⟩

/-- Reads a snapshot. -/
def ofTree : Nat → Json.Tree → Except Json.Fault Snapshot :=
  record.read

end Snapshot

end AttributeCache

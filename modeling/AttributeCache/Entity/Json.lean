import AttributeCache.Entity
import AttributeCache.Json.Decode
/-!
# Entities in JSON

A record whose dynamic attributes may be missing, and are left out when
there are none.
-/

namespace AttributeCache.Entity

/-- The dynamic attributes as an object. -/
def dynamicJson (e : Entity) : Json.Value :=
  .object e.dynamicAttributes

/-- The entity as a record. -/
def json (e : Entity) : Json.Value :=
  .object <|
    [("id", .string e.id), ("entity_type", .string e.entityType), ("data", e.data)] ++
      if e.dynamicAttributes.isEmpty then [] else [("dynamic_attributes", e.dynamicJson)]

/-- The fields read so far. -/
structure Draft where
  id : Option String := none
  entityType : Option String := none
  data : Option Json.Value := none
  dynamicAttributes : Option (List (String × Json.Value)) := none

/-- How an entity is read. -/
def record : Json.Record Draft Entity where
  names := ["id", "entity_type", "data", "dynamic_attributes"]
  strict := false
  field room name :=
    match name with
    | "id" => some fun t d => do
      return { d with id := ← Json.Record.once d.id t.asString }
    | "entity_type" => some fun t d => do
      return { d with entityType := ← Json.Record.once d.entityType t.asString }
    | "data" => some fun t d => do
      return { d with data := ← Json.Record.once d.data (t.asValue room) }
    | "dynamic_attributes" => some fun t d => do
      let value := t.asMap Json.Tree.asValue room
      return { d with dynamicAttributes := ← Json.Record.once d.dynamicAttributes value }
    | _ => none
  blank := {}
  finish d := do
    return {
      id := ← Json.Record.need d.id
      entityType := ← Json.Record.need d.entityType
      data := ← Json.Record.need d.data
      dynamicAttributes := d.dynamicAttributes.getD [] }

/-- Reads an entity. -/
def ofTree : Nat → Json.Tree → Except Json.Fault Entity :=
  record.read

end AttributeCache.Entity

import AttributeCache.Attribute.Definition
import AttributeCache.Json.Decode
/-!
# Attribute definitions in JSON

A record of which only the code and the types are needed. Optional fields
are left out when they have no value, and may be `null`. The options go by
two names, which count as one field.
-/

namespace AttributeCache.AttributeDefinition

/-- The definition as a record. -/
def json (d : AttributeDefinition) : Json.Value :=
  .object <|
    [("code", .string d.code), ("entity_type", .string d.entityType),
      ("value_type", .string d.valueType.name)] ++
    Json.Value.optional "category" (d.category.map .string) ++
    [("order_no", .number (.ofInt32 d.order)), ("required", .bool d.required)] ++
    Json.Value.optional "default_value" d.default ++
    Json.Value.optional "enumeration" (d.options.map Json.Value.strings) ++
    Json.Value.optional "target_entity" (d.target.map .string)

/-- The fields read so far. -/
structure Draft where
  code : Option String := none
  entityType : Option String := none
  valueType : Option ValueType := none
  category : Option (Option String) := none
  order : Option Int32 := none
  required : Option Bool := none
  default : Option (Option Json.Value) := none
  options : Option (Option (List String)) := none
  target : Option (Option String) := none

/-- Reads a type from its name. -/
def valueTypeOfTree : Nat → Json.Tree → Except Json.Fault ValueType :=
  Json.Tree.asName ValueType.ofName?

/-- A list of strings. -/
def stringsOfTree : Nat → Json.Tree → Except Json.Fault (List String) :=
  Json.Tree.asList fun _ t => t.asString

/-- Reads the options into a draft. -/
def putOptions (room : Nat) (t : Json.Tree) (d : Draft) : Except Json.Fault Draft := do
  let value := t.asOptional (stringsOfTree room)
  return { d with options := ← Json.Record.once d.options value }

/-- How a definition is read. -/
def record : Json.Record Draft AttributeDefinition where
  names := ["code", "entity_type", "value_type", "category", "order_no", "required",
    "default_value", "enumeration", "target_entity"]
  strict := false
  field room name :=
    match name with
    | "code" => some fun t d => do
      return { d with code := ← Json.Record.once d.code t.asString }
    | "entity_type" => some fun t d => do
      return { d with entityType := ← Json.Record.once d.entityType t.asString }
    | "value_type" => some fun t d => do
      return { d with valueType := ← Json.Record.once d.valueType (valueTypeOfTree room t) }
    | "category" => some fun t d => do
      return { d with category :=
        ← Json.Record.once d.category (t.asOptional Json.Tree.asString) }
    | "order_no" => some fun t d => do
      let value := (t.asInt (-0x80000000) 0x80000000).map Int32.ofInt
      return { d with order := ← Json.Record.once d.order value }
    | "required" => some fun t d => do
      return { d with required := ← Json.Record.once d.required t.asBool }
    | "default_value" => some fun t d => do
      let value := t.asOptional (·.asValue room)
      return { d with default := ← Json.Record.once d.default value }
    | "enumeration" => some (putOptions room)
    | "options" => some (putOptions room)
    | "target_entity" => some fun t d => do
      return { d with target := ← Json.Record.once d.target (t.asOptional Json.Tree.asString) }
    | _ => none
  blank := {}
  finish d := do
    return {
      code := ← Json.Record.need d.code
      entityType := ← Json.Record.need d.entityType
      valueType := ← Json.Record.need d.valueType
      category := d.category.join
      order := d.order.getD 0
      required := d.required.getD false
      default := d.default.join
      options := d.options.join
      target := d.target.join }

/-- Reads a definition. -/
def ofTree : Nat → Json.Tree → Except Json.Fault AttributeDefinition :=
  record.read

end AttributeCache.AttributeDefinition

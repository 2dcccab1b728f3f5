import AttributeCache.Attribute.Json
/-!
# Attribute documents

An attribute document declares dynamic attributes of any entity types.
-/

namespace AttributeCache

/-- An attribute document. -/
structure AttributesDocument where
  attributes : List AttributeDefinition := []
deriving Repr

namespace AttributesDocument

/-- How a document is read. -/
def record : Json.Record (Option (List AttributeDefinition)) AttributesDocument where
  names := ["attributes"]
  strict := true
  field room name :=
    match name with
    | "attributes" => some fun t d =>
      Json.Record.once d (t.asList AttributeDefinition.ofTree room)
    | _ => none
  blank := none
  finish d := return ⟨d.getD []⟩

/-- Reads a document. -/
def ofTree : Nat → Json.Tree → Except Json.Fault AttributesDocument :=
  record.read

end AttributesDocument

end AttributeCache

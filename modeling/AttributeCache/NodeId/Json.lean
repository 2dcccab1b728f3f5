import AttributeCache.Json.Decode
import AttributeCache.NodeId
/-!
# Node identities in JSON

A node's name is a string in any of its forms, and is written hyphenated.
-/

namespace AttributeCache.NodeId

/-- The name as a string. -/
def json (node : NodeId) : Json.Value :=
  .string node.text

/-- Reads a name from a string. -/
def ofTree (t : Json.Tree) : Except Json.Fault NodeId := do
  match parse? (← t.asString) with
  | some node => return node
  | none => throw .shape

end AttributeCache.NodeId

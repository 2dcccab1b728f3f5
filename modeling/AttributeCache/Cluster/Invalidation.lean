import AttributeCache.NodeId.Json
import AttributeCache.Stamp.Json
/-!
# Invalidations

A node that has published a snapshot on request says so to the others: the
message names the node and the stamp.
-/

namespace AttributeCache

/-- Says that a node published a snapshot. -/
structure Invalidation where
  origin : NodeId
  timestamp : Stamp
deriving DecidableEq, Repr

namespace Invalidation

/-- The message as a record. -/
def json (m : Invalidation) : Json.Value :=
  .object [("origin", m.origin.json), ("timestamp", m.timestamp.json)]

/-- The fields read so far. -/
structure Draft where
  origin : Option NodeId := none
  timestamp : Option Stamp := none

/-- How a message is read. -/
def record : Json.Record Draft Invalidation where
  names := ["origin", "timestamp"]
  strict := false
  field room name :=
    match name with
    | "origin" => some fun t d => do
      return { d with origin := ← Json.Record.once d.origin (NodeId.ofTree t) }
    | "timestamp" => some fun t d => do
      return { d with timestamp := ← Json.Record.once d.timestamp (Stamp.ofTree room t) }
    | _ => none
  blank := {}
  finish d := do
    return ⟨← Json.Record.need d.origin, ← Json.Record.need d.timestamp⟩

/-- Reads a message. -/
def ofTree : Nat → Json.Tree → Except Json.Fault Invalidation :=
  record.read

end Invalidation

end AttributeCache

import AttributeCache.Json.Decode
import AttributeCache.Stamp
/-!
# Stamps in JSON

A stamp is a record of its wall time and its counter.
-/

namespace AttributeCache.Stamp

/-- The stamp as a record. -/
def json (s : Stamp) : Json.Value :=
  .object [("wall_time", .number (.ofUInt64 s.wall)), ("logical", .number (.ofUInt32 s.logical))]

/-- The fields read so far. -/
structure Draft where
  wall : Option UInt64 := none
  logical : Option UInt32 := none

/-- How a stamp is read. -/
def record : Json.Record Draft Stamp where
  names := ["wall_time", "logical"]
  strict := false
  field _ name :=
    match name with
    | "wall_time" => some fun t d => do
      let value := (t.asInt 0 UInt64.size).map fun i => UInt64.ofNat i.toNat
      return { d with wall := ← Json.Record.once d.wall value }
    | "logical" => some fun t d => do
      let value := (t.asInt 0 UInt32.size).map fun i => UInt32.ofNat i.toNat
      return { d with logical := ← Json.Record.once d.logical value }
    | _ => none
  blank := {}
  finish d := do
    return ⟨← Json.Record.need d.wall, ← Json.Record.need d.logical⟩

/-- Reads a stamp. -/
def ofTree : Nat → Json.Tree → Except Json.Fault Stamp :=
  record.read

end AttributeCache.Stamp

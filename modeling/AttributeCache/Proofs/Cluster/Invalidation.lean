import AttributeCache.Cluster.Invalidation
import AttributeCache.Proofs.Json.Record
import AttributeCache.Proofs.NodeId
/-!
# Messages arrive as they were sent

A stamp and a message come back from the trees of their records, and so
from their text.
-/

namespace AttributeCache

open Json

variable {room : Nat}

theorem Stamp.readsBack_json (s : Stamp) : s.json.ReadsBack := by
  simp only [Stamp.json, Value.ReadsBack, Value.FieldsReadBack, and_true]
  exact ⟨readsBack_integer _ _, readsBack_integer _ _⟩

theorem map_asInt_ofUInt64 (n : UInt64) :
    ((Tree.number (some (.ofUInt64 n))).asInt 0 UInt64.size).map
      (fun i => UInt64.ofNat i.toNat) = .ok n := by
  rw [Number.ofUInt64, Tree.asInt, if_pos ⟨Int.natCast_nonneg _, Int.ofNat_lt.2 n.toNat_lt⟩,
    Except.map, Int.toNat_natCast, UInt64.ofNat_toNat]

theorem map_asInt_ofUInt32 (n : UInt32) :
    ((Tree.number (some (.ofUInt32 n))).asInt 0 UInt32.size).map
      (fun i => UInt32.ofNat i.toNat) = .ok n := by
  rw [Number.ofUInt32, Tree.asInt, if_pos ⟨Int.natCast_nonneg _, Int.ofNat_lt.2 n.toNat_lt⟩,
    Except.map, Int.toNat_natCast, UInt32.ofNat_toNat]

/-- A stamp comes back from its record. -/
theorem Stamp.ofTree_tree (s : Stamp) : Stamp.ofTree (room + 1) s.json.tree = .ok s := by
  have hwall : ∀ rest, Stamp.record.readFields room
      ((some "wall_time", .number (some (.ofUInt64 s.wall))) :: rest) {} =
      Stamp.record.readFields room rest ⟨some s.wall, none⟩ := by
    refine fun rest => Record.readFields_cons rfl ?_
    rw [map_asInt_ofUInt64]
    rfl
  have hlogical : Stamp.record.readFields room
      [(some "logical", .number (some (.ofUInt32 s.logical)))] ⟨some s.wall, none⟩ =
      .ok ⟨some s.wall, some s.logical⟩ := by
    refine Record.readFields_cons rfl ?_
    rw [map_asInt_ofUInt32]
    rfl
  have hread := (hwall _).trans hlogical
  simp only [Stamp.ofTree, Stamp.json, Value.tree, Value.treesOfFields, Record.read]
  change (Stamp.record.readFields room _ {} >>= Stamp.record.finish) = _
  rw [hread]
  rfl

theorem Invalidation.readsBack_json (m : Invalidation) : m.json.ReadsBack := by
  simp only [Invalidation.json, NodeId.json, Value.ReadsBack, Value.FieldsReadBack, and_true,
    true_and]
  exact m.timestamp.readsBack_json

/-- A message comes back from its record. -/
theorem Invalidation.ofTree_tree (m : Invalidation) :
    Invalidation.ofTree (room + 2) m.json.tree = .ok m := by
  have horigin : ∀ rest, Invalidation.record.readFields (room + 1)
      ((some "origin", .text (some m.origin.text)) :: rest) {} =
      Invalidation.record.readFields (room + 1) rest ⟨some m.origin, none⟩ := by
    refine fun rest => Record.readFields_cons rfl ?_
    rw [NodeId.ofTree_text]
    rfl
  have htimestamp : Invalidation.record.readFields (room + 1)
      [(some "timestamp", m.timestamp.json.tree)] ⟨some m.origin, none⟩ =
      .ok ⟨some m.origin, some m.timestamp⟩ := by
    refine Record.readFields_cons rfl ?_
    rw [Stamp.ofTree_tree]
    rfl
  have hread := (horigin _).trans htimestamp
  -- the reader goes through the fields and makes the message of what it has
  simp only [Invalidation.ofTree, Invalidation.json, NodeId.json, Value.tree,
    Value.treesOfFields, Record.read]
  change (Invalidation.record.readFields (room + 1) _ {} >>= Invalidation.record.finish) = _
  rw [hread]
  rfl

/-- **A message comes back from the bytes of its text.** -/
theorem Invalidation.decodeBytes_text (m : Invalidation) :
    decodeBytes Invalidation.ofTree (Text.encode m.json.text) = .ok m := by
  rw [Json.decodeBytes_text _ _ m.readsBack_json]
  exact m.ofTree_tree

end AttributeCache

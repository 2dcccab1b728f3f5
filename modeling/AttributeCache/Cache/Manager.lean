import AttributeCache.Cache.Introspector
import AttributeCache.Cache.Snapshot
import AttributeCache.Configuration.Merge
/-!
# The published snapshot

A load builds an index from what the site gives at that moment, and only
then stamps and publishes it, in one step. A load that fails changes
nothing, neither what is published nor the clock.
-/

namespace AttributeCache

/-- What a load reads. -/
structure Site where
  configuration : Configuration
  introspector : Introspector
deriving Repr

/-- The index of what the site gives. -/
def Site.build (site : Site) : Except CacheError AttributeIndex := do
  let m ← site.configuration.namespaces.mapError .metadata
  let definitions ← site.introspector.definitions site.configuration.resources
  AttributeIndex.build m definitions

/-- The last stamp issued and the snapshot published, if one was. -/
structure Manager where
  clock : Stamp := Stamp.epoch
  current : Option Snapshot := none
deriving Repr

namespace Manager

/-- Stamps an index and publishes it. -/
def publish (now : UInt64) (m : Manager) (index : AttributeIndex) : Manager :=
  let timestamp := m.clock.tick now
  ⟨timestamp, some (.ofIndex timestamp index)⟩

/-- Builds and publishes. The stamp published, or why none was. -/
def load (now : UInt64) (m : Manager) (site : Site) : Manager × Except CacheError Stamp :=
  match site.build with
  | .error e => (m, .error e)
  | .ok index =>
    let m := m.publish now index
    (m, .ok m.clock)

/-- Moves the clock past a stamp of another node, so what is published
later is stamped later. -/
def observe (now : UInt64) (m : Manager) (remote : Stamp) : Manager :=
  { m with clock := m.clock.receive now remote }

/-- The snapshot, if it is later than a stamp. -/
def newerThan? (m : Manager) (since : Stamp) : Option Snapshot :=
  m.current.filter (·.timestamp.isAfter since)

end Manager

end AttributeCache

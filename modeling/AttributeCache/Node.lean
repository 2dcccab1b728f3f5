import AttributeCache.Cluster.Listener
import AttributeCache.Log.Control
/-!
# Nodes

A node serves the cache and may be attached to a bus. A load that is asked
for through the node announces the snapshot on the bus; loads of any other
kind announce nothing, so an announcement never leads to another one.
-/

namespace AttributeCache

/-- One server of the cache. -/
structure Node where
  id : NodeId
  /-- Whether loads asked for are announced. -/
  attached : Bool
  site : Site
  manager : Manager := {}
  bus : Bus := default
  log : LogControl := .ofThreshold (.level .info)
deriving Repr

namespace Node

/-- Reloads without announcing. -/
def reload (now : UInt64) (n : Node) : Node × Except CacheError Stamp :=
  let (manager, outcome) := n.manager.load now n.site
  ({ n with manager }, outcome)

/-- Loads on request and announces what was published. -/
def load (now : UInt64) (n : Node) : Node × Except CacheError Stamp :=
  match n.reload now with
  | (n, .error e) => (n, .error e)
  | (n, .ok stamp) =>
    if n.attached then ({ n with bus := (n.bus.publish ⟨n.id, stamp⟩).1 }, .ok stamp)
    else (n, .ok stamp)

/-- Observes a stamp of another node. -/
def observe (now : UInt64) (n : Node) (remote : Stamp) : Node :=
  { n with manager := n.manager.observe now remote }

/-- Lets the listener of a receiver take in all it is handed. -/
def listen (now : UInt64) (n : Node) (r : Receiver) : Node × Receiver :=
  let (manager, r) := Listener.drain n.id now n.site n.bus r n.manager
  ({ n with manager }, r)

end Node

end AttributeCache

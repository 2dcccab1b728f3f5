import AttributeCache.Node
/-!
# The lifetime of a running node

A node that runs has a listener on its bus and, if a period is given, a
scheduled reload. It subscribes before its first load, so nothing announced
during that load is lost; if the load fails nothing is started. Time is
counted in milliseconds since the start. A reload takes no time, and the
next one is due a period after the last.
-/

namespace AttributeCache

/-- A node that was started. -/
structure Lifecycle where
  node : Node
  /-- The listener's receiver, while the node runs. -/
  receiver : Option Receiver
  /-- Milliseconds from one scheduled reload to the next. -/
  period : Option Nat
  time : Nat := 0
deriving Repr

namespace Lifecycle

/-- The period if the configuration names none: five minutes. -/
def defaultPeriod : Nat := 300000

/-- Starts a node. On failure the node is given back as it was. -/
def start (now : UInt64) (node : Node) (period : Option Nat) :
    Except (CacheError × Node) Lifecycle :=
  let (bus, receiver) := node.bus.subscribe
  match { node with bus }.reload now with
  | (node, .error e) => .error (e, { node with bus := node.bus.unsubscribe })
  | (node, .ok _) =>
    .ok { node, receiver := some receiver, period := period.filter (0 < ·) }

/-- Lets the listener take in what is on the bus. -/
def react (now : UInt64) (l : Lifecycle) : Lifecycle :=
  match l.receiver with
  | none => l
  | some r =>
    let (node, r) := l.node.listen now r
    { l with node, receiver := some r }

/-- How many scheduled reloads are due in the next milliseconds. -/
def due (l : Lifecycle) (millis : Nat) : Nat :=
  match l.receiver, l.period with
  | some _, some period => (l.time + millis) / period - l.time / period
  | _, _ => 0

/-- Lets time pass. -/
def advance (now : UInt64) (l : Lifecycle) (millis : Nat) : Lifecycle :=
  { l with
    node := (l.due millis).repeat (fun node => (node.reload now).1) l.node
    time := l.time + millis }

/-- How long a request takes. -/
def requestMillis : Nat := 1

/-- Puts a message on the bus. -/
def publish (now : UInt64) (l : Lifecycle) (m : Invalidation) : Lifecycle × Nat :=
  let (bus, reached) := l.node.bus.publish m
  (({ l with node := { l.node with bus } }.react now).advance now requestMillis, reached)

/-- Loads on request. -/
def load (now : UInt64) (l : Lifecycle) : Lifecycle × Except CacheError Stamp :=
  let (node, outcome) := l.node.load now
  (({ l with node }.react now).advance now requestMillis, outcome)

/-- Stops the listener and the schedule. The node can still be asked. -/
def shutdown (now : UInt64) (l : Lifecycle) : Lifecycle :=
  let node :=
    match l.receiver with
    | some _ => { l.node with bus := l.node.bus.unsubscribe }
    | none => l.node
  { l with node, receiver := none }.advance now requestMillis

end Lifecycle

end AttributeCache

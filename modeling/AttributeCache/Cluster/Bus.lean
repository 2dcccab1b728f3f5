import AttributeCache.Cluster.Invalidation
/-!
# The invalidation bus

Messages go to every receiver there is, in order. The bus keeps the most
recent ones only: a receiver that has fallen behind is told how many it
missed, once, and goes on with the oldest that is kept. With no receiver a
message goes to nobody and is not kept.
-/

namespace AttributeCache

/-- A broadcast of invalidations. -/
structure Bus where
  /-- How many messages are kept. -/
  capacity : Nat
  /-- The messages kept, oldest first. -/
  recent : List Invalidation := []
  /-- How many messages there have been. -/
  sent : Nat := 0
  /-- How many receivers there are. -/
  listeners : Nat := 0
deriving DecidableEq, Repr

/-- A receiver, by the number of messages that lie behind it. -/
structure Receiver where
  next : Nat
deriving DecidableEq, Repr

/-- What a receiver is handed. -/
inductive Delivery where
  | message (m : Invalidation)
  /-- This many messages were missed. -/
  | lagged (missed : Nat)
deriving DecidableEq, Repr

namespace Bus

/-- How many messages a bus keeps if not told otherwise. -/
def defaultCapacity : Nat := 64

/-- A bus that keeps at least so many messages: at least one, and a power
of two. -/
def ofCapacity (capacity : Nat) : Bus :=
  { capacity := (max capacity 1).nextPowerOfTwo }

instance : Inhabited Bus := ⟨ofCapacity defaultCapacity⟩

/-- The last `n` of a list. -/
def lastOf (n : Nat) (l : List α) : List α :=
  l.drop (l.length - n)

/-- Sends a message, and tells how many receivers it goes to. -/
def publish (b : Bus) (m : Invalidation) : Bus × Nat :=
  if b.listeners = 0 then (b, 0)
  else
    ({ b with recent := lastOf b.capacity (b.recent ++ [m]), sent := b.sent + 1 }, b.listeners)

/-- A receiver of all messages from now on. -/
def subscribe (b : Bus) : Bus × Receiver :=
  ({ b with listeners := b.listeners + 1 }, ⟨b.sent⟩)

/-- The bus with one receiver gone. -/
def unsubscribe (b : Bus) : Bus :=
  { b with listeners := b.listeners - 1 }

/-- The number of the oldest message that is kept. -/
def oldest (b : Bus) : Nat :=
  b.sent - b.recent.length

/-- All that a receiver is going to be handed. -/
def pending (b : Bus) (r : Receiver) : List Delivery :=
  if r.next < b.oldest then .lagged (b.oldest - r.next) :: b.recent.map .message
  else (b.recent.drop (r.next - b.oldest)).map .message

/-- Hands out the next of it. -/
def receive (b : Bus) (r : Receiver) : Option Delivery × Receiver :=
  match b.pending r with
  | [] => (none, r)
  | .lagged missed :: _ => (some (.lagged missed), ⟨b.oldest⟩)
  | .message m :: _ => (some (.message m), ⟨r.next + 1⟩)

end Bus

end AttributeCache

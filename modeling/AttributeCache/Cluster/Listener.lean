import AttributeCache.Cache.Manager
import AttributeCache.Cluster.Bus
/-!
# Following the other nodes

A listener reloads whenever another node says that it has published, and
observes that node's stamp first. It ignores its own node's messages. What
it missed is covered by one reload. A reload that fails changes nothing,
and the listener goes on.
-/

namespace AttributeCache

namespace Listener

/-- What a listener does about a delivery. -/
inductive Reaction where
  | ignore
  /-- Observes the stamp, if there is one, and reloads. -/
  | reload (observed : Option Stamp)
deriving DecidableEq, Repr

/-- The reaction of the listener of a node. -/
def reaction (self : NodeId) : Delivery → Reaction
  | .message m => if m.origin = self then .ignore else .reload (some m.timestamp)
  | .lagged _ => .reload none

/-- Carries out a reaction. The manager after it, and how the reload ended if
it was one. -/
def act (now : UInt64) (site : Site) (m : Manager) :
    Reaction → Manager × Option (Except CacheError Stamp)
  | .ignore => (m, none)
  | .reload observed =>
    let m :=
      match observed with
      | some stamp => m.observe now stamp
      | none => m
    let (m, outcome) := m.load now site
    (m, some outcome)

/-- The manager after a reaction. -/
def perform (now : UInt64) (site : Site) (m : Manager) (reaction : Reaction) : Manager :=
  (act now site m reaction).1

/-- The manager after all that a receiver is going to be handed, and the
receiver behind it. -/
def drain (self : NodeId) (now : UInt64) (site : Site) (b : Bus) (r : Receiver) (m : Manager) :
    Manager × Receiver :=
  (((b.pending r).map (reaction self)).foldl (perform now site) m, ⟨b.sent⟩)

end Listener

end AttributeCache

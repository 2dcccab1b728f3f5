import AttributeCache.Cluster.Bus
import AttributeCache.Http.Message
import AttributeCache.Http.Route
import AttributeCache.Url.Address
/-!
# Telling the other nodes

A forwarder takes the messages of its own node off the bus and posts each
to every other node it knows of, in the order they are listed. It passes on
no message of another node. What cannot be delivered is left: the other
node finds out at its next scheduled reload. So is what the forwarder
itself missed on the bus.
-/

namespace AttributeCache

namespace Forwarder

/-- A request, and where it is sent to. -/
structure Post where
  endpoint : Url.Endpoint
  request : Http.Request
deriving Repr

/-- Where a peer takes messages. Slashes behind the peer do not count. -/
def invalidateAddress (peer : String) : String :=
  let base := (peer.toList.reverse.dropWhile (· == '/')).reverse
  String.ofList base ++ Http.Route.invalidate.path

/-- The addresses of the peers; one without an address is passed over. -/
def addresses (peers : List String) : List Url.Address :=
  peers.filterMap fun peer => Url.Address.parse? (invalidateAddress peer)

/-- The request that announces a message. -/
def post (m : Invalidation) (address : Url.Address) : Post where
  endpoint := address.toEndpoint
  request :=
    { method := "POST", target := address.target, contentType := some "application/json",
      body := Text.encode m.json.text }

/-- The message to pass on, if there is one. -/
def ownMessage? (self : NodeId) : Delivery → Option Invalidation
  | .message m => if m.origin = self then some m else none
  | .lagged _ => none

/-- What a delivery makes the forwarder of a node send. -/
def posts (self : NodeId) (peers : List String) (d : Delivery) : List Post :=
  match ownMessage? self d with
  | some m => (addresses peers).map (post m)
  | none => []

/-- What the forwarder sends for all that its receiver is going to be
handed, and the receiver behind it. -/
def drain (self : NodeId) (peers : List String) (b : Bus) (r : Receiver) : List Post × Receiver :=
  ((b.pending r).flatMap (posts self peers), ⟨b.sent⟩)

end Forwarder

end AttributeCache

/-!
# Routes

What a node serves over HTTP, and the path it is served at. A path names a
route only if it is written exactly so.
-/

namespace AttributeCache.Http

/-- What is served. -/
inductive Route where
  | attributes
  | reload
  | threshold
  | invalidate
deriving DecidableEq, Repr

namespace Route

/-- The path of a route. -/
def path : Route → String
  | .attributes => "/api/v1/dynamic-attributes"
  | .reload => "/api/v1/dynamic-attributes/reload"
  | .threshold => "/api/v1/log-threshold"
  | .invalidate => "/api/v1/cluster/invalidate"

/-- All routes. -/
def all : List Route := [.attributes, .reload, .threshold, .invalidate]

/-- The route of a path. -/
def ofPath? (s : String) : Option Route :=
  all.find? (·.path == s)

end Route

end AttributeCache.Http

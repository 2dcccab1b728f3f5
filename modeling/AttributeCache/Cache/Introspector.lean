import AttributeCache.Cache.Error
import AttributeCache.Document.Attributes
import AttributeCache.Resources.Basic
/-!
# Sources of definitions

Where the attribute definitions come from: documents that declare them,
read anew for every load, or a list that is at hand. A source may also be
out of order, with a reason or without.
-/

namespace AttributeCache

/-- A source of attribute definitions. -/
inductive Introspector where
  /-- The documents that declare them. -/
  | declared (files : List String)
  | listed (definitions : List AttributeDefinition)
  | unavailable (reason : String)
  /-- Breaks off without an answer. -/
  | crashing
deriving Repr

namespace Introspector

/-- The definitions a document declares. -/
def readFile (r : Resources) (path : String) : Except CacheError (List AttributeDefinition) :=
  ((r.document AttributesDocument.ofTree path).map (·.attributes)).mapError .metadata

/-- All definitions, document by document. -/
def definitions (r : Resources) : Introspector → Except CacheError (List AttributeDefinition)
  | .declared files => (files.mapM (readFile r)).map List.flatten
  | .listed definitions => .ok definitions
  | .unavailable reason => .error (.introspection reason)
  | .crashing => .error .taskFailed

end Introspector

end AttributeCache

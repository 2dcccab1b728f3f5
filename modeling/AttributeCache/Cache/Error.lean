import AttributeCache.Attribute.Definition
import AttributeCache.Configuration.Error
/-!
# Why a load failed

A load fails over the documents, over the source of the definitions, or
over a definition. Only the first such failure is reported.
-/

namespace AttributeCache

/-- Why no snapshot was published. -/
inductive CacheError where
  | metadata (e : MetadataError)
  /-- The source of the definitions gave none. -/
  | introspection (reason : String)
  | invalidAttribute (e : AttributeDefinition.Invalid)
  | unknownEntityType (entityType code : String)
  | duplicateAttribute (entityType code : String)
  /-- The load broke off without a result. -/
  | taskFailed
deriving DecidableEq, Repr

namespace CacheError

/-- The wording of the failure. -/
def message : CacheError → String
  | .metadata e => e.message
  | .introspection reason => "schema introspection failed: " ++ reason
  | .invalidAttribute e => e.message
  | .unknownEntityType entityType code =>
    "attribute '" ++ code ++ "' is declared for unknown entity type " ++ entityType
  | .duplicateAttribute entityType code =>
    "attribute '" ++ code ++ "' is declared twice for " ++ entityType
  | .taskFailed => "reload task failed: it broke off"

/-- Whether the configuration is at fault, and not the reading of it or
the system around it. -/
def isConfigurationError : CacheError → Bool
  | .metadata e => e.isConfigurationError
  | .invalidAttribute _ => true
  | .unknownEntityType .. => true
  | .duplicateAttribute .. => true
  | .introspection _ => false
  | .taskFailed => false

end CacheError

end AttributeCache

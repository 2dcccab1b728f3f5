import AttributeCache.Text.Split
/-!
# What can be wrong with a configuration

`ConfigurationError` is a fault in what the documents say together;
`MetadataError` adds the documents that cannot be had or read.
-/

namespace AttributeCache

/-- A fault in what the configuration says. -/
inductive ConfigurationError where
  | missingProperty (property : String)
  | blankRootPackage (path : String)
  | missingPersistenceUnit (path : String)
  | duplicateMember (member owner : String)
  | noOwningNamespace (member : String)
  /-- The chain starts at a configured document and ends where it closes. -/
  | cyclicInclude (path : String) (chain : List String)
  | invalidInclude (path target : String)
deriving DecidableEq, Repr

/-- The wording of the fault. -/
def ConfigurationError.message : ConfigurationError → String
  | .missingProperty property => property ++ " property is not defined"
  | .blankRootPackage path => "metadata_models/root_package is empty in " ++ path
  | .missingPersistenceUnit path => "document " ++ path ++ " has no persistence_unit"
  | .duplicateMember member owner =>
    "class " ++ member ++ " is already included into model " ++ owner
  | .noOwningNamespace member =>
    "can not find a model for class " ++ member ++
      ": the class's package must be inside of some model's root package"
  | .cyclicInclude path chain =>
    "cyclic include of " ++ path ++ " (" ++ Text.join " -> " chain ++ ")"
  | .invalidInclude path target =>
    "include '" ++ target ++ "' in " ++ path ++ " points outside the resource root"

/-- Why the documents could not be merged. -/
inductive MetadataError where
  | notFound (path : String)
  | unreadable (path : String)
  | malformed (path : String)
  | configuration (e : ConfigurationError)
deriving DecidableEq, Repr

namespace MetadataError

/-- The wording of the failure. -/
def message : MetadataError → String
  | .notFound path => "resource not found: " ++ path
  | .unreadable path => "failed to read " ++ path ++ ": it is no readable file"
  | .malformed path => "malformed document " ++ path ++ ": it is not of the expected form"
  | .configuration e => e.message

/-- Whether the configuration itself is at fault, and not the reading of
it. -/
def isConfigurationError : MetadataError → Bool
  | .malformed _ => true
  | .configuration _ => true
  | _ => false

end MetadataError

end AttributeCache

import AttributeCache.Configuration.Error
import AttributeCache.Json.Decode
/-!
# Where the documents are

The locations of the metadata documents and of the persistence descriptors,
in the order they are merged in. Both come from a property that lists them
with blanks between, and neither list may be empty.
-/

namespace AttributeCache

/-- The locations of the documents. -/
structure Sources where
  metadataFiles : List String := []
  persistenceFiles : List String := []
deriving DecidableEq, Repr

namespace Sources

/-- The property that lists the metadata documents. -/
def metadataProperty : String := "metadata_config"

/-- The property that lists the persistence descriptors. -/
def persistenceProperty : String := "persistence_config"

/-- The locations a property lists. -/
def locations (property : String) (value : Option String) :
    Except ConfigurationError (List String) :=
  match Text.words (value.getD "") with
  | [] => .error (.missingProperty property)
  | files => .ok files

/-- The locations the two properties list. -/
def ofProperties (metadata persistence : Option String) : Except ConfigurationError Sources := do
  return {
    metadataFiles := ← locations metadataProperty metadata
    persistenceFiles := ← locations persistenceProperty persistence }

/-! ## JSON form -/

/-- The locations as a record. -/
def json (s : Sources) : Json.Value :=
  .object [("metadata_files", Json.Value.strings s.metadataFiles),
    ("persistence_files", Json.Value.strings s.persistenceFiles)]

/-- The fields read so far. -/
structure Draft where
  metadataFiles : Option (List String) := none
  persistenceFiles : Option (List String) := none

/-- How the locations are read. -/
def record : Json.Record Draft Sources where
  names := ["metadata_files", "persistence_files"]
  strict := false
  field room name :=
    match name with
    | "metadata_files" => some fun t d => do
      let value := t.asList (fun _ t => t.asString) room
      return { d with metadataFiles := ← Json.Record.once d.metadataFiles value }
    | "persistence_files" => some fun t d => do
      let value := t.asList (fun _ t => t.asString) room
      return { d with persistenceFiles := ← Json.Record.once d.persistenceFiles value }
    | _ => none
  blank := {}
  finish d := do
    return ⟨← Json.Record.need d.metadataFiles, ← Json.Record.need d.persistenceFiles⟩

/-- Reads the locations. -/
def ofTree : Nat → Json.Tree → Except Json.Fault Sources :=
  record.read

end Sources

end AttributeCache

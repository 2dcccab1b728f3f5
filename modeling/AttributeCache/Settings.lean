import AttributeCache.Configuration.Sources
import AttributeCache.Log.Threshold
import AttributeCache.Toml.Entries
/-!
# The settings of a node

A node is set up by a TOML file, in which every setting may be missing. A
setting that does not exist, or a value of the wrong kind or out of range,
makes the whole file malformed, so a misspelt name cannot go unnoticed.
-/

namespace AttributeCache

/-- The settings of a node. -/
structure Settings where
  /-- The metadata documents, with blanks between. -/
  metadataConfig : String := "metadata.json"
  /-- The persistence descriptors, with blanks between. -/
  persistenceConfig : String := "persistence.json"
  /-- The documents that declare the attributes. -/
  attributeFiles : List String := ["attributes.json"]
  /-- The directory that all documents are below. -/
  resourceRoot : String := "conf"
  bindAddress : String := "0.0.0.0"
  httpPort : UInt16 := 8080
  /-- Seconds from one scheduled reload to the next; zero for none. -/
  refreshSeconds : UInt64 := 300
  /-- The addresses of the other nodes. -/
  peers : List String := []
  logLevel : LogThreshold := .level .info
deriving DecidableEq, Repr

namespace Settings

/-- The settings as a record. -/
def json (s : Settings) : Json.Value :=
  .object [("metadata_config", .string s.metadataConfig),
    ("persistence_config", .string s.persistenceConfig),
    ("attribute_files", Json.Value.strings s.attributeFiles),
    ("resource_root", .string s.resourceRoot),
    ("bind_address", .string s.bindAddress),
    ("http_port", .number (.ofUInt64 s.httpPort.toUInt64)),
    ("refresh_interval_secs", .number (.ofUInt64 s.refreshSeconds)),
    ("peers", Json.Value.strings s.peers),
    ("log_level", s.logLevel.json)]

/-! ## Reading -/

/-- The integer as a number below a bound. -/
def below? (bound : Nat) (i : Int) : Option Nat :=
  i.toNat?.filter (· < bound)

/-- The settings with one of them given. -/
def put? (s : Settings) : String × Toml.Item → Option Settings
  | ("metadata_config", .text t) => some { s with metadataConfig := t }
  | ("persistence_config", .text t) => some { s with persistenceConfig := t }
  | ("attribute_files", .texts l) => some { s with attributeFiles := l }
  | ("resource_root", .text t) => some { s with resourceRoot := t }
  | ("bind_address", .text t) => some { s with bindAddress := t }
  | ("http_port", .integer i) =>
    (below? UInt16.size i).map fun n => { s with httpPort := UInt16.ofNat n }
  | ("refresh_interval_secs", .integer i) =>
    (below? UInt64.size i).map fun n => { s with refreshSeconds := UInt64.ofNat n }
  | ("peers", .texts l) => some { s with peers := l }
  | ("log_level", .text t) =>
    (LogThreshold.parse t).toOption.map fun threshold => { s with logLevel := threshold }
  | _ => none

/-- The settings a document gives. -/
def parse? (document : String) : Option Settings := do
  (← Toml.entries? document).foldlM put? {}

/-- Why there are no settings. -/
inductive Fault where
  | unreadable (path : String)
  | malformed (path : String)
deriving DecidableEq, Repr

/-- The wording of the fault. -/
def Fault.message : Fault → String
  | .unreadable path => "failed to read config " ++ path ++ ": it is no readable text"
  | .malformed path => "failed to parse config " ++ path ++ ": it is not of the expected form"

/-- The settings of a file, given its bytes if it can be read. Without a
file the settings are the defaults. -/
def load (read : String → Option Text.Bytes) (path : Option String) : Except Fault Settings :=
  match path with
  | none => .ok {}
  | some path =>
    match (read path).bind Text.decode? with
    | none => .error (.unreadable path)
    | some document =>
      match parse? document with
      | none => .error (.malformed path)
      | some s => .ok s

/-! ## What follows from them -/

/-- The locations of the documents. -/
def sources (s : Settings) : Except ConfigurationError Sources :=
  Sources.ofProperties (some s.metadataConfig) (some s.persistenceConfig)

/-- Seconds from one scheduled reload to the next, if there are any. -/
def refreshPeriod (s : Settings) : Option Nat :=
  if s.refreshSeconds = 0 then none else some s.refreshSeconds.toNat

end Settings

end AttributeCache

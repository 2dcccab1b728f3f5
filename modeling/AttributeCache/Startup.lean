import AttributeCache.CommandLine
import AttributeCache.Lifecycle
import AttributeCache.Settings
/-!
# Starting a node from the command line

The settings are read, the log is set up, the documents are loaded for the
first time, and the port is bound. The first of these that fails ends the
program. Nothing is logged before the log is set up, so what is wrong with
the settings shows only as the error the program ends with.
-/

namespace AttributeCache

namespace Startup

/-- Why a node did not start. -/
inductive Failure where
  | settings (f : Settings.Fault)
  | sources (e : ConfigurationError)
  | load (e : CacheError)
  | bind (port : UInt16)
deriving DecidableEq, Repr

namespace Failure

/-- What could not be done. -/
def message : Failure → String
  | .settings f => f.message
  | .sources _ => "Invalid metadata configuration"
  | .load _ => "Initial dynamic attributes load failed"
  | .bind port => "Failed to bind HTTP port " ++ toString port.toNat

/-- Why it could not, where there is more to say. -/
def cause? : Failure → Option String
  | .sources e => some e.message
  | .load e => some e.message
  | .settings _ | .bind _ => none

end Failure

/-- The code a failed start ends with. -/
def failureCode : UInt32 := 1

/-- What a node starts from. -/
structure Surroundings where
  /-- The bytes of a file, if it can be read. -/
  file : String → Option Text.Bytes
  /-- The documents below a directory. -/
  below : String → Resources
  /-- A directive for the log. -/
  directive : Option String
  /-- The name the node gives itself. -/
  id : NodeId

/-- The settings with the options taken in. -/
def settings (s : Surroundings) (o : CommandLine.Options) : Except Settings.Fault Settings := do
  let given ← Settings.load s.file o.config
  return { given with httpPort := o.port.getD given.httpPort }

/-- The log of the node. -/
def log (s : Surroundings) (o : CommandLine.Options) (given : Settings) : LogControl :=
  LogControl.startup (if o.verbose then .level .debug else given.logLevel) s.directive

/-- The node before its first load. -/
def node (s : Surroundings) (o : CommandLine.Options) (given : Settings) (sources : Sources) :
    Node :=
  let configuration : Configuration := ⟨s.below given.resourceRoot, sources⟩
  { id := s.id, attached := true, log := log s o given,
    site := ⟨configuration, .declared given.attributeFiles⟩ }

/-- Whether a host can be listened at. No host has a NUL in its name. -/
def isBindable (host : String) : Bool :=
  !host.toList.contains '\x00'

/-- Starts a node, up to where it would serve. -/
def run (now : UInt64) (s : Surroundings) (o : CommandLine.Options) :
    Except Failure Lifecycle := do
  let given ← (settings s o).mapError .settings
  let sources ← given.sources.mapError .sources
  let period := given.refreshPeriod.map (1000 * ·)
  let l ← (Lifecycle.start now (node s o given sources) period).mapError fun (e, _) => .load e
  if isBindable given.bindAddress then return l else throw (.bind given.httpPort)

/-! ## What is logged -/

/-- Whether the walk gets to read a document: the first it asks for. -/
def readsDocument (c : Configuration) : Bool :=
  c.walk.1.opened.head?.any fun path =>
    (c.resources.document MetadataDocument.ofTree path.text).toBool

/-- The levels a first load logs at: each document read is told at `debug`,
a failure at `warn`, and what was loaded at `info`. -/
def loadLevels (site : Site) : List LogLevel :=
  (if readsDocument site.configuration then [.debug] else []) ++
    [if site.build.toBool then .info else .warn]

/-- The levels of the lines that a start writes, in the order they first
come up. -/
def levels (s : Surroundings) (o : CommandLine.Options) : List LogLevel :=
  match settings s o with
  | .error _ => []
  | .ok given =>
    let written : List LogLevel :=
      match given.sources with
      | .error _ => [.info]
      | .ok sources => .info :: loadLevels (node s o given sources).site
    (written.filter (log s o given).inForce.allows).eraseDups

end Startup

end AttributeCache

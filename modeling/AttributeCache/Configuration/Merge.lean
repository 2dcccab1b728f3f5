import AttributeCache.Configuration.IncludeWalk
import AttributeCache.Configuration.Sources
import AttributeCache.Document.Persistence
import AttributeCache.Namespace
/-!
# Merging the documents

Three views of the configured documents, each a fold over the documents in
the order the include walk visits them in: the namespaces with their member
classes, the root packages alone, and the annotations. The namespaces also
take in the classes of the persistence descriptors, each into the first
namespace that encloses it.
-/

namespace AttributeCache

/-- Documents, and which of them to merge. -/
structure Configuration where
  resources : Resources
  sources : Sources
deriving DecidableEq, Repr

/-- Names with the blanks around them taken off; blank ones do not count. -/
def trimmedNames (names : List String) : List String :=
  (names.map Text.trim).filter (!·.isEmpty)

namespace NamespaceMap

/-- Inserts members one after the other. -/
def insertAll (m : NamespaceMap) (position : Nat) (members : List String) :
    Except ConfigurationError NamespaceMap :=
  members.foldlM (fun m member => m.insert position member) m

/-- Declares the root package of a model and inserts its classes. -/
def addModel (path : String) (m : NamespaceMap) (model : Model) :
    Except ConfigurationError NamespaceMap :=
  let root := Text.trim model.rootPackage
  if root.isEmpty then .error (.blankRootPackage path)
  else
    let (m, position) := m.declare root
    m.insertAll position (trimmedNames model.classes)

/-- Takes in the models of a document. -/
def addDocument (m : NamespaceMap) (entry : NormalPath × MetadataDocument) :
    Except ConfigurationError NamespaceMap :=
  entry.2.models.foldlM (addModel entry.1.text) m

/-- Inserts a persistent class into the namespace that encloses it. -/
def addPersistent (m : NamespaceMap) (member : String) :
    Except ConfigurationError NamespaceMap :=
  match m.enclosing? member with
  | none => .error (.noOwningNamespace member)
  | some position => m.insert position member

end NamespaceMap

namespace Configuration

/-- The walk over the metadata documents. -/
def walk (c : Configuration) : IncludeWalk.Outcome :=
  IncludeWalk.run c.resources c.sources.metadataFiles

/-- What a fold over the visited documents gives, unless the walk failed
behind them. -/
def afterWalk (c : Configuration)
    (fold : List (NormalPath × MetadataDocument) → Except ConfigurationError α) :
    Except MetadataError α :=
  let (progress, failure) := c.walk
  match fold progress.visited, failure with
  | .error e, _ => .error (.configuration e)
  | .ok _, some e => .error e
  | .ok a, none => .ok a

/-- Takes in a persistence descriptor. -/
def addPersistence (c : Configuration) (m : NamespaceMap) (path : String) :
    Except MetadataError NamespaceMap := do
  let document ← c.resources.document PersistenceDocument.ofTree path
  match document.unit with
  | none => throw (.configuration (.missingPersistenceUnit path))
  | some unit =>
    ((trimmedNames unit.classes).foldlM NamespaceMap.addPersistent m).mapError .configuration

/-- The namespaces and their members. -/
def namespaces (c : Configuration) : Except MetadataError NamespaceMap := do
  let m ← c.afterWalk fun visited => visited.foldlM NamespaceMap.addDocument {}
  c.sources.persistenceFiles.foldlM c.addPersistence m

/-- The root packages in the order they are first declared in. Blank ones
are left out. -/
def rootPackages (c : Configuration) : Except MetadataError (List String) :=
  c.afterWalk fun visited =>
    .ok (trimmedNames ((visited.flatMap (·.2.models)).map (·.rootPackage))).eraseDups

/-- The annotations of a document, with the names trimmed. -/
def annotationsOf (document : MetadataDocument) : List ClassAnnotations :=
  document.annotations.map fun c =>
    { c with
      name := Text.trim c.name
      properties := c.properties.map fun p => { p with name := Text.trim p.name } }

/-- The annotations of all documents in order. -/
def annotations (c : Configuration) : Except MetadataError (List ClassAnnotations) :=
  c.afterWalk fun visited => .ok (visited.flatMap fun (_, document) => annotationsOf document)

end Configuration

end AttributeCache

import AttributeCache.Document.Metadata
import AttributeCache.Resources.Basic
import AttributeCache.Resources.NormalPath
/-!
# Walking the includes

The metadata documents are visited depth first, each once and behind the
documents it includes. The walk keeps what it has read and visited also
where it fails, so every view of the documents is a fold over what was
visited, followed by the failure.

The documents being expanded are handed down as a list, outermost first:
meeting one of them again is a cycle, and the list with it is the proof.
-/

namespace AttributeCache

namespace IncludeWalk

/-- What the walk has done so far. -/
structure Progress where
  /-- The documents asked for, in order. -/
  opened : List NormalPath := []
  /-- The documents visited, in order. -/
  visited : List (NormalPath × MetadataDocument) := []
deriving DecidableEq, Repr

/-- Whether a document has been visited. -/
def Progress.isDone (p : Progress) (path : NormalPath) : Bool :=
  p.visited.any (·.1 == path)

/-- Progress, and the failure that ended the walk, if one did. -/
abbrev Outcome := Progress × Option MetadataError

/-- Goes to the targets one after the other, until one fails. -/
def forEach (target? : String → Except MetadataError NormalPath)
    (go : NormalPath → Progress → Outcome) : List String → Progress → Outcome
  | [], p => (p, none)
  | name :: rest, p =>
    match target? name with
    | .error e => (p, some e)
    | .ok target =>
      match go target p with
      | (p, some e) => (p, some e)
      | (p, none) => forEach target? go rest p

/-- What an include in a document leads to. -/
def includeTarget (path : NormalPath) (target : String) : Except MetadataError NormalPath :=
  match path.resolve? target with
  | some target => .ok target
  | none => .error (.configuration (.invalidInclude path.text target))

/-- What a configured location leads to. -/
def configuredTarget (file : String) : Except MetadataError NormalPath :=
  match NormalPath.ofText? file with
  | some target => .ok target
  | none => .error (.configuration (.invalidInclude file file))

/-- Expands a document below the `active` ones. `depth` bounds how many
more may be open at once; the number of documents is enough. -/
def expand (r : Resources) : Nat → List NormalPath → NormalPath → Progress → Outcome
  | 0, _, _, p => (p, none)
  | depth + 1, active, path, p =>
    if active.contains path then
      let chain := (active ++ [path]).map NormalPath.text
      (p, some (.configuration (.cyclicInclude path.text chain)))
    else if p.isDone path then (p, none)
    else
      let p := { p with opened := p.opened ++ [path] }
      match r.document MetadataDocument.ofTree path.text with
      | .error e => (p, some e)
      | .ok document =>
        match forEach (includeTarget path) (expand r depth (active ++ [path]))
          document.targets p with
        | (p, some e) => (p, some e)
        | (p, none) => ({ p with visited := p.visited ++ [(path, document)] }, none)

/-- Walks the configured documents and all they include. -/
def run (r : Resources) (files : List String) : Outcome :=
  forEach configuredTarget (expand r (r.count + 1) []) files {}

end IncludeWalk

end AttributeCache

import AttributeCache.Configuration.Error
import AttributeCache.Json.Decode
import AttributeCache.Resources.FileTree
/-!
# Where documents come from

Documents are read by path, from memory or from below a directory. A slash
in front of a path does not count. In memory a path is a name and nothing
more; below a directory it is followed among the files, and may not hold
`..` at all, so no path leads out of the directory.
-/

namespace AttributeCache

open Text (Bytes)

/-- A store of documents. -/
inductive Resources where
  /-- Documents by name. -/
  | memory (documents : List (String × Bytes))
  /-- The files below a directory of a tree. -/
  | directory (tree : FileTree) (root : String)
deriving DecidableEq, Repr

namespace Resources

/-- The path without the slashes in front. -/
def relative (path : String) : String :=
  String.ofList (path.toList.dropWhile (· == '/'))

/-- The path below a directory. -/
def below (root path : String) : String :=
  if root.isEmpty then path
  else if root.toList.getLast? = some '/' then root ++ path
  else root ++ "/" ++ path

/-- The bytes of a document. -/
def read (r : Resources) (path : String) : Except ReadFault Bytes :=
  match r with
  | .memory documents =>
    match documents.lookup (relative path) with
    | some bytes => .ok bytes
    | none => .error .missing
  | .directory tree root =>
    if (Text.pieces '/' (relative path)).contains ".." then .error .missing
    else tree.read (below root (relative path))

/-- How many documents there are. -/
def count : Resources → Nat
  | .memory documents => documents.length
  | .directory tree _ => tree.files.length

/-- Reads a document into a value. -/
def document (r : Resources) (read : Nat → Json.Tree → Except Json.Fault α) (path : String) :
    Except MetadataError α :=
  match r.read path with
  | .error .missing => .error (.notFound path)
  | .error .unreadable => .error (.unreadable path)
  | .ok bytes =>
    match Json.decodeBytes read bytes with
    | .error _ => .error (.malformed path)
    | .ok value => .ok value

/-! ## Changes -/

/-- The store with a document written or replaced. -/
def write (r : Resources) (path : String) (contents : Bytes) : Resources :=
  match r with
  | .memory documents =>
    .memory ((relative path, contents) :: documents.filter (·.1 != relative path))
  | .directory tree root => .directory (tree.write (below root (relative path)) contents) root

/-- The store without a document. -/
def delete (r : Resources) (path : String) : Resources :=
  match r with
  | .memory documents => .memory (documents.filter (·.1 != relative path))
  | .directory tree root => .directory (tree.delete (below root (relative path))) root

/-- The store with an empty directory, where it has directories. -/
def makeDirectory (r : Resources) (path : String) : Resources :=
  match r with
  | .memory documents => .memory documents
  | .directory tree root => .directory (tree.makeDirectory (below root (relative path))) root

end Resources

end AttributeCache

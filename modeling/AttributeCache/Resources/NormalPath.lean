import AttributeCache.Text.Split
/-!
# Paths in normal form

A path is made of segments with slashes between. In normal form no segment
is empty or `.`, and each `..` has taken away the segment before it; a path
that would climb above its root has no normal form. Documents are told
apart by their normal form, so one document has one name however it is
included.
-/

namespace AttributeCache

/-- A path below the root. -/
structure NormalPath where
  segments : List String
deriving DecidableEq, Repr

namespace NormalPath

/-- Takes in segments, the last one taken standing first. -/
def climb : List String → List String → Option (List String)
  | taken, [] => some taken
  | taken, segment :: rest =>
    if segment = "" ∨ segment = "." then climb taken rest
    else if segment = ".." then
      match taken with
      | [] => none
      | _ :: taken => climb taken rest
    else climb (segment :: taken) rest

/-- The path that segments lead to from a directory. -/
def descend? (directory : List String) (segments : List String) : Option NormalPath :=
  (climb directory.reverse segments).map fun taken => ⟨taken.reverse⟩

/-- The normal form of a text. -/
def ofText? (s : String) : Option NormalPath :=
  descend? [] (Text.pieces '/' s)

/-- The segments with slashes between. -/
def text (p : NormalPath) : String :=
  Text.join "/" p.segments

/-- The directory a document stands in. -/
def directory (p : NormalPath) : List String :=
  p.segments.dropLast

/-- What an include in a document leads to. With a slash in front it starts
at the root, else beside the document. -/
def resolve? (p : NormalPath) (target : String) : Option NormalPath :=
  let segments := Text.pieces '/' target
  if target.toList.head? = some '/' then descend? [] segments
  else descend? p.directory segments

end NormalPath

end AttributeCache

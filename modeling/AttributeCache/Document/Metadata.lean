import AttributeCache.Json.Decode
import AttributeCache.Text.Blank
/-!
# Metadata documents

A metadata document includes others, lists models of a root package and
their classes, and annotates classes and their properties. Every part may
be missing, except the names of what is annotated; a field of another name
is an error.
-/

namespace AttributeCache

/-- Classes below a root package. -/
structure Model where
  rootPackage : String := ""
  classes : List String := []
deriving DecidableEq, Repr

/-- Annotations of a property, by key. -/
structure PropertyAnnotations where
  name : String
  annotations : List (String × String) := []
deriving DecidableEq, Repr

/-- Annotations of a class and of its properties. -/
structure ClassAnnotations where
  name : String
  annotations : List (String × String) := []
  properties : List PropertyAnnotations := []
deriving DecidableEq, Repr

/-- A metadata document. -/
structure MetadataDocument where
  /-- The includes as written. -/
  includes : List String := []
  models : List Model := []
  annotations : List ClassAnnotations := []
deriving DecidableEq, Repr

namespace MetadataDocument

/-- The includes without the blanks around them; one that is blank does not
count. -/
def targets (d : MetadataDocument) : List String :=
  (d.includes.map Text.trim).filter (!·.isEmpty)

/-! ## JSON form -/

/-- A list of strings. -/
def stringsOfTree : Nat → Json.Tree → Except Json.Fault (List String) :=
  Json.Tree.asList fun _ t => t.asString

/-- Strings by key. -/
def annotationsOfTree : Nat → Json.Tree → Except Json.Fault (List (String × String)) :=
  Json.Tree.asMap fun _ t => t.asString

/-- An include: a string, or an object with one field `file`, which is a
string. The entry is read as a value first, so a fault anywhere in it
counts. -/
def includeOfTree (room : Nat) (t : Json.Tree) : Except Json.Fault String := do
  let _ ← t.asValue room
  match t with
  | .text (some file) => return file
  | .object fields =>
    match fields.filter (·.1 == some "file") with
    | [(_, .text (some file))] => return file
    | _ => throw .shape
  | _ => throw .shape

/-- The fields of a model read so far. -/
structure ModelDraft where
  rootPackage : Option String := none
  classes : Option (List String) := none

/-- How a model is read. -/
def modelRecord : Json.Record ModelDraft Model where
  names := ["root_package", "classes"]
  strict := true
  field room name :=
    match name with
    | "root_package" => some fun t d => do
      return { d with rootPackage := ← Json.Record.once d.rootPackage t.asString }
    | "classes" => some fun t d => do
      return { d with classes := ← Json.Record.once d.classes (stringsOfTree room t) }
    | _ => none
  blank := {}
  finish d := return ⟨d.rootPackage.getD "", d.classes.getD []⟩

/-- The fields of a property read so far. -/
structure PropertyDraft where
  name : Option String := none
  annotations : Option (List (String × String)) := none

/-- How the annotations of a property are read. -/
def propertyRecord : Json.Record PropertyDraft PropertyAnnotations where
  names := ["name", "annotations"]
  strict := true
  field room name :=
    match name with
    | "name" => some fun t d => do
      return { d with name := ← Json.Record.once d.name t.asString }
    | "annotations" => some fun t d => do
      return { d with annotations :=
        ← Json.Record.once d.annotations (annotationsOfTree room t) }
    | _ => none
  blank := {}
  finish d := do
    return ⟨← Json.Record.need d.name, d.annotations.getD []⟩

/-- The fields of a class read so far. -/
structure ClassDraft where
  name : Option String := none
  annotations : Option (List (String × String)) := none
  properties : Option (List PropertyAnnotations) := none

/-- How the annotations of a class are read. -/
def classRecord : Json.Record ClassDraft ClassAnnotations where
  names := ["class", "annotations", "properties"]
  strict := true
  field room name :=
    match name with
    | "class" => some fun t d => do
      return { d with name := ← Json.Record.once d.name t.asString }
    | "annotations" => some fun t d => do
      return { d with annotations :=
        ← Json.Record.once d.annotations (annotationsOfTree room t) }
    | "properties" => some fun t d => do
      let value := t.asList propertyRecord.read room
      return { d with properties := ← Json.Record.once d.properties value }
    | _ => none
  blank := {}
  finish d := do
    return ⟨← Json.Record.need d.name, d.annotations.getD [], d.properties.getD []⟩

/-- The fields of a document read so far. -/
structure Draft where
  includes : Option (List String) := none
  models : Option (List Model) := none
  annotations : Option (List ClassAnnotations) := none

/-- How a document is read. -/
def record : Json.Record Draft MetadataDocument where
  names := ["include", "metadata_models", "annotations"]
  strict := true
  field room name :=
    match name with
    | "include" => some fun t d => do
      return { d with includes := ← Json.Record.once d.includes (t.asList includeOfTree room) }
    | "metadata_models" => some fun t d => do
      return { d with models := ← Json.Record.once d.models (t.asList modelRecord.read room) }
    | "annotations" => some fun t d => do
      let value := t.asList classRecord.read room
      return { d with annotations := ← Json.Record.once d.annotations value }
    | _ => none
  blank := {}
  finish d := return ⟨d.includes.getD [], d.models.getD [], d.annotations.getD []⟩

/-- Reads a document. -/
def ofTree : Nat → Json.Tree → Except Json.Fault MetadataDocument :=
  record.read

end MetadataDocument

end AttributeCache

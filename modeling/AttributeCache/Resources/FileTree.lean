import AttributeCache.Text.Split
import AttributeCache.Text.Utf8
/-!
# Directories of files

The files below a directory, and how a path is followed among them. A path
is followed segment by segment: empty segments and `.` stay, `..` goes up,
and each other segment must be a directory unless it is the last. So a path
through a file cannot be read, not even with a slash behind the file, while
one through nothing finds nothing.
-/

namespace AttributeCache

open Text (Bytes)

/-- Why a document could not be had. -/
inductive ReadFault where
  /-- There is none. -/
  | missing
  /-- Something is there, or the path is no path, and it cannot be read. -/
  | unreadable
deriving DecidableEq, Repr

/-- Files and directories by their segments from the top. -/
structure FileTree where
  files : List (List String × Bytes) := []
  directories : List (List String) := []
deriving DecidableEq, Repr

namespace FileTree

/-- How long a segment may be, in bytes. -/
def maxSegment : Nat := 255

/-- How long a path may be, in bytes. -/
def maxPath : Nat := 4095

/-- The contents of a file. -/
def file? (t : FileTree) (segments : List String) : Option Bytes :=
  t.files.lookup segments

/-- Follows segments from a directory. Above the top there is nothing. -/
def follow (t : FileTree) : List String → List String → Except ReadFault Bytes
  | _, [] => .error .unreadable
  | here, segment :: rest =>
    if segment = "" ∨ segment = "." then t.follow here rest
    else if segment = ".." then
      if here = [] then .error .missing else t.follow here.dropLast rest
    else if maxSegment < segment.utf8ByteSize then .error .unreadable
    else
      let next := here ++ [segment]
      match t.file? next with
      | some bytes => if rest = [] then .ok bytes else .error .unreadable
      | none => if t.directories.contains next then t.follow next rest else .error .missing

/-- Reads the file a path leads to. All paths start from the top, so a slash
in front is an empty segment more, and the empty path leads nowhere. -/
def read (t : FileTree) (path : String) : Except ReadFault Bytes :=
  if path.toList.contains '\x00' || maxPath < path.utf8ByteSize then .error .unreadable
  else if path.isEmpty then .error .missing
  else t.follow [] (Text.pieces '/' path)

/-! ## Changes -/

/-- The segments a name is stored under. -/
def segmentsOf (name : String) : List String :=
  (Text.pieces '/' name).filter fun segment => segment != "" && segment != "."

/-- All directories on the way to a place, the top one not counted. -/
def ancestors (segments : List String) : List (List String) :=
  (List.range (segments.length - 1)).map fun n => segments.take (n + 1)

/-- The tree with directories added. -/
def addDirectories (t : FileTree) (directories : List (List String)) : FileTree :=
  { t with directories := t.directories ++ directories.filter (!t.directories.contains ·) }

/-- The tree without a file. -/
def delete (t : FileTree) (name : String) : FileTree :=
  let segments := segmentsOf name
  { t with files := t.files.filter (·.1 != segments) }

/-- The tree with a file written, and the directories it stands in. -/
def write (t : FileTree) (name : String) (contents : Bytes) : FileTree :=
  let segments := segmentsOf name
  let t := (t.delete name).addDirectories (ancestors segments)
  { t with files := t.files ++ [(segments, contents)] }

/-- The tree with an empty directory made. -/
def makeDirectory (t : FileTree) (name : String) : FileTree :=
  let segments := segmentsOf name
  t.addDirectories (ancestors segments ++ [segments])

end FileTree

end AttributeCache

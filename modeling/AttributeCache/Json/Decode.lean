import AttributeCache.Json.Tree
import AttributeCache.Json.Value
/-!
# Values from JSON text

Text is read into a value of some type, or refused with a fault. There are
two kinds: the text is not JSON as far as it had to be read (`grammar`), or
it is JSON of another shape than asked for (`shape`). Of several faults the
first in the text is the one reported, so fields are read in the order of
the text and not in that of the record.

`room` is how many arrays and objects may still be opened; a text may open
127 within each other. A value that nobody asks for is not counted.
-/

namespace AttributeCache.Json

/-- Why a text was refused. -/
inductive Fault where
  | grammar
  | shape
deriving DecidableEq, Repr

/-- How deep arrays and objects may be nested. -/
def maxDepth : Nat := 127

namespace Tree

/-- The fault of finding this where something else was asked for. A number
or string that cannot be had is a fault of its own. -/
def mismatch : Tree → Fault
  | .number none => .grammar
  | .text none => .grammar
  | .broken => .grammar
  | _ => .shape

/-! ## Any value -/

mutual
/-- The value a tree stands for, if it has no fault and opens at most
`room` arrays and objects within each other. -/
def value? (room : Nat) : Tree → Option Value
  | .null => some .null
  | .bool b => some (.bool b)
  | .number n => n.map .number
  | .text s => s.map .string
  | .array items =>
    match room with
    | 0 => none
    | room + 1 => (values? room items).map .array
  | .object fields =>
    match room with
    | 0 => none
    | room + 1 => (fields? room [] fields).map .object
  | .broken => none

/-- The values of the items. -/
def values? (room : Nat) : List Tree → Option (List Value)
  | [] => some []
  | t :: rest =>
    match value? room t with
    | none => none
    | some v => (values? room rest).map (v :: ·)

/-- The fields inserted into those before them: a later one wins. -/
def fields? (room : Nat) (before : List (String × Value)) :
    List (Option String × Tree) → Option (List (String × Value))
  | [] => some before
  | (none, _) :: _ => none
  | (some key, t) :: rest =>
    match value? room t with
    | none => none
    | some v => fields? room (Keyed.insert key v before) rest
end

/-- Any value. -/
def asValue (room : Nat) (t : Tree) : Except Fault Value :=
  match t.value? room with
  | some v => .ok v
  | none => .error .grammar

/-! ## Scalars -/

/-- A string. -/
def asString : Tree → Except Fault String
  | .text (some s) => .ok s
  | t => .error t.mismatch

/-- A truth value. -/
def asBool : Tree → Except Fault Bool
  | .bool b => .ok b
  | t => .error t.mismatch

/-- An integer in a range; a double is none. -/
def asInt (low high : Int) : Tree → Except Fault Int
  | .number (some (.integer i _)) => if low ≤ i ∧ i < high then .ok i else .error .shape
  | t => .error t.mismatch

/-- What `read` makes of the tree, and nothing of `null`. -/
def asOptional (read : Tree → Except Fault α) : Tree → Except Fault (Option α)
  | .null => .ok none
  | t => (read t).map some

/-! ## Lists and maps -/

/-- A list, each item by `read`, which gets the room inside. -/
def asList (read : Nat → Tree → Except Fault α) (room : Nat) : Tree → Except Fault (List α)
  | .array items =>
    match room with
    | 0 => .error .grammar
    | room + 1 => items.mapM (read room)
  | t => .error t.mismatch

/-- The entries inserted into those before them: a later one wins. -/
def entriesInto (read : Tree → Except Fault α) (before : List (String × α)) :
    List (Option String × Tree) → Except Fault (List (String × α))
  | [] => .ok before
  | (none, _) :: _ => .error .grammar
  | (some key, t) :: rest => do
    let v ← read t
    entriesInto read (Keyed.insert key v before) rest

/-- A map from any keys, sorted by key. -/
def asMap (read : Nat → Tree → Except Fault α) (room : Nat) :
    Tree → Except Fault (List (String × α))
  | .object fields =>
    match room with
    | 0 => .error .grammar
    | room + 1 => entriesInto (read room) [] fields
  | t => .error t.mismatch

/-- One of a few names, written as a string, or as an object whose one
field has the name and the value `null`. -/
def asName (named? : String → Option α) (room : Nat) : Tree → Except Fault α
  | .text (some s) =>
    match named? s with
    | some a => .ok a
    | none => .error .shape
  | .object fields =>
    match room, fields with
    | 0, _ => .error .grammar
    | _, [] => .error .shape
    | _, (none, _) :: _ => .error .grammar
    | _, (some key, t) :: rest =>
      match named? key, t, rest with
      | none, _, _ => .error .shape
      | some a, .null, [] => .ok a
      | some _, .null, _ :: _ => .error .grammar
      | some _, t, _ => .error t.mismatch
  | t => .error t.mismatch

end Tree

/-! ## Records -/

/-- How a record is read. `δ` holds the fields read so far. -/
structure Record (δ α : Type) where
  /-- The fields in the order they have in an array. -/
  names : List String
  /-- Whether a field of another name is a fault. -/
  strict : Bool
  /-- Reads the field of a name, other names of a field included. -/
  field : Nat → String → Option (Tree → δ → Except Fault δ)
  /-- No field read. -/
  blank : δ
  /-- The record, if no field is missing. -/
  finish : δ → Except Fault α

namespace Record

/-- A field to be read once: the fault where it was read before, whatever
its value is now. -/
def once (before : Option β) (value : Except Fault β) : Except Fault (Option β) :=
  if before.isSome then .error .shape else value.map some

/-- A field that may not be missing. -/
def need (field : Option β) : Except Fault β :=
  match field with
  | some b => .ok b
  | none => .error .shape

/-- Reads fields in the order of the text. -/
def readFields (r : Record δ α) (room : Nat) :
    List (Option String × Tree) → δ → Except Fault δ
  | [], d => .ok d
  | (none, _) :: _, _ => .error .grammar
  | (some key, t) :: rest, d =>
    match r.field room key with
    | some put => do r.readFields room rest (← put t d)
    | none =>
      if r.strict then .error .shape
      else if t.isWhole then r.readFields room rest d
      else .error .grammar

/-- Reads fields in the order they are declared in. -/
def readItems (r : Record δ α) (room : Nat) :
    List String → List Tree → δ → Except Fault δ
  | _, [], d => .ok d
  | [], _ :: _, _ => .error .grammar
  | name :: names, t :: rest, d =>
    match r.field room name with
    | some put => do r.readItems room names rest (← put t d)
    | none => .error .shape

/-- A record, written as an object or as the array of its fields. -/
def read (r : Record δ α) (room : Nat) : Tree → Except Fault α
  | .object fields =>
    match room with
    | 0 => .error .grammar
    | room + 1 => do r.finish (← r.readFields room fields r.blank)
  | .array items =>
    match room with
    | 0 => .error .grammar
    | room + 1 => do r.finish (← r.readItems room r.names items r.blank)
  | t => .error t.mismatch

end Record

/-! ## Whole texts -/

/-- Reads a whole text: one value, with nothing but blanks around it. -/
def decode (read : Nat → Tree → Except Fault α) (s : Input) : Except Fault α := do
  let (tree, after) := Tree.read s
  let a ← read maxDepth tree
  match after.map skipBlanks with
  | some [] => return a
  | _ => throw .grammar

/-- Reads a text of known characters. -/
def decodeText (read : Nat → Tree → Except Fault α) (s : String) : Except Fault α :=
  decode read (Input.ofText s)

/-- Reads a document from its bytes. -/
def decodeBytes (read : Nat → Tree → Except Fault α) (bytes : Text.Bytes) : Except Fault α :=
  decode read (Text.decode bytes)

end AttributeCache.Json

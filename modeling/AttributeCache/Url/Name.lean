import AttributeCache.Text.Composition
import AttributeCache.Text.Direction
import AttributeCache.Text.Joining
import AttributeCache.Text.Split
import AttributeCache.Url.Name.Mapping
import AttributeCache.Url.Punycode
/-!
# Names

A name is a row of labels with points between. Its common form has each
character mapped and the text composed. A label that is not ASCII is sent
as `xn--` and its Punycode, and a label written so must stand for one that
is not ASCII and in common form. What a reader could be misled by is
refused: a mark at the front of a label, an invisible joiner where nothing
is joined, and letters of both directions where the order of the characters
cannot be told.
-/

namespace AttributeCache.Url

open Text (Direction Joining)

/-! ## Labels -/

/-- What a label in Punycode starts with. -/
def punycodeMark : List Char := "xn--".toList

/-- Whether all characters are ASCII. -/
def isAscii (s : List Char) : Bool :=
  s.all (·.toNat < 0x80)

/-- Whether a letter that is joined stands next, transparent characters
apart. -/
def meetsJoined (side : Joining) (s : List Char) : Bool :=
  match s.dropWhile (Text.joining · == .transparent) with
  | c :: _ => Text.joining c == side || Text.joining c == .both
  | [] => false

/-- Whether each joiner has something to join, or to keep apart: it stands
behind a virama, or, if it keeps letters apart, between two that would be
joined. `before` is what stands in front, the nearest first. -/
def joinersFit (before : List Char) : List Char → Bool
  | [] => true
  | c :: rest =>
    let fits :=
      if c.toNat = 0x200C ∨ c.toNat = 0x200D then
        before.head?.any (Text.markClass · == Text.viramaClass) ||
          (c.toNat == 0x200C && meetsJoined .behind before && meetsJoined .before rest)
      else true
    fits && joinersFit (c :: before) rest

/-- The most characters of a label that is not ASCII. -/
def maxLabel : Nat := 1000

/-- The most characters of Punycode in a label. -/
def maxPunycode : Nat := 2000

/-- Whether a label that is not ASCII may stand in a name. -/
def isLabel (label : List Char) : Bool :=
  !label.head?.any Text.isMark && joinersFit [] label && label.length ≤ maxLabel

/-- The label that Punycode stands for. It is not ASCII, and in common form. -/
def ofPunycode? (s : List Char) : Option (List Char) := do
  if s.getLast? = some '-' ∨ maxPunycode < s.length then none
  let label ← Punycode.decode? s
  if !isAscii label && label.all (fun c => mapCharacter? c == some [c]) &&
      Text.compose label == label then
    some label
  else none

/-- The label as it reads, from the common form of what was written. -/
def label? (s : List Char) : Option (List Char) := do
  let label ← if punycodeMark.isPrefixOf s then ofPunycode? (s.drop 4) else some s
  if isAscii label || isLabel label then some label else none

/-- The label as it is sent. -/
def labelText (label : List Char) : List Char :=
  if isAscii label then label else punycodeMark ++ Punycode.encode label

/-! ## Direction -/

/-- Whether a name has characters written from right to left. -/
def hasRight (name : List Char) : Bool :=
  name.any fun c => Text.direction c == .right || Text.direction c == .arabicNumber

/-- Whether the order of a label's characters can be told among labels of
the other direction. A label keeps to the direction of its first letter and
ends in that direction or in a number, marks apart. -/
def keepsDirection (label : List Char) : Bool :=
  let directions := label.map Text.direction
  let last := (directions.reverse.dropWhile (· == .mark)).head?
  match directions with
  | [] => true
  | .left :: _ =>
    directions.all (fun d => d != .right && d != .arabicNumber) &&
      last.any (fun d => d == .left || d == .europeanNumber)
  | .right :: _ =>
    directions.all (· != .left) &&
      !(directions.contains .europeanNumber && directions.contains .arabicNumber) &&
      last.any (fun d => d == .right || d == .europeanNumber || d == .arabicNumber)
  | _ => false

/-! ## Whole names -/

/-- The labels of a name, as they read. -/
def labels? (name : List Char) : Option (List (List Char)) := do
  let mapped ← name.mapM mapCharacter?
  let labels ← (Text.splitWhere (· == '.') (Text.compose mapped.flatten)).mapM label?
  if labels.any hasRight && !labels.all keepsDirection then none else some labels

/-- The name as it is sent. -/
def nameText? (name : List Char) : Option (List Char) :=
  (labels? name).map fun labels => ['.'].intercalate (labels.map labelText)

end AttributeCache.Url

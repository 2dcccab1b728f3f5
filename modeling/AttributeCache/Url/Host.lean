import AttributeCache.Text.Percent
import AttributeCache.Text.Split
import AttributeCache.Url.Name
/-!
# Hosts

The host in an address is a name, an address of four bytes, or in brackets
an address of eight groups. Names are brought to their common form. A name
whose last label is a number is an address of four bytes or nothing: it may
have fewer parts, of which the last then fills the remaining bytes, and
parts may be octal or hexadecimal.
-/

namespace AttributeCache.Url

/-! ## Four bytes -/

/-- The number a part writes: hexadecimal behind `0x`, octal behind another
zero in front, else decimal. -/
def part? : List Char → Option Nat
  | [] => none
  | '0' :: 'x' :: digits => Text.readInBase? 16 digits
  | '0' :: 'X' :: digits => Text.readInBase? 16 digits
  | '0' :: d :: digits => Text.readInBase? 8 (d :: digits)
  | digits => Text.readInBase? 10 digits

/-- The parts with a point between; a point behind the last does not count. -/
def parts (s : List Char) : List (List Char) :=
  let pieces := Text.splitWhere (· == '.') s
  if 1 < pieces.length ∧ pieces.getLast? = some [] then pieces.dropLast else pieces

/-- Whether a name is to be read as an address of four bytes. -/
def endsInNumber (s : List Char) : Bool :=
  (parts s).getLast?.any fun label =>
    (!label.isEmpty && label.all Char.isDigit) || (part? label).isSome

/-- The address of four bytes, as one number. -/
def fourBytes? (s : List Char) : Option Nat := do
  let numbers ← (parts s).mapM part?
  let last ← numbers.getLast?
  let before := numbers.dropLast
  let room := Nat.pow 256 (4 - before.length)
  if before.length < 4 ∧ before.all (· < 256) ∧ last < room then
    return before.foldl (fun n byte => 256 * n + byte) 0 * room + last
  else none

/-- The address with a point between the bytes. -/
def fourBytesText (n : Nat) : String :=
  Text.join "." ([n >>> 24, n >>> 16 % 256, n >>> 8 % 256, n % 256].map toString)

/-! ## Eight groups -/

/-- A group of up to four hexadecimal digits. -/
def group? (s : List Char) : Option Nat :=
  if s.isEmpty || 4 < s.length then none else Text.readHex? s

/-- A byte in decimal, without a zero in front of other digits. -/
def byte? (s : List Char) : Option Nat :=
  if 1 < s.length ∧ s.head? = some '0' then none
  else (Text.readDigits? s).filter (· < 256)

/-- The last two groups, written as four bytes. -/
def twoGroups? (s : List Char) : Option (List Nat) := do
  match ← (Text.splitWhere (· == '.') s).mapM byte? with
  | [a, b, c, d] => return [256 * a + b, 256 * c + d]
  | _ => none

/-- Groups with a colon between. -/
def groups? (isEnd : Bool) (s : List Char) : Option (List Nat) :=
  if s.isEmpty then some []
  else
    let pieces := Text.splitWhere (· == ':') s
    match pieces.getLast? with
    | some last =>
      if isEnd && last.contains '.' then do
        return (← pieces.dropLast.mapM group?) ++ (← twoGroups? last)
      else pieces.mapM group?
    | none => none

/-- What stands before and after the first two colons in a row. -/
def cutGap : List Char → Option (List Char × List Char)
  | [] => none
  | ':' :: ':' :: rest => some ([], rest)
  | c :: rest => (cutGap rest).map fun (before, after) => (c :: before, after)

/-- The eight groups. Two colons stand for one or more groups of zero. -/
def eightGroups? (s : List Char) : Option (List Nat) :=
  match cutGap s with
  | none => (groups? true s).filter (·.length = 8)
  | some (before, after) => do
    let before ← groups? false before
    let after ← groups? true after
    let missing := 8 - (before.length + after.length)
    if missing = 0 then none else return before ++ List.replicate missing 0 ++ after

/-- The number of zeros a list starts with. -/
def leadingZeros (groups : List Nat) : Nat :=
  (groups.takeWhile (· = 0)).length

/-- Where the first of the longest rows of zeros starts, and its length. -/
def longestZeros (groups : List Nat) : Nat × Nat :=
  ((List.range groups.length).map fun i => (i, leadingZeros (groups.drop i))).foldl
    (fun best row => if best.2 < row.2 then row else best) (0, 0)

/-- Groups in lower case, without zeros in front. -/
def groupsText (groups : List Nat) : String :=
  Text.join ":" (groups.map fun group => String.ofList (Nat.toDigits 16 group))

/-- The groups with the longest row of two or more zeros left out. -/
def eightGroupsText (groups : List Nat) : String :=
  let (start, length) := longestZeros groups
  if length < 2 then groupsText groups
  else groupsText (groups.take start) ++ "::" ++ groupsText (groups.drop (start + length))

/-! ## Names -/

/-- The characters no name may hold: control characters, blanks, and those
that have a meaning in an address. -/
def isForbidden (c : Char) : Bool :=
  c.toNat ≤ 0x20 || 0x7F ≤ c.toNat || "\"#%/:<>?@[\\]^\x60\x7b|\x7d".toList.contains c

/-- The name in its common form. -/
def name? (s : List Char) : Option String := do
  let name ← nameText? (Text.decodeLossy (Text.percentDecode s)).toList
  if name.isEmpty || name.any isForbidden then none
  else if endsInNumber name then (fourBytes? name).map fourBytesText
  else some (String.ofList name)

/-- The host in its common form. -/
def host? (s : List Char) : Option String :=
  match s with
  | '[' :: rest =>
    if rest.getLast? = some ']' then
      (eightGroups? rest.dropLast).map fun groups => "[" ++ eightGroupsText groups ++ "]"
    else none
  | _ => name? s

end AttributeCache.Url

import AttributeCache.Text.Decimal
import AttributeCache.Text.Split
/-!
# Node identities

A node is named by 128 bits, written as hexadecimal digits in groups of 8,
4, 4, 4 and 12. Reading also takes the digits without hyphens, and the
hyphenated form in braces or behind `urn:uuid:`.
-/

namespace AttributeCache

/-- Names one node of a cluster, so it can tell its own messages. -/
structure NodeId where
  bits : BitVec 128
deriving DecidableEq, Repr

namespace NodeId

/-- The lengths of the groups. -/
def groups : List Nat := [8, 4, 4, 4, 12]

/-- The digits cut into groups. -/
def group : List Nat → List Char → List (List Char)
  | [], _ => []
  | n :: rest, digits => digits.take n :: group rest (digits.drop n)

/-- The hyphenated form, in lower case. -/
def text (node : NodeId) : String :=
  Text.join "-" ((group groups (Text.hexDigits 32 node.bits.toNat)).map String.ofList)

instance : ToString NodeId := ⟨text⟩

/-- Reads 32 digits. -/
def ofDigits? (s : List Char) : Option NodeId :=
  if s.length = 32 then (Text.readHex? s).map fun n => ⟨BitVec.ofNat 128 n⟩ else none

/-- Reads the hyphenated form. -/
def ofGroups? (s : List Char) : Option NodeId :=
  let parts := Text.splitWhere (· == '-') s
  if parts.map List.length = groups then ofDigits? parts.flatten else none

/-- The text in front of the hyphenated form in a uniform resource name. -/
def urn : List Char := "urn:uuid:".toList

/-- Reads any of the forms. The length tells which. -/
def read? (s : List Char) : Option NodeId :=
  if s.length = 32 then ofDigits? s
  else if s.length = 36 then ofGroups? s
  else if s.length = 38 then
    match s with
    | '\x7b' :: rest => if rest.getLast? = some '\x7d' then ofGroups? rest.dropLast else none
    | _ => none
  else if s.length = 45 ∧ (s.take 9).map Char.toLower = urn then ofGroups? (s.drop 9)
  else none

/-- Reads a node's name. -/
def parse? (s : String) : Option NodeId :=
  read? s.toList

/-! ## Fresh names -/

/-- A name that sorts by the moment it was made at: 48 bits of
milliseconds, version 7, and 74 random bits around the variant. -/
def ofMoment (millis : BitVec 48) (random : BitVec 12 × BitVec 62) : NodeId :=
  ⟨millis ++ 7#4 ++ random.1 ++ 2#2 ++ random.2⟩

/-- The version digit. -/
def version (node : NodeId) : Nat :=
  (node.bits.extractLsb' 76 4).toNat

end NodeId

end AttributeCache

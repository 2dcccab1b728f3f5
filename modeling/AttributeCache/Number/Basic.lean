import AttributeCache.Number.Double
/-!
# Numbers

A number is an integer of 64 bits, signed or unsigned, or a double.
Integers and doubles are compared as the numbers they are, and never by
rounding one to the other, so the order stays transitive beyond `2 ^ 53`.
-/

namespace AttributeCache

/-- Whether 64 bits hold an integer, with a sign or without. -/
abbrev Number.InRange (i : Int) : Prop :=
  -0x8000000000000000 ≤ i ∧ i < 0x10000000000000000

/-- A number as JSON values hold it. -/
inductive Number where
  | integer (i : Int) (inRange : Number.InRange i)
  | double (d : Double)
deriving DecidableEq, Repr

namespace Number

/-- The integer, if 64 bits hold it. -/
def ofInt? (i : Int) : Option Number :=
  if h : InRange i then some (.integer i h) else none

/-- An unsigned word of 64 bits. -/
def ofUInt64 (n : UInt64) : Number :=
  .integer n.toNat (by have := n.toNat_lt; omega)

/-- An unsigned word of 32 bits. -/
def ofUInt32 (n : UInt32) : Number :=
  .integer n.toNat (by have := n.toNat_lt; omega)

/-- A signed word of 32 bits. -/
def ofInt32 (n : Int32) : Number :=
  .integer n.toInt (by have := n.toInt_lt; have := n.le_toInt; omega)

/-- The number with the two zeros made one. -/
def unsignedZero : Number → Number
  | .double d => .double (if d.significand = 0 then d.withSign false else d)
  | n => n

/-! ## Order -/

/-- The signed word of 128 bits nearest to an integer. -/
def saturate (i : Int) : Int :=
  max (-0x80000000000000000000000000000000) (min i 0x7fffffffffffffffffffffffffffffff)

/-- An integer and a double: the whole part of the double decides, and where
that is the integer, what is behind the point. -/
def compareInteger (i : Int) (d : Double) : Ordering :=
  (Ord.compare i (saturate d.whole)).then (Ord.compare 0 d.fractionUnits)

/-- Two integers are compared as they are, two doubles as multiples of the
unit they share, and of an integer and a double neither is rounded. -/
def compare : Number → Number → Ordering
  | .integer a _, .integer b _ => Ord.compare a b
  | .double a, .double b => Ord.compare a.units b.units
  | .integer a _, .double b => compareInteger a b
  | .double a, .integer b _ => (compareInteger b a).swap

end Number

end AttributeCache

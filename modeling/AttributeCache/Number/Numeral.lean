import AttributeCache.Number.Basic
import AttributeCache.Text.Decimal
/-!
# Numerals

A numeral is the decimal text of a number, taken apart. An integer numeral
that 64 bits hold is that integer; `-0` is the negative zero. Every other
numeral is a double, computed from at most the digits that fit an unsigned
64-bit significand and one multiplication or division by a power of ten,
each rounded. So a numeral of many digits may come out one unit beside the
nearest double.
-/

namespace AttributeCache

/-- The parts of a numeral. -/
structure Numeral where
  negative : Bool
  /-- The digits before the point. -/
  whole : List Char
  /-- The digits after the point, if there is one. -/
  fraction : Option (List Char)
  /-- Whether the exponent is negative, and its digits. -/
  exponent : Option (Bool × List Char)
deriving DecidableEq, Repr

namespace Numeral

/-- A significand and the power of ten it is multiplied by. -/
structure Scaled where
  significand : Nat
  exponent : Int
deriving DecidableEq, Repr

/-- The significand with a digit put behind it, while 64 bits hold it. -/
def Scaled.push? (s : Scaled) (digit : Char) : Option Nat :=
  let n := 10 * s.significand + (digit.toNat - '0'.toNat)
  if n < UInt64.size then some n else none

/-- Takes in the digits before the point. From the first that does not fit
on, each digit counts as a power of ten. -/
def Scaled.pushWhole (s : Scaled) : List Char → Scaled
  | [] => s
  | digit :: rest =>
    match s.push? digit with
    | some n => pushWhole ⟨n, s.exponent⟩ rest
    | none => ⟨s.significand, s.exponent + (rest.length + 1)⟩

/-- Takes in the digits after the point. From the first that does not fit
on, they are left out. -/
def Scaled.pushFraction (s : Scaled) : List Char → Scaled
  | [] => s
  | digit :: rest =>
    match s.push? digit with
    | some n => pushFraction ⟨n, s.exponent - 1⟩ rest
    | none => s

/-- The significand and power of ten a numeral is computed from. -/
def scaled (n : Numeral) : Scaled :=
  let s := (Scaled.mk 0 0).pushWhole n.whole
  let s := s.pushFraction (n.fraction.getD [])
  match n.exponent with
  | none => s
  | some (negative, digits) =>
    let e : Int := Text.digitsValue digits
    ⟨s.significand, if negative then s.exponent - e else s.exponent + e⟩

/-- The magnitude. A power of ten below `10 ^ -308` is divided by in two
steps; one above `10 ^ 308` is out of range. -/
def Scaled.magnitude? (s : Scaled) : Option Double :=
  if s.significand = 0 then some (Double.zero false)
  else do
    let f ← Double.ofRatio? false s.significand 1
    if 0 ≤ s.exponent then
      if 308 < s.exponent then none
      else f.mul? (← Double.tenPower? s.exponent.toNat)
    else
      let k := (-s.exponent).toNat
      if k ≤ 308 then f.div? (← Double.tenPower? k)
      else
        let most ← Double.tenPower? 308
        let f ← f.div? most
        f.div? (← Double.tenPower? (min (k - 308) 308))

/-- The double a numeral is read as. -/
def double? (n : Numeral) : Option Double :=
  n.scaled.magnitude?.map (Double.withSign n.negative)

/-- The number a numeral is read as; `none` where it is out of range. -/
def value? (n : Numeral) : Option Number :=
  match n.fraction, n.exponent with
  | none, none =>
    let i := Text.digitsValue n.whole
    if n.negative then
      if i ≠ 0 ∧ i ≤ 0x8000000000000000 then Number.ofInt? (-i)
      else n.double?.map .double
    else
      match Number.ofInt? i with
      | some v => some v
      | none => n.double?.map .double
  | _, _ => n.double?.map .double

end Numeral

end AttributeCache

/-!
# Doubles as exact numbers

A double is a sign, a significand and an exponent of two: finite, in
canonical form, with two zeros. Arithmetic is done on fractions of natural
numbers and rounded once, to the nearest double, a half going to the even
significand. There is no infinity: what would round to one is `none`.
-/

namespace AttributeCache

/-- What the top one of 53 bits counts. -/
abbrev Double.topBit : Nat := 0x10000000000000

/-- The significands and exponents a double may have: 53 bits, and the top
one set unless the exponent is the least. -/
def Double.Canonical (significand : Nat) (exponent : Int) : Prop :=
  significand < 2 * Double.topBit ∧ -1074 ≤ exponent ∧ exponent ≤ 971 ∧
    (Double.topBit ≤ significand ∨ exponent = -1074)

instance (m : Nat) (e : Int) : Decidable (Double.Canonical m e) := by
  unfold Double.Canonical; infer_instance

/-- The finite double `± significand · 2 ^ exponent`. -/
structure Double where
  negative : Bool
  significand : Nat
  exponent : Int
  canonical : Double.Canonical significand exponent
deriving DecidableEq, Repr

namespace Double

/-- The double with these parts, if they are canonical. -/
def ofParts? (negative : Bool) (significand : Nat) (exponent : Int) : Option Double :=
  if h : Canonical significand exponent then some ⟨negative, significand, exponent, h⟩ else none

/-- The zero of a sign. -/
def zero (negative : Bool) : Double :=
  ⟨negative, 0, -1074, by decide⟩

instance : Inhabited Double := ⟨zero false⟩

/-- The same magnitude with a sign. -/
def withSign (negative : Bool) (d : Double) : Double :=
  { d with negative }

/-- Every double is a whole multiple of `2 ^ -1074`; this is which one. -/
def units (d : Double) : Int :=
  let magnitude : Int := (d.significand <<< (d.exponent + 1074).toNat : Nat)
  if d.negative then -magnitude else magnitude

/-- How many of these units are one. -/
def unitsPerOne : Nat := 1 <<< 1074

/-- The whole part; what is behind the point is dropped. -/
def whole (d : Double) : Int :=
  d.units.tdiv unitsPerOne

/-- What the whole part leaves, in units. -/
def fractionUnits (d : Double) : Int :=
  d.units.tmod unitsPerOne

/-! ## Rounding -/

/-- The whole number nearest to `num / den`; a half goes to the even one. -/
def roundHalfEven (num den : Nat) : Nat :=
  let q := num / den
  match compare (2 * (num % den)) den with
  | .lt => q
  | .gt => q + 1
  | .eq => if q % 2 = 0 then q else q + 1

/-- Numerator and denominator of `num / den / 2 ^ exponent`. -/
def scale (num den : Nat) (exponent : Int) : Nat × Nat :=
  (num <<< (-exponent).toNat, den <<< exponent.toNat)

/-- The exponent at which `num / den` has a significand of 53 bits, or the
least exponent. -/
def exponentFor (num den : Nat) : Int :=
  let guess : Int := (Nat.log2 num : Int) - Nat.log2 den - 52
  let (n, d) := scale num den guess
  max (if n / d < topBit then guess - 1 else guess) (-1074)

/-- The double nearest to `num / den`; `none` where that is infinite. -/
def ofRatio? (negative : Bool) (num den : Nat) : Option Double :=
  if num = 0 then some (zero negative)
  else
    let exponent := exponentFor num den
    let (n, d) := scale num den exponent
    let significand := roundHalfEven n d
    if significand = 2 * topBit then ofParts? negative topBit (exponent + 1)
    else ofParts? negative significand exponent

/-- The magnitude as a fraction. -/
def ratio (d : Double) : Nat × Nat :=
  (d.significand <<< d.exponent.toNat, 1 <<< (-d.exponent).toNat)

/-- The product of the magnitudes, rounded. -/
def mul? (a b : Double) : Option Double :=
  ofRatio? false (a.ratio.1 * b.ratio.1) (a.ratio.2 * b.ratio.2)

/-- The quotient of the magnitudes, rounded; `b` is not zero. -/
def div? (a b : Double) : Option Double :=
  ofRatio? false (a.ratio.1 * b.ratio.2) (a.ratio.2 * b.ratio.1)

/-- The double nearest to `10 ^ n`. -/
def tenPower? (n : Nat) : Option Double :=
  ofRatio? false (Nat.pow 10 n) 1

end Double

end AttributeCache

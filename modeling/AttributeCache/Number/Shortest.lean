import AttributeCache.Number.Basic
/-!
# Shortest decimals

A double is written with the fewest digits that lie nearer to it than to
any other double, and of those with the nearest; a tie goes to the even
last digit. The digits are found on exact integers: the largest power of
ten a multiple of which lies in the interval that rounds to the double.
An end of that interval counts exactly when the significand is even.
-/

namespace AttributeCache

/-- The decimal `digits · 10 ^ exponent`. -/
structure Decimal where
  digits : Nat
  exponent : Int
deriving DecidableEq, Repr

namespace Double

/-- The interval that rounds to a double, in quarters of its last place:
below a power of two the neighbours lie closer. -/
structure Interval where
  low : Nat
  value : Nat
  high : Nat
  /-- Whether the ends belong to it. -/
  closed : Bool

/-- The interval that rounds to `d`. -/
def interval (d : Double) : Interval :=
  let value := 4 * d.significand
  let narrow := d.significand = topBit ∧ d.exponent ≠ -1074
  ⟨if narrow then value - 1 else value - 2, value, value + 2, d.significand % 2 = 0⟩

/-- Whether `x` units of `a` lie in the interval, its own unit being `b`. -/
def Interval.contains (i : Interval) (a b x : Nat) : Bool :=
  if i.closed then i.low * b ≤ x * a && x * a ≤ i.high * b
  else i.low * b < x * a && x * a < i.high * b

/-- The multiple of `10 ^ k` to write for `d`, if there is one in its
interval. Only the two neighbours of `d` can be the nearest. -/
def multiple? (d : Double) (k : Int) : Option Nat :=
  let i := d.interval
  let e := d.exponent - 2
  let a := Nat.pow 10 k.toNat <<< (-e).toNat
  let b := Nat.pow 10 (-k).toNat <<< e.toNat
  let below := i.value * b / a
  match i.contains a b below, i.contains a b (below + 1) with
  | true, false => some below
  | false, true => some (below + 1)
  | false, false => none
  | true, true =>
    match compare (2 * (i.value * b)) ((2 * below + 1) * a) with
    | .lt => some below
    | .gt => some (below + 1)
    | .eq => some (if below % 2 = 0 then below else below + 1)

/-- The first power of ten with a multiple to write, going down from `k`. -/
def shortestFrom (d : Double) : Nat → Int → Decimal
  | 0, k => ⟨0, k⟩
  | steps + 1, k =>
    match d.multiple? k with
    | some digits => ⟨digits, k⟩
    | none => d.shortestFrom steps (k - 1)

/-- The shortest decimal of a magnitude that is not zero. It has at most
17 digits, so a few powers of ten below the magnitude end the search. -/
def shortest (d : Double) : Decimal :=
  let bits : Int := (Nat.log2 d.significand : Int) + d.exponent + 2
  d.shortestFrom 24 (bits * 30103 / 100000 + 1)

/-! ## Layout -/

/-- Positional notation, with a digit on both sides of the point, where the
point stands within the first sixteen digits or at most four zeros in
front; else one digit before the point and a signed exponent. -/
def layout (digits : List Char) (exponent : Int) : List Char :=
  let point : Int := digits.length + exponent
  if 0 ≤ exponent ∧ point ≤ 16 then
    digits ++ List.replicate exponent.toNat '0' ++ ['.', '0']
  else if 0 < point ∧ point ≤ 16 then
    digits.take point.toNat ++ '.' :: digits.drop point.toNat
  else if -5 < point ∧ point ≤ 0 then
    '0' :: '.' :: List.replicate (-point).toNat '0' ++ digits
  else
    let mark := point - 1
    let sign := if mark < 0 then '-' else '+'
    let tail := if digits.length ≤ 1 then [] else '.' :: digits.drop 1
    digits.take 1 ++ tail ++ 'e' :: sign :: (toString mark.natAbs).toList

/-- The text of a double. -/
def chars (d : Double) : List Char :=
  let sign := if d.negative then ['-'] else []
  if d.significand = 0 then sign ++ ['0', '.', '0']
  else
    let s := d.shortest
    sign ++ layout (toString s.digits).toList s.exponent

end Double

/-- The text of a number. -/
def Number.chars : Number → List Char
  | .integer i _ => (toString i).toList
  | .double d => d.chars

end AttributeCache

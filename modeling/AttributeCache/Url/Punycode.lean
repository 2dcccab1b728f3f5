import AttributeCache.Text.Decimal
/-!
# Punycode

Punycode writes a label in ASCII. The ASCII characters come first, then a
hyphen if there are any, then one number for each other character, in the
order of code points and from left to right among equal ones. A number says
how many pairs of a code point and a place lie between one character put in
and the next. It is written in digits whose weights depend on a bias, which
follows the numbers written so far, so that numbers of the usual size stay
short. Reading keeps what the digits so far say as a state (`Decoding`) and
takes one digit at a time.
-/

namespace AttributeCache.Url.Punycode

/-! ## Digits -/

/-- The number of digits: 26 letters, and ten digits behind them. -/
def base : Nat := 36

/-- The digit for a value. -/
def digitChar (value : Nat) : Char :=
  if value < 26 then Char.ofNat ('a'.toNat + value) else Char.ofNat ('0'.toNat + (value - 26))

/-- The value of a digit. -/
def digit? (c : Char) : Option Nat :=
  let c := c.toLower
  if 'a' ≤ c && c ≤ 'z' then some (c.toNat - 'a'.toNat)
  else if c.isDigit then some (c.toNat - '0'.toNat + 26)
  else none

/-- The value below which the digit at a place, counted from one, is the
last of its number. -/
def threshold (bias place : Nat) : Nat :=
  max 1 (min 26 (base * place - bias))

/-- The bias at the start. -/
def firstBias : Nat := 72

/-- Code points below this are written as they are. -/
def firstPoint : Nat := 0x80

/-- The bias a scaled number calls for: one base for each digit it would
take, and a part of one for what is left. -/
def biasOf (number : Nat) : Nat :=
  if (base - 1) * 26 / 2 < number then base + biasOf (number / (base - 1))
  else base * number / (number + 38)
termination_by number
decreasing_by exact Nat.div_lt_self (by omega) (by decide)

/-- The bias behind a number, `length` being the length of the text with the
character it puts in. The first number is by far the largest. -/
def nextBias (isFirst : Bool) (number length : Nat) : Nat :=
  let scaled := if isFirst then number / 700 else number / 2
  biasOf (scaled + scaled / length)

/-! ## Writing -/

/-- A threshold is never zero, so each digit takes something off a number. -/
theorem threshold_pos (bias place : Nat) : 0 < threshold bias place :=
  Nat.le_max_left ..

/-- The digits of a number from a place on. -/
def numberText (bias place number : Nat) : List Char :=
  let t := threshold bias place
  if number < t then [digitChar number]
  else
    digitChar (t + (number - t) % (base - t)) ::
      numberText bias (place + 1) ((number - t) / (base - t))
termination_by number
decreasing_by
  have := threshold_pos bias place
  exact Nat.lt_of_le_of_lt (Nat.div_le_self ..) (by omega)

/-- The numbers written so far, how many characters they and the ASCII ones
make, and the pairs passed since the last. -/
structure Encoding where
  digits : List Char := []
  bias : Nat := firstBias
  isFirst : Bool := true
  length : Nat
  passed : Nat := 0

/-- Passes one character of the text at the turn of a code point. -/
def Encoding.pass (point : Nat) (e : Encoding) (c : Char) : Encoding :=
  if c.toNat < point then { e with passed := e.passed + 1 }
  else if c.toNat = point then
    { digits := e.digits ++ numberText e.bias 1 e.passed
      bias := nextBias e.isFirst e.passed (e.length + 1)
      isFirst := false
      length := e.length + 1
      passed := 0 }
  else e

/-- Writes the characters whose code points are listed, `next` being the
first code point not passed yet. -/
def encodeFrom (text : List Char) (e : Encoding) (next : Nat) : List Nat → List Char
  | [] => e.digits
  | point :: points =>
    let e := { e with passed := e.passed + (point - next) * (e.length + 1) }
    let e := text.foldl (Encoding.pass point) e
    encodeFrom text { e with passed := e.passed + 1 } (point + 1) points

/-- The text in ASCII. -/
def encode (text : List Char) : List Char :=
  let plain := text.filter (·.toNat < firstPoint)
  let points := ((text.map Char.toNat).filter (firstPoint ≤ ·)).mergeSort.eraseDups
  plain ++ (if plain.isEmpty then [] else ['-']) ++
    encodeFrom text { length := plain.length } firstPoint points

/-! ## Reading -/

/-- The text so far, the code point and the place reached, and of the number
being read its sum so far, the weight and the place of the next digit. -/
structure Decoding where
  text : List Char
  point : Nat := firstPoint
  place : Nat := 0
  bias : Nat := firstBias
  sum : Nat := 0
  weight : Nat := 1
  digitPlace : Nat := 1

/-- Puts in the character that a number stands for. -/
def Decoding.putIn? (d : Decoding) (number : Nat) : Option Decoding :=
  let length := d.text.length + 1
  let reached := d.place + number
  let point := d.point + reached / length
  let place := reached % length
  if point.isValidChar then
    some
      { text := d.text.take place ++ Char.ofNat point :: d.text.drop place
        point := point
        place := place + 1
        bias := nextBias (d.place == 0) number length }
  else none

/-- Takes one digit. Sums and weights stay below 32 bits. -/
def Decoding.take? (d : Decoding) (c : Char) : Option Decoding := do
  let digit ← digit? c
  let sum := d.sum + digit * d.weight
  let t := threshold d.bias d.digitPlace
  let weight := d.weight * (base - t)
  if UInt32.size ≤ d.place + sum then none
  else if digit < t then d.putIn? sum
  else if UInt32.size ≤ weight then none
  else some { d with sum := sum, weight := weight, digitPlace := d.digitPlace + 1 }

/-- What stands before the last hyphen, if that is anything, and behind it. -/
def cutPlain (s : List Char) : List Char × List Char :=
  let digits := (s.reverse.takeWhile (· != '-')).reverse
  let plain := s.take (s.length - digits.length)
  if plain.length ≤ 1 then ([], s) else (plain.dropLast, digits)

/-- The text that a text in ASCII stands for. -/
def decode? (s : List Char) : Option (List Char) := do
  let (plain, digits) := cutPlain s
  let d ← digits.foldlM Decoding.take? { text := plain }
  if d.digitPlace = 1 then some d.text else none

end AttributeCache.Url.Punycode

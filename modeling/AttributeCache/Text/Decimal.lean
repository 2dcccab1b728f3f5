/-!
# Numbers in text

An unsigned decimal is one or more ASCII digits, leading zeros included;
where a `+` may stand in front of it, it changes nothing. A number is
written with core's `toString`, which writes no leading zero.
-/

namespace AttributeCache.Text

/-- The number a row of decimal digits writes. -/
def digitsValue (digits : List Char) : Nat :=
  digits.foldl (fun n c => 10 * n + (c.toNat - '0'.toNat)) 0

/-- Reads one or more digits and nothing else. -/
def readDigits? (s : List Char) : Option Nat :=
  if !s.isEmpty && s.all Char.isDigit then some (digitsValue s) else none

/-- Reads an unsigned decimal below `bound`, with or without a `+`. -/
def readUnsigned? (bound : Nat) (s : List Char) : Option Nat :=
  let digits :=
    match s with
    | '+' :: rest => rest
    | _ => s
  (readDigits? digits).filter (· < bound)

/-- The value of a hexadecimal digit of either case. -/
def hexDigit? (c : Char) : Option Nat :=
  if c.isDigit then some (c.toNat - '0'.toNat)
  else if 'a' ≤ c && c ≤ 'f' then some (c.toNat - 'a'.toNat + 10)
  else if 'A' ≤ c && c ≤ 'F' then some (c.toNat - 'A'.toNat + 10)
  else none

/-- The value of a digit in a base of at most sixteen. -/
def digitIn? (base : Nat) (c : Char) : Option Nat :=
  (hexDigit? c).filter (· < base)

/-- Reads digits in a base of at most sixteen, the most significant first. -/
def readInBase? (base : Nat) (s : List Char) : Option Nat :=
  s.foldlM (fun n c => (digitIn? base c).map (base * n + ·)) 0

/-- Reads hexadecimal digits. -/
def readHex? (s : List Char) : Option Nat :=
  readInBase? 16 s

/-- The lowest `width` hexadecimal digits of a number, in lower case. -/
def hexDigits : Nat → Nat → List Char
  | 0, _ => []
  | width + 1, n => hexDigits width (n / 16) ++ [Nat.digitChar (n % 16)]

end AttributeCache.Text

import AttributeCache.Text.Decimal
import AttributeCache.Text.Split
/-!
# Integers in TOML

An integer has 64 bits with a sign. Between two digits there may be one
underscore. A decimal has no zero in front of other digits; other bases are
named in front of the digits, which then have no sign.
-/

namespace AttributeCache.Toml

/-- The digits with the underscores between them taken out. -/
def joinDigits? (isDigit : Char → Bool) (s : List Char) : Option (List Char) :=
  let groups := Text.splitWhere (· == '_') s
  if groups.all fun group => !group.isEmpty && group.all isDigit then some groups.flatten
  else none

/-- An unsigned decimal. -/
def decimal? (s : List Char) : Option Nat :=
  if s.head? = some '0' ∧ 1 < s.length then none
  else (joinDigits? Char.isDigit s).map Text.digitsValue

/-- An unsigned number in another base, at most sixteen. -/
def inBase? (base : Nat) (s : List Char) : Option Nat :=
  (joinDigits? (fun c => (Text.digitIn? base c).isSome) s).bind (Text.readInBase? base)

/-- The number a word writes, however large. -/
def integral? : List Char → Option Int
  | '0' :: 'x' :: digits => (inBase? 16 digits).map Int.ofNat
  | '0' :: 'o' :: digits => (inBase? 8 digits).map Int.ofNat
  | '0' :: 'b' :: digits => (inBase? 2 digits).map Int.ofNat
  | '+' :: digits => (decimal? digits).map Int.ofNat
  | '-' :: digits => (decimal? digits).map fun n => -(n : Int)
  | digits => (decimal? digits).map Int.ofNat

/-- The integer a word writes. -/
def integer? (word : String) : Option Int :=
  (integral? word.toList).filter fun i => Int64.minValue.toInt ≤ i && i ≤ Int64.maxValue.toInt

end AttributeCache.Toml

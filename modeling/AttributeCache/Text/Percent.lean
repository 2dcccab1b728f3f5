import AttributeCache.Text.Decimal
import AttributeCache.Text.Utf8
/-!
# Bytes in percent form

A `%` and two hexadecimal digits write a byte. Where the digits are missing
the `%` stands for itself, so every text can be read.
-/

namespace AttributeCache.Text

/-- The bytes written. -/
def percentDecode : List Char → Bytes
  | '%' :: a :: b :: rest =>
    match readHex? [a, b] with
    | some n => UInt8.ofNat n :: percentDecode rest
    | none => 0x25 :: percentDecode (a :: b :: rest)
  | c :: rest => encode c.toString ++ percentDecode rest
  | [] => []
termination_by s => s.length

/-- A byte in percent form. -/
def percentByte (b : UInt8) : List Char :=
  '%' :: (hexDigits 2 b.toNat).map Char.toUpper

/-- The text with those characters in percent form that are not ASCII, or
that `escaped` holds of. -/
def percentEncode (escaped : Char → Bool) (s : List Char) : List Char :=
  s.flatMap fun c =>
    if escaped c || 0x7F ≤ c.toNat then (encode c.toString).flatMap percentByte else [c]

end AttributeCache.Text

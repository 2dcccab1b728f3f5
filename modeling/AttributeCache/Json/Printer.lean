import AttributeCache.Json.Value
import AttributeCache.Number.Shortest
import AttributeCache.Text.Decimal
/-!
# Writing JSON

Values are written without blanks. In a string the quote, the backslash and
the characters below U+0020 are escaped, the latter by their short form
where they have one; all else is written as it is.
-/

namespace AttributeCache.Json

/-- A character of a string, escaped where it has to be. -/
def escape (c : Char) : List Char :=
  match c with
  | '"' => ['\\', '"']
  | '\\' => ['\\', '\\']
  | '\x08' => ['\\', 'b']
  | '\t' => ['\\', 't']
  | '\n' => ['\\', 'n']
  | '\x0C' => ['\\', 'f']
  | '\r' => ['\\', 'r']
  | _ => if c.toNat < 0x20 then '\\' :: 'u' :: Text.hexDigits 4 c.toNat else [c]

/-- A string between quotes. -/
def quote (s : String) : List Char :=
  '"' :: s.toList.flatMap escape ++ ['"']

namespace Value

mutual
/-- The text of a value. -/
def chars : Value → List Char
  | .null => "null".toList
  | .bool b => (if b then "true" else "false").toList
  | .number n => n.chars
  | .string s => quote s
  | .array items => '[' :: charsOfItems items ++ [']']
  | .object fields => '\x7b' :: charsOfFields fields ++ ['\x7d']

/-- Items with commas between. -/
def charsOfItems : List Value → List Char
  | [] => []
  | [v] => v.chars
  | v :: w :: rest => v.chars ++ ',' :: charsOfItems (w :: rest)

/-- Fields with commas between. -/
def charsOfFields : List (String × Value) → List Char
  | [] => []
  | [(key, v)] => quote key ++ ':' :: v.chars
  | (key, v) :: f :: rest => quote key ++ ':' :: v.chars ++ ',' :: charsOfFields (f :: rest)
end

/-- The text of a value. -/
def text (v : Value) : String :=
  String.ofList v.chars

end Value

end AttributeCache.Json

/-!
# Blank characters

A character is blank when it has the Unicode property White_Space. That is
more than the blanks of ASCII and less than "looks empty": the no-break
space and the ideographic space are blank, the zero width space and the
byte order mark are not. Trimming and splitting into words read this
property everywhere in the library, JSON and TOML apart, whose grammars
have blanks of their own.
-/

namespace AttributeCache.Text

/-- The property White_Space. -/
def isBlank (c : Char) : Bool :=
  let n := c.toNat
  (0x09 ≤ n && n ≤ 0x0D) || n == 0x20 || n == 0x85 || n == 0xA0 || n == 0x1680 ||
    (0x2000 ≤ n && n ≤ 0x200A) || n == 0x2028 || n == 0x2029 || n == 0x202F ||
    n == 0x205F || n == 0x3000

/-- The text without the blanks it starts with. -/
def trimLeft (s : List Char) : List Char :=
  s.dropWhile isBlank

/-- The text without the blanks at its ends. -/
def trimBoth (s : List Char) : List Char :=
  (trimLeft (trimLeft s).reverse).reverse

/-- The text without the blanks at its ends. -/
def trim (s : String) : String :=
  String.ofList (trimBoth s.toList)

end AttributeCache.Text

import AttributeCache.Number.Numeral
import AttributeCache.Text.Utf8
/-!
# Reading JSON

`Tree.read` reads a text as far as it is JSON. The result says where the
text stops being JSON (`broken`, behind which nothing is read), and which
numbers and strings cannot be had although the grammar allows them: a
number out of range, a string with half a surrogate pair or bytes that are
not UTF-8. What that means is decided later: a field nobody asks for may
hold such a string, a field that is read may not.
-/

namespace AttributeCache.Json

/-- A text to read; `none` stands for bytes that are not UTF-8. -/
abbrev Input := List (Option Char)

/-- A text all of whose characters are known. -/
def Input.ofText (s : String) : Input :=
  s.toList.map some

/-- What a text holds, read as JSON. -/
inductive Tree where
  | null
  | bool (b : Bool)
  /-- A number, unless it is out of range. -/
  | number (n : Option Number)
  /-- A string, unless it does not stand for characters. -/
  | text (s : Option String)
  | array (items : List Tree)
  | object (fields : List (Option String × Tree))
  /-- Here the text stops being JSON. -/
  | broken
deriving Inhabited, Repr

/-- The blanks of the grammar. -/
def isGrammarBlank (c : Option Char) : Bool :=
  c == some ' ' || c == some '\n' || c == some '\t' || c == some '\r'

/-- The text from its first character that is no blank. -/
def skipBlanks (s : Input) : Input :=
  s.dropWhile isGrammarBlank

/-! ## Strings -/

/-- A piece of a string: a character, a code unit given by its number, or
bytes that are no character. -/
inductive Piece where
  | char (c : Char)
  | unit (n : Nat)
  | stray
deriving DecidableEq, Repr

/-- The character a one-letter escape stands for. -/
def unescape? : Char → Option Char
  | '"' => some '"'
  | '\\' => some '\\'
  | '/' => some '/'
  | 'b' => some '\x08'
  | 'f' => some '\x0C'
  | 'n' => some '\n'
  | 'r' => some '\r'
  | 't' => some '\t'
  | _ => none

/-- The pieces up to the closing quote, and what follows it. -/
def readPieces : Input → Option (List Piece × Input)
  | [] => none
  | none :: rest => (readPieces rest).map fun (ps, r) => (.stray :: ps, r)
  | some '"' :: rest => some ([], rest)
  | some '\\' :: some 'u' :: some a :: some b :: some c :: some d :: rest =>
    match Text.readHex? [a, b, c, d] with
    | none => none
    | some n => (readPieces rest).map fun (ps, r) => (.unit n :: ps, r)
  | some '\\' :: some e :: rest =>
    match unescape? e with
    | none => none
    | some c => (readPieces rest).map fun (ps, r) => (.char c :: ps, r)
  | some '\\' :: _ => none
  | some c :: rest =>
    if c.toNat < 0x20 then none
    else (readPieces rest).map fun (ps, r) => (.char c :: ps, r)

/-- The first half of a surrogate pair. -/
def isHighSurrogate (n : Nat) : Bool := 0xD800 ≤ n && n < 0xDC00

/-- The second half of a surrogate pair. -/
def isLowSurrogate (n : Nat) : Bool := 0xDC00 ≤ n && n < 0xE000

/-- The characters the pieces stand for; none where a half is alone. -/
def joinPieces : List Piece → Option (List Char)
  | [] => some []
  | .char c :: rest => (joinPieces rest).map (c :: ·)
  | .stray :: _ => none
  | .unit n :: rest =>
    if isHighSurrogate n then
      match rest with
      | .unit m :: rest =>
        if isLowSurrogate m then
          let c := Char.ofNat (0x10000 + (n - 0xD800) * 0x400 + (m - 0xDC00))
          (joinPieces rest).map (c :: ·)
        else none
      | _ => none
    else if isLowSurrogate n then none
    else (joinPieces rest).map (Char.ofNat n :: ·)

/-- A string from behind its opening quote. -/
def readText (s : Input) : Option (Option String × Input) :=
  (readPieces s).map fun (ps, rest) => ((joinPieces ps).map String.ofList, rest)

/-! ## Numbers -/

/-- The digits a text starts with, and the rest. -/
def readDigits (s : Input) : List Char × Input :=
  let isDigit : Option Char → Bool := fun c => c.any Char.isDigit
  ((s.takeWhile isDigit).filterMap id, s.dropWhile isDigit)

/-- The digits behind a point, if there is one; at least one is needed. -/
def readFraction : Input → Option (Option (List Char) × Input)
  | some '.' :: rest =>
    let (digits, rest) := readDigits rest
    if digits.isEmpty then none else some (some digits, rest)
  | s => some (none, s)

/-- The exponent, if there is one; at least one digit is needed. -/
def readExponent (s : Input) : Option (Option (Bool × List Char) × Input) :=
  match s with
  | some c :: rest =>
    if c = 'e' ∨ c = 'E' then
      let (negative, rest) :=
        match rest with
        | some '-' :: rest => (true, rest)
        | some '+' :: rest => (false, rest)
        | _ => (false, rest)
      let (digits, rest) := readDigits rest
      if digits.isEmpty then none else some (some (negative, digits), rest)
    else some (none, s)
  | _ => some (none, s)

/-- The numeral a text starts with. A zero in front stands alone. -/
def readNumeral (s : Input) : Option (Numeral × Input) :=
  let (negative, s) :=
    match s with
    | some '-' :: rest => (true, rest)
    | _ => (false, s)
  let (whole, s) := readDigits s
  if whole.isEmpty || (whole.head? == some '0' && 1 < whole.length) then none
  else do
    let (fraction, s) ← readFraction s
    let (exponent, s) ← readExponent s
    return (⟨negative, whole, fraction, exponent⟩, s)

/-! ## Values -/

/-- A word or a number. -/
def readScalar : Input → Option (Tree × Input)
  | some 'n' :: some 'u' :: some 'l' :: some 'l' :: rest => some (.null, rest)
  | some 't' :: some 'r' :: some 'u' :: some 'e' :: rest => some (.bool true, rest)
  | some 'f' :: some 'a' :: some 'l' :: some 's' :: some 'e' :: rest => some (.bool false, rest)
  | s => (readNumeral s).map fun (n, rest) => (.number n.value?, rest)

mutual
/-- A value and what follows it; nothing follows where the text breaks off.
The first argument bounds the steps, and a text's length is enough. -/
def readValue : Nat → Input → Tree × Option Input
  | 0, _ => (.broken, none)
  | steps + 1, s =>
    match skipBlanks s with
    | some '\x7b' :: rest =>
      let (fields, after) := readFields steps true rest
      (.object fields, after)
    | some '[' :: rest =>
      let (items, after) := readItems steps true rest
      (.array items, after)
    | some '"' :: rest =>
      match readText rest with
      | some (t, after) => (.text t, some after)
      | none => (.broken, none)
    | s =>
      match readScalar s with
      | some (t, after) => (t, some after)
      | none => (.broken, none)

/-- Items up to the closing bracket. Only in front of the first may the
bracket stand at once. -/
def readItems : Nat → Bool → Input → List Tree × Option Input
  | 0, _, _ => ([.broken], none)
  | steps + 1, first, s =>
    match first, skipBlanks s with
    | true, some ']' :: rest => ([], some rest)
    | _, s =>
      match readValue steps s with
      | (t, none) => ([t], none)
      | (t, some after) =>
        match skipBlanks after with
        | some ']' :: rest => ([t], some rest)
        | some ',' :: rest =>
          let (ts, after) := readItems steps false rest
          (t :: ts, after)
        | _ => ([t, .broken], none)

/-- Fields up to the closing brace. Only in front of the first may the
brace stand at once. -/
def readFields : Nat → Bool → Input → List (Option String × Tree) × Option Input
  | 0, _, _ => ([(none, .broken)], none)
  | steps + 1, first, s =>
    match first, skipBlanks s with
    | true, some '\x7d' :: rest => ([], some rest)
    | _, some '"' :: rest =>
      match readText rest with
      | none => ([(none, .broken)], none)
      | some (key, after) =>
        match skipBlanks after with
        | some ':' :: rest =>
          match readValue steps rest with
          | (t, none) => ([(key, t)], none)
          | (t, some after) =>
            match skipBlanks after with
            | some '\x7d' :: rest => ([(key, t)], some rest)
            | some ',' :: rest =>
              let (fields, after) := readFields steps false rest
              ((key, t) :: fields, after)
            | _ => ([(key, t), (none, .broken)], none)
        | _ => ([(key, .broken)], none)
    | _, _ => ([(none, .broken)], none)
end

namespace Tree

/-- Reads a text as one value, and what follows the value, if the text does
not break off. Two steps are enough for each character. -/
def read (s : Input) : Tree × Option Input :=
  readValue (2 * s.length + 1) s

mutual
/-- Whether the text did not break off inside the value. -/
def isWhole : Tree → Bool
  | .array items => areWhole items
  | .object fields => areWholeFields fields
  | .broken => false
  | _ => true

/-- Item by item. -/
def areWhole : List Tree → Bool
  | [] => true
  | t :: rest => isWhole t && areWhole rest

/-- Field by field. -/
def areWholeFields : List (Option String × Tree) → Bool
  | [] => true
  | (_, t) :: rest => isWhole t && areWholeFields rest
end

end Tree

end AttributeCache.Json

import AttributeCache.Text.Decimal
/-!
# Quoted text in TOML

A text stands between quotes of one of two kinds. Between apostrophes every
character stands for itself; between double quotes a backslash starts an
escape. Three quotes in a row open a text that may run over lines: a line
break right behind them does not count, up to two quotes in a row are part
of the text, and where the text ends in one or two quotes they stand right
before the closing three. There a backslash at the end of a line takes away
all blanks and line breaks up to the next character.

Reading goes in two steps. The first finds the end and looks at no escape
but to pass over the character behind a backslash; the second resolves the
escapes in what lies between.
-/

namespace AttributeCache.Toml

/-- The two kinds of quotes. -/
inductive Quote where
  /-- Apostrophes, with no escapes. -/
  | literal
  /-- Double quotes, with escapes. -/
  | basic
deriving DecidableEq, Repr

namespace Quote

/-- The character of a quote. -/
def mark : Quote → Char
  | .literal => '\x27'
  | .basic => '"'

/-- The quote a character is. -/
def ofChar? (c : Char) : Option Quote :=
  [Quote.literal, Quote.basic].find? (·.mark == c)

/-! ## Finding the end -/

/-- What stands up to the closing quote on the same line, and what follows
the quote. -/
def spanLine (q : Quote) : List Char → Option (List Char × List Char)
  | [] => none
  | c :: rest =>
    if c = q.mark then some ([], rest)
    else if c = '\n' then none
    else if c = '\\' ∧ q = .basic then
      match rest with
      | [] => none
      | e :: rest =>
        if e = '\n' then none
        else (q.spanLine rest).map fun (body, after) => (c :: e :: body, after)
    else (q.spanLine rest).map fun (body, after) => (c :: body, after)

/-- What stands up to the closing three quotes, and what follows them. -/
def spanLines (q : Quote) : List Char → Option (List Char × List Char)
  | [] => none
  | c :: rest =>
    if c = q.mark ∧ rest.take 2 = [q.mark, q.mark] then
      let inner := ((rest.drop 2).take 2).takeWhile (· == q.mark)
      some (inner, rest.drop (2 + inner.length))
    else if c = '\\' ∧ q = .basic then
      match rest with
      | [] => none
      | e :: rest => (q.spanLines rest).map fun (body, after) => (c :: e :: body, after)
    else (q.spanLines rest).map fun (body, after) => (c :: body, after)

end Quote

/-! ## Escapes -/

/-- The characters that a backslash and one character stand for. -/
def escapes : List (Char × Char) :=
  [('b', '\x08'), ('t', '\t'), ('n', '\n'), ('f', '\x0C'), ('r', '\r'), ('"', '"'), ('\\', '\\')]

/-- The character of a code point in hexadecimal digits. -/
def codePoint? (digits : List Char) : Option Char :=
  ((Text.readHex? digits).filter Nat.isValidChar).map Char.ofNat

/-- A blank of the grammar. -/
def isGap (c : Char) : Bool :=
  c == ' ' || c == '\t'

/-- Whether only blanks stand before the end of the line. -/
def atLineEnd (s : List Char) : Bool :=
  (s.dropWhile isGap).head? == some '\n'

/-- The text that characters with escapes stand for. While `skipping`, the
blanks and line breaks in front do not count. -/
def unescape (skipping : Bool) : List Char → Option (List Char)
  | [] => some []
  | '\\' :: 'u' :: a :: b :: c :: d :: rest =>
    match codePoint? [a, b, c, d] with
    | some character => (unescape false rest).map (character :: ·)
    | none => none
  | '\\' :: 'U' :: a :: b :: c :: d :: e :: f :: g :: h :: rest =>
    match codePoint? [a, b, c, d, e, f, g, h] with
    | some character => (unescape false rest).map (character :: ·)
    | none => none
  | '\\' :: e :: rest =>
    match escapes.lookup e with
    | some character => (unescape false rest).map (character :: ·)
    | none => if atLineEnd (e :: rest) then unescape true rest else none
  | '\\' :: [] => none
  | c :: rest =>
    if skipping && (isGap c || c == '\n') then unescape true rest
    else (unescape false rest).map (c :: ·)

/-- The text of what stands between quotes. -/
def Quote.resolve? (q : Quote) (body : List Char) : Option String :=
  match q with
  | .literal => some (String.ofList body)
  | .basic => (unescape false body).map String.ofList

/-! ## Whole texts -/

/-- A quoted text. -/
structure Quoted where
  text : String
  /-- Whether three quotes stood on each side. -/
  overLines : Bool
deriving DecidableEq, Repr

/-- Reads a text from behind the first quote, and what follows the text. -/
def Quote.read (q : Quote) (s : List Char) : Option (Quoted × List Char) :=
  if s.take 2 = [q.mark, q.mark] then do
    let inside :=
      match s.drop 2 with
      | '\n' :: rest => rest
      | rest => rest
    let (body, after) ← q.spanLines inside
    return (⟨← q.resolve? body, true⟩, after)
  else do
    let (body, after) ← q.spanLine s
    return (⟨← q.resolve? body, false⟩, after)

end AttributeCache.Toml

import AttributeCache.Toml.Quoted
/-!
# Tokens of TOML

A document is first brought to one kind of line break and refused if it
holds a control character other than a tab; this is the same inside texts,
in comments and between tokens. It is then cut into tokens. Blanks and
comments stand between tokens and give none. Characters of no token here,
such as a point or a brace, belong to values and keys that no settings can
have.
-/

namespace AttributeCache.Toml

/-- A piece of a document. -/
inductive Token where
  | lineBreak
  | equals
  | comma
  | openBracket
  | closeBracket
  /-- A bare key, or a value that is not quoted. -/
  | word (s : String)
  | quoted (q : Quoted)
deriving DecidableEq, Repr

/-- Whether a character may stand in a document, line breaks apart. -/
def isPlain (c : Char) : Bool :=
  c == '\t' || (0x20 ≤ c.toNat && c.toNat != 0x7F)

/-- The characters of a document, each line break being one. -/
def normalize? : List Char → Option (List Char)
  | [] => some []
  | '\r' :: '\n' :: rest => (normalize? rest).map ('\n' :: ·)
  | c :: rest => if c = '\n' ∨ isPlain c then (normalize? rest).map (c :: ·) else none

/-- A character of words. -/
def isWordChar (c : Char) : Bool :=
  c.isAlphanum || c == '_' || c == '-' || c == '+'

/-- The token of a single character. -/
def single? : Char → Option Token
  | '\n' => some .lineBreak
  | '=' => some .equals
  | ',' => some .comma
  | '[' => some .openBracket
  | ']' => some .closeBracket
  | _ => none

/-- The tokens of a text. The first argument bounds the steps, and the
text's length is enough. -/
def tokensWithin : Nat → List Char → Option (List Token)
  | _, [] => some []
  | 0, _ :: _ => none
  | steps + 1, c :: rest =>
    if isGap c then tokensWithin steps rest
    else if c = '#' then tokensWithin steps (rest.dropWhile (· != '\n'))
    else
      match single? c, Quote.ofChar? c with
      | some token, _ => (tokensWithin steps rest).map (token :: ·)
      | none, some q =>
        match q.read rest with
        | some (text, rest) => (tokensWithin steps rest).map (.quoted text :: ·)
        | none => none
      | none, none =>
        if isWordChar c then
          let word := String.ofList (c :: rest.takeWhile isWordChar)
          (tokensWithin steps (rest.dropWhile isWordChar)).map (.word word :: ·)
        else none

/-- The byte order mark, which a document may start with. -/
def byteOrderMark : Char := '\uFEFF'

/-- The tokens of a document. -/
def tokens? (document : String) : Option (List Token) := do
  let s :=
    match document.toList with
    | [] => []
    | c :: rest => if c = byteOrderMark then rest else c :: rest
  let s ← normalize? s
  tokensWithin s.length s

end AttributeCache.Toml

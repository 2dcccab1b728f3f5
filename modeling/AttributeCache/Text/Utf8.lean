/-!
# Reading UTF-8

`decode` reads bytes as characters and never fails: where the bytes are
not UTF-8 it says `none`, once for each longest run of bytes that starts a
character and cannot go on. A byte below 0x80 always stands for itself,
so an unfinished character swallows none of them.
-/

namespace AttributeCache.Text

/-- The contents of a document. -/
abbrev Bytes := List UInt8

/-- A character begun: what its bytes so far stand for, how many bytes are
missing, and what the next one may be. -/
structure Unfinished where
  value : Nat
  missing : Nat
  least : Nat
  greatest : Nat

/-- What a byte says where a character may begin. -/
inductive FirstByte where
  | whole (c : Char)
  | begins (u : Unfinished)
  | stray

/-- Two to four bytes stand for one character. The second byte's range is
narrower where a wider one would write a character in too many bytes, a
surrogate, or a number above the last code point. -/
def FirstByte.of (b : Nat) : FirstByte :=
  if b < 0x80 then .whole (Char.ofNat b)
  else if 0xC2 ≤ b && b ≤ 0xDF then .begins ⟨b - 0xC0, 1, 0x80, 0xBF⟩
  else if 0xE0 ≤ b && b ≤ 0xEF then
    .begins ⟨b - 0xE0, 2, if b == 0xE0 then 0xA0 else 0x80, if b == 0xED then 0x9F else 0xBF⟩
  else if 0xF0 ≤ b && b ≤ 0xF4 then
    .begins ⟨b - 0xF0, 3, if b == 0xF0 then 0x90 else 0x80, if b == 0xF4 then 0x8F else 0xBF⟩
  else .stray

/-- Reads bytes, `open?` being the character begun before them. -/
def decodeFrom (open? : Option Unfinished) : Bytes → List (Option Char)
  | [] => if open?.isSome then [none] else []
  | byte :: rest =>
    let b := byte.toNat
    match open? with
    | none =>
      match FirstByte.of b with
      | .whole c => some c :: decodeFrom none rest
      | .begins u => decodeFrom (some u) rest
      | .stray => none :: decodeFrom none rest
    | some u =>
      if u.least ≤ b && b ≤ u.greatest then
        let value := u.value * 64 + (b - 0x80)
        if u.missing ≤ 1 then some (Char.ofNat value) :: decodeFrom none rest
        else decodeFrom (some ⟨value, u.missing - 1, 0x80, 0xBF⟩) rest
      else
        none ::
          match FirstByte.of b with
          | .whole c => some c :: decodeFrom none rest
          | .begins u => decodeFrom (some u) rest
          | .stray => none :: decodeFrom none rest

/-- The characters the bytes stand for. -/
def decode (bytes : Bytes) : List (Option Char) :=
  decodeFrom none bytes

/-- The text the bytes stand for, if they are UTF-8. -/
def decode? (bytes : Bytes) : Option String :=
  ((decode bytes).mapM id).map String.ofList

/-- The text with U+FFFD wherever the bytes are not UTF-8. -/
def decodeLossy (bytes : Bytes) : String :=
  String.ofList ((decode bytes).map (·.getD (Char.ofNat 0xFFFD)))

/-- The bytes of a text. -/
def encode (s : String) : Bytes :=
  s.toUTF8.toList

end AttributeCache.Text

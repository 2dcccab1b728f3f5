import AttributeCache.Text.Split
import AttributeCache.Toml.Integer
import AttributeCache.Toml.Token
/-!
# Flat TOML documents

The part of TOML that settings are written in: keys with a text, an
integer or a list of texts. Tables, dotted keys and values of other types
are refused together with what is no TOML at all, since no setting can be
read from them.
-/

namespace AttributeCache.Toml

/-- The value of a key. -/
inductive Item where
  | text (s : String)
  | integer (i : Int)
  | texts (l : List String)
deriving DecidableEq, Repr

/-- The key a token is. -/
def key? : Token → Option String
  | .word s => if s.toList.contains '+' then none else some s
  | .quoted ⟨s, false⟩ => some s
  | _ => none

/-- The rest of a list of texts. A comma may stand behind the last one. -/
def listed? : List Token → Option (List String)
  | [.closeBracket] => some []
  | [.quoted q, .closeBracket] => some [q.text]
  | .quoted q :: .comma :: rest => (listed? rest).map (q.text :: ·)
  | _ => none

/-- The value that tokens write. -/
def item? : List Token → Option Item
  | [.word s] => (integer? s).map .integer
  | [.quoted q] => some (.text q.text)
  | .openBracket :: rest => (listed? rest).map .texts
  | _ => none

/-- The key and value on a line. -/
def entry? : List Token → Option (String × Item)
  | key :: .equals :: value => do return (← key? key, ← item? value)
  | _ => none

/-- The tokens without the line breaks inside brackets. -/
def joinLines (inside : Bool) : List Token → List Token
  | [] => []
  | .lineBreak :: rest =>
    if inside then joinLines true rest else .lineBreak :: joinLines false rest
  | .openBracket :: rest => .openBracket :: joinLines true rest
  | .closeBracket :: rest => .closeBracket :: joinLines false rest
  | token :: rest => token :: joinLines inside rest

/-- The entries of a document in order. A key is given once. -/
def entries? (document : String) : Option (List (String × Item)) := do
  let lines := Text.splitWhere (· == .lineBreak) (joinLines false (← tokens? document))
  let entries ← (lines.filter (!·.isEmpty)).mapM entry?
  if (entries.map (·.1)).Nodup then return entries else none

end AttributeCache.Toml

import AttributeCache.Text.Blank
/-!
# Cutting a text into pieces

`pieces` cuts at every separator and keeps the empty pieces, so joining
with the separator gives the text back. `cut` cuts at the first one only.
`words` cuts at blanks and keeps no empty piece.
-/

namespace AttributeCache.Text

/-- Cuts wherever `p` holds, and drops what it holds of. -/
def splitWhere (p : α → Bool) : List α → List (List α)
  | [] => [[]]
  | a :: rest =>
    if p a then [] :: splitWhere p rest
    else
      match splitWhere p rest with
      | [] => [[a]]
      | piece :: others => (a :: piece) :: others

/-- The pieces between the separators; one more than there are separators. -/
def pieces (separator : Char) (s : String) : List String :=
  (splitWhere (· == separator) s.toList).map String.ofList

/-- What stands before and after the first separator. -/
def cut (separator : Char) : List Char → Option (List Char × List Char)
  | [] => none
  | c :: rest =>
    if c == separator then some ([], rest)
    else (cut separator rest).map fun (before, after) => (c :: before, after)

/-- The longest pieces without a blank. -/
def words (s : String) : List String :=
  ((splitWhere isBlank s.toList).filter (!·.isEmpty)).map String.ofList

/-- The texts in order with the separator between them. -/
def join (separator : String) : List String → String
  | [] => ""
  | [s] => s
  | s :: t :: rest => s ++ separator ++ join separator (t :: rest)

end AttributeCache.Text

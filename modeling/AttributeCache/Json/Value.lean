import AttributeCache.Keyed
import AttributeCache.Number.Basic
/-!
# JSON values

A value read from a text keeps the fields of an object sorted by key, each
key once. A value that is built to be written may list the fields of an
object in an order of its own.
-/

namespace AttributeCache.Json

/-- A JSON value. -/
inductive Value where
  | null
  | bool (b : Bool)
  | number (n : Number)
  | string (s : String)
  | array (items : List Value)
  | object (fields : List (String × Value))
deriving Inhabited, Repr, BEq

namespace Value

/-- The value of a field; nothing but an object has fields. -/
def get? (key : String) : Value → Option Value
  | .object fields => Keyed.find? key fields
  | _ => none

/-- Whether this is `null`. -/
def isNull : Value → Bool
  | .null => true
  | _ => false

/-! ## Sameness -/

mutual
/-- The value with the two zeros made one. -/
def unsignedZero : Value → Value
  | .number n => .number n.unsignedZero
  | .array items => .array (unsignedZeroItems items)
  | .object fields => .object (unsignedZeroFields fields)
  | v => v

/-- Item by item. -/
def unsignedZeroItems : List Value → List Value
  | [] => []
  | v :: rest => unsignedZero v :: unsignedZeroItems rest

/-- Field by field. -/
def unsignedZeroFields : List (String × Value) → List (String × Value)
  | [] => []
  | (key, v) :: rest => (key, unsignedZero v) :: unsignedZeroFields rest
end

/-- Equal as values: the zeros of both signs are one number. -/
def same (a b : Value) : Bool :=
  a.unsignedZero == b.unsignedZero

/-! ## Fields to write -/

/-- A field that is left out when it has no value. -/
def optional (key : String) (value : Option Value) : List (String × Value) :=
  match value with
  | some v => [(key, v)]
  | none => []

/-- An array of strings. -/
def strings (items : List String) : Value :=
  .array (items.map .string)

end Value

end AttributeCache.Json

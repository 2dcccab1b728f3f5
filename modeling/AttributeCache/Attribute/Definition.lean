import AttributeCache.Json.Value
import AttributeCache.PropertyPath
/-!
# Attribute definitions

A definition declares a dynamic attribute of an entity type. `validate`
says what is wrong with one on its own; the rules are checked in a fixed
order and the first that is broken is reported.
-/

namespace AttributeCache

/-- The type of an attribute's values. -/
inductive ValueType where
  | string
  | integer
  | double
  | boolean
  | date
  | enumeration
  | entity
deriving DecidableEq, Repr, Inhabited

namespace ValueType

/-- The name of a type. -/
def name : ValueType → String
  | .string => "string"
  | .integer => "integer"
  | .double => "double"
  | .boolean => "boolean"
  | .date => "date"
  | .enumeration => "enumeration"
  | .entity => "entity"

/-- All types. -/
def all : List ValueType :=
  [.string, .integer, .double, .boolean, .date, .enumeration, .entity]

/-- The type of a name. -/
def ofName? (s : String) : Option ValueType :=
  all.find? (·.name == s)

end ValueType

/-- The declaration of a dynamic attribute. -/
structure AttributeDefinition where
  /-- Unique within the entity type. -/
  code : String
  entityType : String
  valueType : ValueType
  /-- Groups attributes for editors. -/
  category : Option String := none
  /-- Place among the attributes of the entity type. -/
  order : Int32 := 0
  required : Bool := false
  default : Option Json.Value := none
  /-- The allowed values of an enumeration. -/
  options : Option (List String) := none
  /-- The entity type that an entity attribute refers to. -/
  target : Option String := none
deriving Repr, BEq, Inhabited

namespace AttributeDefinition

/-- A definition of a type that needs neither options nor a target. -/
def plain (valueType : ValueType) (entityType code : String) : AttributeDefinition :=
  { code, entityType, valueType }

/-- An enumeration of fixed options. -/
def enumeration (entityType code : String) (options : List String) : AttributeDefinition :=
  { code, entityType, valueType := .enumeration, options := some options }

/-- A reference to another entity type. -/
def reference (entityType code target : String) : AttributeDefinition :=
  { code, entityType, valueType := .entity, target := some target }

/-- The text of the path to the attribute on an entity. -/
def propertyPath (d : AttributeDefinition) : String :=
  PropertyPath.dynamicMark.toString ++ d.code

/-! ## Validity -/

/-- A rule a definition can break. -/
inductive Rule where
  | codeGiven
  | codePlain
  | entityTypeGiven
  | optionsGiven
  | targetGiven
  | optionsAllowed
  | targetAllowed
  | defaultAmongOptions
deriving DecidableEq, Repr

/-- What is said of a broken rule. -/
def Rule.reason : Rule → String
  | .codeGiven => "code is required"
  | .codePlain => "code must not contain '.' or start with '+'"
  | .entityTypeGiven => "entity_type is required"
  | .optionsGiven => "enumeration attribute has no options"
  | .targetGiven => "entity attribute has no target_entity"
  | .optionsAllowed => "options are only allowed on enumeration attributes"
  | .targetAllowed => "target_entity is only allowed on entity attributes"
  | .defaultAmongOptions => "default value is not one of the options"

/-- A definition that breaks a rule. -/
structure Invalid where
  entityType : String
  code : String
  broken : Rule
deriving DecidableEq, Repr

/-- The wording of the refusal. -/
def Invalid.message (e : Invalid) : String :=
  "invalid attribute '" ++ e.code ++ "' of " ++ e.entityType ++ ": " ++ e.broken.reason

/-- Whether nothing but blanks is in a text. -/
def isBlankText (s : String) : Bool :=
  (Text.trim s).isEmpty

/-- Whether a rule holds. The rules on options and target that do not
concern the type of the definition hold. -/
def obeys (d : AttributeDefinition) : Rule → Bool
  | .codeGiven => !isBlankText d.code
  | .codePlain => !d.code.toList.contains '.' && d.code.toList.head? != some '+'
  | .entityTypeGiven => !isBlankText d.entityType
  | .optionsGiven => d.valueType != .enumeration || d.options.any (!·.isEmpty)
  | .targetGiven => d.valueType != .entity || d.target.any (!isBlankText ·)
  | .optionsAllowed => d.valueType == .enumeration || d.valueType == .entity || d.options.isNone
  | .targetAllowed => d.valueType == .enumeration || d.valueType == .entity || d.target.isNone
  | .defaultAmongOptions =>
    match d.valueType, d.default, d.options with
    | .enumeration, some (.string s), some options => options.contains s
    | _, _, _ => true

/-- The rules in the order they are checked in. -/
def rules : List Rule :=
  [.codeGiven, .codePlain, .entityTypeGiven, .optionsGiven, .targetGiven, .optionsAllowed,
    .targetAllowed, .defaultAmongOptions]

/-- Reports the first rule that is broken. -/
def validate (d : AttributeDefinition) : Except Invalid Unit :=
  match rules.find? (!d.obeys ·) with
  | some broken => .error ⟨d.entityType, d.code, broken⟩
  | none => .ok ()

end AttributeDefinition

end AttributeCache

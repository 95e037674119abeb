import EntitySchema.Diagnostic
import EntitySchema.Schema.Basic

/-! What the checks of a finished schema find, with the wording of each case. -/
namespace EntitySchema.Check

inductive Issue where
  | missingId (entity : String)
  | repeatedId (entity : String) (names : List String)
  | entityNameNotCapitalised (entity : String)
  | repeatedFieldName (entity field : String)
  | invalidFieldName (entity field : String)
  | missingCardinality (entity field : String) (target : Option String)
  | missingTarget (entity field : String) (target : Option String)
  | oneSided (entity field : String) (cardinality : Option Cardinality) (target : String)
  | emptyEnum (name : String)
  | repeatedEnumValue (name value : String)
  | emptyOverride (word : String)
  | unknownOverride (word : String)
  deriving DecidableEq, Repr

namespace Issue

def severity : Issue → Severity
  | missingId _ | repeatedId _ _ | repeatedFieldName _ _ | invalidFieldName _ _
  | missingCardinality _ _ _ | missingTarget _ _ _ | emptyEnum _ => .error
  | entityNameNotCapitalised _ | repeatedEnumValue _ _ | emptyOverride _ | unknownOverride _ =>
    .warning
  | oneSided _ _ _ _ => .info

def code : Issue → String
  | missingId _ => "MISSING_ID_FIELD"
  | repeatedId _ _ => "DUPLICATE_ID_FIELD"
  | entityNameNotCapitalised _ => "ENTITY_NAME_NOT_PASCAL_CASE"
  | repeatedFieldName _ _ => "DUPLICATE_FIELD_NAME"
  | invalidFieldName _ _ => "INVALID_FIELD_NAME"
  | missingCardinality _ _ _ => "REL_TYPE_MISSING"
  | missingTarget _ _ _ => "REL_TARGET_ENTITY_MISSING"
  | oneSided _ _ _ _ => "REL_ONE_SIDED"
  | emptyEnum _ => "EMPTY_ENUM_VALUES"
  | repeatedEnumValue _ _ => "DUPLICATE_ENUM_VALUE"
  | emptyOverride _ => "EMPTY_PLURAL_OVERRIDE"
  | unknownOverride _ => "PLURAL_OVERRIDE_UNKNOWN_ENTITY"

def message : Issue → String
  | missingId entity => "Entity '" ++ entity ++ "' has no 'id' field."
  | repeatedId entity names =>
    "Entity '" ++ entity ++ "' declares " ++ toString names.length ++ " id fields: " ++
      Text.quotedList names ++ "."
  | entityNameNotCapitalised entity =>
    "Entity name '" ++ entity ++ "' is not PascalCase. Generated class names may look odd."
  | repeatedFieldName entity field =>
    "Field '" ++ field ++ "' appears more than once in entity '" ++ entity ++ "'."
  | invalidFieldName entity field =>
    "Field '" ++ field ++ "' in entity '" ++ entity ++ "' is not a valid identifier."
  | missingCardinality entity field _ =>
    "Relationship field '" ++ entity ++ "." ++ field ++ "' has no recognised cardinality."
  | missingTarget entity field target =>
    "Relationship field '" ++ entity ++ "." ++ field ++ "' targets undeclared entity '" ++
      target.getD "None" ++ "'."
  | oneSided entity field cardinality target =>
    "Relationship '" ++ entity ++ "." ++ field ++ "' (" ++
      (cardinality.map Cardinality.name).getD "None" ++ ") has no inverse field on '" ++ target ++
      "'."
  | emptyEnum name => "Enum '" ++ name ++ "' has no values."
  | repeatedEnumValue name value =>
    "Enum '" ++ name ++ "' lists value '" ++ value ++ "' more than once."
  | emptyOverride word => "Plural override for '" ++ word ++ "' is empty and will be ignored."
  | unknownOverride word =>
    "Plural override defined for '" ++ word ++ "' which matches no entity in the schema."

def context : Issue → List (String × Value)
  | missingId entity | repeatedId entity _ | entityNameNotCapitalised entity =>
    [("entity", .text entity)]
  | repeatedFieldName entity field | invalidFieldName entity field =>
    [("entity", .text entity), ("field", .text field)]
  | missingCardinality entity field target | missingTarget entity field target =>
    [("entity", .text entity), ("field", .text field), ("target", .ofText? target)]
  | oneSided entity field _ target =>
    [("entity", .text entity), ("field", .text field), ("target", .text target)]
  | emptyEnum name => [("enum", .text name)]
  | repeatedEnumValue name value => [("enum", .text name), ("value", .text value)]
  | emptyOverride word | unknownOverride word => [("word", .text word)]

def diagnostic (i : Issue) : Diagnostic := ⟨i.severity, i.code, i.message, i.context⟩

end Issue

end EntitySchema.Check

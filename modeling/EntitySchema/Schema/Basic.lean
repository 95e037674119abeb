import EntitySchema.Dict
import EntitySchema.Schema.Cardinality

/-! Schemas: entities with their fields, and enumerations with their values, both in the order of
declaration. -/
namespace EntitySchema

/-- A field of an entity. A plain field carries its type as declared; a relationship field carries
the type `relationship` together with a cardinality and a target. -/
structure Field where
  name : String
  type : String
  required : Bool := false
  nullable : Bool := true
  isRelationship : Bool := false
  cardinality : Option Cardinality := none
  target : Option String := none
  isAudit : Option Bool := none
  readOnly : Option Bool := none
  name_ne_empty : name ≠ ""
  type_ne_empty : type ≠ ""
  deriving DecidableEq, Repr

namespace Field

def isCollection (f : Field) : Bool :=
  f.isRelationship && (f.cardinality.map Cardinality.isCollection).getD false

def isId (f : Field) : Bool := Text.lowered f.name == "id"

def text (f : Field) : String :=
  if f.isRelationship then
    "<EntityField " ++ f.name ++ " " ++ (f.cardinality.map Cardinality.name).getD "None" ++ " → " ++
      f.target.getD "None" ++ ">"
  else
    "<EntityField " ++ f.name ++ " " ++ f.type ++ (if f.required then " required" else "") ++ ">"

def id : Field where
  name := "id"
  type := "Long"
  name_ne_empty := by decide
  type_ne_empty := by decide

def relationshipType : String := "relationship"

/-- The field for one side of a relationship; there is none without a name. -/
def relationship? (name : String) (cardinality : Cardinality) (target : String) : Option Field :=
  if h : name = "" then none
  else some {
    name
    type := relationshipType
    isRelationship := true
    cardinality := some cardinality
    target := some target
    name_ne_empty := h
    type_ne_empty := by decide }

end Field

structure Schema where
  entities : Dict (List Field)
  enums : Dict (List String)
  deriving DecidableEq, Repr

namespace Schema

def empty : Schema := ⟨.empty, .empty⟩

def fields (s : Schema) (entity : String) : List Field := (s.entities.get? entity).getD []

def field? (s : Schema) (entity name : String) : Option Field :=
  (s.fields entity).find? (·.name == name)

def allFields (s : Schema) : List Field := s.entities.values.flatten

def totalFields (s : Schema) : Nat := s.allFields.length

def totalRelationships (s : Schema) : Nat := s.allFields.countP (·.isRelationship)

def text (s : Schema) : String :=
  "<ParsedSchema " ++ toString s.entities.size ++ " entities, " ++ toString s.enums.size ++
    " enums, " ++ toString s.totalRelationships ++ " relationship fields>"

end Schema

end EntitySchema

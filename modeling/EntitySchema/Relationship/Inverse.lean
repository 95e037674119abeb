import EntitySchema.Schema.Basic
import EntitySchema.Noun
import EntitySchema.Value

/-! The far end of a relationship field, and what a document says about the field. -/
namespace EntitySchema

/-- A relationship field together with the entity that has it. A field of the schema itself also
has a place among the fields of its entity. -/
structure RelationshipEnd where
  owner : String
  field : Field
  place : Option Nat := none
  deriving Repr

namespace RelationshipEnd

/-- Whether a field of the target, at some place there, is an end opposite to this one: it points
back, with the inverse cardinality, and is another field than this one. -/
def isOpposite (e : RelationshipEnd) (target : String) (g : Field) (place : Nat) : Bool :=
  g.isRelationship && g.cardinality.isSome &&
    g.cardinality == e.field.cardinality.map Cardinality.inverse && g.target == some e.owner &&
    !(target == e.owner && e.place == some place)

def candidates (s : Schema) (e : RelationshipEnd) : List Field :=
  match e.field.target with
  | some target =>
    if e.field.isRelationship && target != "" then
      ((s.fields target).zipIdx.filter fun g => e.isOpposite target g.1 g.2).map (·.1)
    else []
  | none => []

/-- Of several candidates the one named for the owner is taken, then the one named for its plural,
then the first. -/
def inverse? (s : Schema) (e : RelationshipEnd) : Option Field :=
  match e.candidates s with
  | [] => none
  | [g] => some g
  | g :: gs =>
    let single := Noun.lowerFirst e.owner.toList
    let named (name : List Char) := (g :: gs).find? (·.name.toList == name)
    named single <|> named (Noun.plural [] single) <|> some g

end RelationshipEnd

namespace Cardinality

/-- Whether one or many of the owner belong to each of the target. -/
def targetSide : Cardinality → String
  | .oneToMany | .oneToOne => "one"
  | .manyToOne | .manyToMany => "many"

/-- Whether one or many of the target belong to each of the owner. -/
def selfSide (c : Cardinality) : String := if c.isCollection then "many" else "one"

end Cardinality

namespace RelationshipEnd

/-- What a document adds to the entry of a relationship field; nothing for a plain one. -/
def metadata (s : Schema) (e : RelationshipEnd) : List (String × Value) :=
  match e.field.isRelationship, e.field.cardinality with
  | true, some c =>
    let inverse := (e.inverse? s).map fun g =>
      ("inverse", .ofDictEntries [("entity", .ofText? e.field.target), ("fieldName", .text g.name)])
    [("relKind", .text c.code), ("isCollection", .bool c.isCollection),
      ("cardinality", .ofDictEntries [("self", .text c.selfSide), ("target", .text c.targetSide)])] ++
      inverse.toList
  | _, _ => []

end RelationshipEnd

namespace Schema

def ends (s : Schema) (entity : String) : List RelationshipEnd :=
  (s.fields entity).zipIdx.map fun f => ⟨entity, f.1, some f.2⟩

end Schema

end EntitySchema

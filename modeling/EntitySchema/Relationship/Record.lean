import EntitySchema.Schema.Basic
import EntitySchema.Noun

/-! Relationship statements and the fields they demand of the two entities. -/
namespace EntitySchema

/-- One statement `Source{field} to Target{field}` of a relationship block. -/
structure RelationshipRecord where
  type : String
  source : String
  target : String
  sourceField : Option String := none
  targetField : Option String := none
  deriving DecidableEq, Repr

/-- A relationship field that a record demands of the entity `owner`. -/
structure Demand where
  owner : String
  name : String
  cardinality : Cardinality
  target : String
  deriving DecidableEq, Repr

namespace RelationshipRecord

def cardinality? (r : RelationshipRecord) : Option Cardinality := Cardinality.ofToken? r.type

/-- The name given in a statement, unless it is empty. -/
def given? (name : Option String) : Option String := name.filter (· != "")

/-- The name of a field without a given one: its target, in the plural for a collection. -/
def defaultName (c : Cardinality) (target : String) : String :=
  let single := Noun.lowerFirst target.toList
  String.ofList (if c.isCollection then Noun.plural [] single else single)

/-- Whether the far side gets a field even when the statement names none. -/
def alwaysTwoSided : Cardinality → Bool
  | .oneToMany | .manyToMany => true
  | .manyToOne | .oneToOne => false

/-- The fields that a record of cardinality `c` demands: always one on the near side, and one with
the inverse cardinality on the far side when it is named or the cardinality is two-sided. -/
def demands (r : RelationshipRecord) (c : Cardinality) : List Demand :=
  let near : Demand :=
    ⟨r.source, (given? r.sourceField).getD (defaultName c r.target), c, r.target⟩
  let far (name : String) : Demand := ⟨r.target, name, c.inverse, r.source⟩
  match given? r.targetField with
  | some name => [near, far name]
  | none => if alwaysTwoSided c then [near, far (defaultName c.inverse r.source)] else [near]

end RelationshipRecord

end EntitySchema

import EntitySchema.Jdl.Finding

/-! Materialization: the fields that relationship records demand are added to the entities, each
once. A field named like the identifier is never added. -/
namespace EntitySchema

open Jdl (Finding Trace)

def relationshipSource : String := "jdlschema.relationships"

/-- Appends a relationship field, unless it is named `id` in some letter case or a relationship
field of its name is there. -/
def addRelationshipField (fields : List Field) (owner : Option String) (field : Field) :
    List Field × Bool × Trace :=
  if field.isId then
    let shown := (owner.filter (· != "")).getD "?"
    (fields, false,
      .note .debug relationshipSource ("Relationship field '" ++ field.name ++ "' on " ++ shown ++
          " would shadow the id field — skipped.") ++
        .find (.fieldNamedId owner field.name field.target))
  else if fields.any fun f => f.isRelationship && f.name == field.name then
    (fields, false, .note .debug relationshipSource
      ("Relationship field '" ++ field.name ++ "' already present — skipped."))
  else (fields ++ [field], true, .empty)

/-- Entities with the relationship fields added so far. A demand without a name cannot be met and
ends the work. -/
structure Materialization where
  entities : Dict (List Field)
  added : Nat := 0
  trace : Trace := .empty
  nameless : Bool := false
  deriving Repr

namespace Materialization

def meet (m : Materialization) (key : String) (d : Demand) : Materialization :=
  if m.nameless then m
  else match Field.relationship? d.name d.cardinality d.target with
    | none => { m with nameless := true }
    | some field =>
      let (fields, isNew, trace) :=
        addRelationshipField ((m.entities.get? key).getD []) (some d.owner) field
      { m with
        entities := m.entities.modify key fun _ => fields
        added := m.added + if isNew then 1 else 0
        trace := m.trace ++ trace }

def applyTo (m : Materialization) (nearKey farKey : String) (r : RelationshipRecord) :
    Materialization :=
  match r.cardinality? with
  | none => m
  | some c => ((r.demands c).zip [nearKey, farKey]).foldl (fun m e => m.meet e.2 e.1) m

def skip (m : Materialization) (message : String) (f : Finding) : Materialization :=
  { m with trace := m.trace ++ .note .debug relationshipSource message ++ .find f }

/-- Applies a record to the entities that it names. A record with an undeclared entity or an unknown
type is skipped. -/
def apply (m : Materialization) (r : RelationshipRecord) : Materialization :=
  let missing := [r.source, r.target].filter fun e => !m.entities.contains e
  if m.nameless then m
  else if missing ≠ [] then
    m.skip ("Relationship " ++ r.source ++ " → " ++ r.target ++ " skipped: unknown entity " ++
      Text.quotedList missing ++ ".") (.undeclaredEntity r missing)
  else if r.cardinality?.isNone then
    m.skip ("Relationship type '" ++ r.type ++ "' is not supported.") (.unknownType r)
  else m.applyTo r.source r.target r

end Materialization

def materialize (entities : Dict (List Field)) (records : List RelationshipRecord) :
    Materialization :=
  let m := records.foldl Materialization.apply { entities }
  if m.nameless then m
  else
    let total := "Materialized " ++ toString m.added ++ " relationship field(s)."
    { m with trace := m.trace ++ .note .debug relationshipSource total }

end EntitySchema

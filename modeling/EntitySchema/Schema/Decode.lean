import EntitySchema.Decode.Record
import EntitySchema.Decode.Scalar
import EntitySchema.Schema.Basic

/-! Fields and schemas as plain data, and back. Optional parts that are not set are left out. -/
namespace EntitySchema

open Decode (Checked Key)

namespace Field

def keys : List Key := [
  ⟨"name", "name"⟩, ⟨"type", "type"⟩, ⟨"required", "required"⟩, ⟨"nullable", "nullable"⟩,
  ⟨"is_relationship", "isRelationship"⟩, ⟨"relationship_type", "relationshipType"⟩,
  ⟨"target_entity", "targetEntity"⟩, ⟨"is_audit", "isAudit"⟩, ⟨"read_only", "readOnly"⟩]

def entries (f : Field) : List (String × Value) :=
  [("name", .text f.name), ("type", .text f.type), ("required", .bool f.required),
    ("nullable", .bool f.nullable), ("isRelationship", .bool f.isRelationship)] ++
  (f.cardinality.map fun c => ("relationshipType", Value.text c.name)).toList ++
  (f.target.map fun t => ("targetEntity", Value.text t)).toList ++
  (f.isAudit.map fun b => ("isAudit", Value.bool b)).toList ++
  (f.readOnly.map fun b => ("readOnly", Value.bool b)).toList

def toValue (f : Field) : Value := .ofDictEntries f.entries

def ofParts (name type : { s : String // s ≠ "" }) (required nullable isRelationship : Bool)
    (cardinality : Option Cardinality) (target : Option String) (isAudit readOnly : Option Bool) :
    Field where
  name := name
  type := type
  required
  nullable
  isRelationship
  cardinality
  target
  isAudit
  readOnly
  name_ne_empty := name.property
  type_ne_empty := type.property

def ofEntries (m : List (Value × Value)) : Checked Field :=
  let part {α : Type} (snake camel : String) (default : Option α) (f : Decode.Scalar α) :=
    Key.decode ⟨snake, camel⟩ m default f
  let cardinality := Decode.choice Cardinality.name Cardinality.all
  let f := Checked.ap (.ok ofParts) (part "name" "name" none Decode.nonEmptyText)
  let f := Checked.ap f (part "type" "type" none Decode.nonEmptyText)
  let f := Checked.ap f (part "required" "required" (some false) Decode.flag)
  let f := Checked.ap f (part "nullable" "nullable" (some true) Decode.flag)
  let f := Checked.ap f (part "is_relationship" "isRelationship" (some false) Decode.flag)
  let f := Checked.ap f
    (part "relationship_type" "relationshipType" (some none) (Decode.optional cardinality))
  let f := Checked.ap f
    (part "target_entity" "targetEntity" (some none) (Decode.optional Decode.text))
  let f := Checked.ap f (part "is_audit" "isAudit" (some none) (Decode.optional Decode.flag))
  let f := Checked.ap f (part "read_only" "readOnly" (some none) (Decode.optional Decode.flag))
  Checked.guard f (Decode.extras keys m)

def ofValue : Value → Checked Field
  | .mapping m => ofEntries m
  | _ => .error [⟨[], .modelExpected "EntityField"⟩]

end Field

namespace Decode

def listOf {α : Type} (f : Value → Checked α) : Value → Checked (List α)
  | .list items => Checked.mapAll (fun e => Checked.below (.index e.2) (f e.1)) items.zipIdx
  | _ => .error [⟨[], .listExpected⟩]

def dictOf {α : Type} (f : Value → Checked α) : Value → Checked (Dict α)
  | .mapping m => (Checked.mapAll (fun e =>
      let step : Step := .key e.1.display
      Checked.ap (Checked.below step (.ofComplaint ((text e.1).map Prod.mk)))
        (Checked.below step (f e.2))) m).map Dict.ofList
  | _ => .error [⟨[], .mappingExpected⟩]

end Decode

namespace Schema

def keys : List Key := [⟨"entities", "entities"⟩, ⟨"enums", "enums"⟩]

def toValue (s : Schema) : Value := .ofDictEntries [
  ("entities", .ofDictEntries (s.entities.entries.map fun e =>
    (e.1, .list (e.2.map Field.toValue)))),
  ("enums", .ofDictEntries (s.enums.entries.map fun e => (e.1, .list (e.2.map .text))))]

/-- Decodes a mapping with the keys `entities` and `enums`; one that is missing counts as empty. -/
def ofValue : Value → Checked Schema
  | .mapping m =>
    let part {α : Type} (k : Key) (f : Value → Checked (Dict α)) : Checked (Dict α) :=
      match k.find? m with
      | some (spelling, v) => Checked.below (.key spelling) (f v)
      | none => .ok .empty
    let values := Decode.listOf fun v => .ofComplaint (Decode.text v)
    let entities := part ⟨"entities", "entities"⟩ (Decode.dictOf (Decode.listOf Field.ofValue))
    let enums := part ⟨"enums", "enums"⟩ (Decode.dictOf values)
    Checked.guard (Checked.ap (entities.map Schema.mk) enums) (Decode.extras keys m)
  | _ => .error [⟨[], .modelExpected "ParsedSchema"⟩]

end Schema

end EntitySchema

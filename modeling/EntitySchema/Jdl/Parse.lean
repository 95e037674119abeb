import EntitySchema.Jdl.Comment
import EntitySchema.Jdl.EntityBlock
import EntitySchema.Jdl.EnumBlock
import EntitySchema.Jdl.RelationshipBlock
import EntitySchema.Relationship.Materialize

/-! Parsing of source text into a schema. The parser accepts every text: what it cannot use it skips
and reports in its trace, and the schema does not depend on who reads the trace. -/
namespace EntitySchema.Jdl

def parserSource : String := "jdlschema.parser"

structure Parsed where
  schema : Schema
  records : List RelationshipRecord
  added : Nat
  trace : Trace
  /-- Whether a relationship demanded a field without a name; no text leads to that. -/
  nameless : Bool
  deriving Repr

/-- Comments are stripped; then enumerations, entities and relationships are extracted. Entities
without an identifier get one before relationship fields are added. -/
def parse (text : List Char) : Parsed :=
  let clean := stripComments text
  let (enums, enumTrace) := extractEnums clean
  let (declared, entityTrace) := extractEntities clean
  let injected := entitiesWithoutId declared
  let injectedTrace : Trace := if injected = [] then .empty else
    .note .debug parserSource ("Injected 'id' into " ++ toString injected.length ++
      " entit(y/ies): " ++ Text.quotedList injected)
  let (records, relationshipTrace) := extractRelationships clean
  let m := materialize (ensureIds declared) records
  let schema : Schema := ⟨m.entities, enums⟩
  let totals := "Parsed JDL: " ++ toString schema.entities.size ++ " entities, " ++
    toString schema.enums.size ++ " enums, " ++ toString records.length ++
    " relationship statement(s) → " ++ toString m.added ++ " relationship field(s)."
  { schema, records
    added := m.added
    nameless := m.nameless
    trace := enumTrace ++ entityTrace ++ injectedTrace ++ relationshipTrace ++ m.trace ++
      .note .info parserSource totals }

def parseSchema (text : List Char) : Schema := (parse text).schema

def parseInto (collected : Diagnostics) (text : List Char) : Schema × Diagnostics :=
  let p := parse text
  (p.schema, collected ++ p.trace.diagnostics)

end EntitySchema.Jdl

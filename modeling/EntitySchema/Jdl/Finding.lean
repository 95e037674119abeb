import EntitySchema.Diagnostic
import EntitySchema.Log
import EntitySchema.Relationship.Record

/-! What the lenient parser skips or overrides on its way, with the wording of each case. -/
namespace EntitySchema.Jdl

inductive Finding where
  | emptyEnum (name : String)
  | repeatedEnum (name : String)
  | unmatchedFieldLine (entity line : String)
  | repeatedEntity (entity : String)
  | invalidFieldSpec (statement spec : String)
  | unterminatedBlock (type : String) (offset : Nat)
  | unmatchedStatement (type statement : String)
  | fieldNamedId (owner : Option String) (field : String) (target : Option String)
  | undeclaredEntity (record : RelationshipRecord) (missing : List String)
  | unknownType (record : RelationshipRecord)
  deriving DecidableEq, Repr

namespace Finding

def code : Finding → String
  | emptyEnum _ => "EMPTY_ENUM"
  | repeatedEnum _ => "DUPLICATE_ENUM"
  | unmatchedFieldLine _ _ => "UNMATCHED_FIELD_LINE"
  | repeatedEntity _ => "DUPLICATE_ENTITY"
  | invalidFieldSpec _ _ => "INVALID_INJECTED_FIELD"
  | unterminatedBlock _ _ => "UNTERMINATED_RELATIONSHIP_BLOCK"
  | unmatchedStatement _ _ => "UNMATCHED_RELATIONSHIP_STATEMENT"
  | fieldNamedId _ _ _ => "RELATIONSHIP_FIELD_NAMED_ID"
  | undeclaredEntity _ _ => "UNKNOWN_RELATIONSHIP_ENTITY"
  | unknownType _ => "UNKNOWN_RELATIONSHIP_TYPE"

def message : Finding → String
  | emptyEnum name => "Enum '" ++ name ++ "' declares no values and was ignored."
  | repeatedEnum name =>
    "Enum '" ++ name ++ "' is declared more than once; the last declaration wins."
  | unmatchedFieldLine entity line =>
    "Line '" ++ line ++ "' in entity '" ++ entity ++
      "' is not 'fieldName Type [flags]' and was ignored."
  | repeatedEntity entity =>
    "Entity '" ++ entity ++ "' is declared more than once; the last declaration wins."
  | invalidFieldSpec statement spec =>
    "Field spec '\x7b" ++ spec ++ "\x7d' in '" ++ statement ++
      "' is not a field name; the default name is used instead."
  | unterminatedBlock type offset =>
    "'relationship " ++ type ++ "' block opened at offset " ++ toString offset ++
      " is never closed; the rest of the input was ignored."
  | unmatchedStatement type statement =>
    "Statement '" ++ statement ++ "' in 'relationship " ++ type ++
      "' is not 'From\x7bfield\x7d to To\x7bfield\x7d' and was ignored."
  | fieldNamedId owner field _ =>
    "Relationship field '" ++ field ++ "' on entity '" ++ owner.getD "None" ++
      "' clashes with the id field and was ignored."
  | undeclaredEntity record missing =>
    "Relationship '" ++ record.source ++ " to " ++ record.target ++
      "' references undeclared entity " ++ ", ".intercalate missing ++ "."
  | unknownType record =>
    "Relationship type '" ++ record.type ++ "' is not one of " ++
      ", ".intercalate (Cardinality.all.map Cardinality.name) ++ "."

def context : Finding → List (String × Value)
  | emptyEnum name => [("enum", .text name)]
  | repeatedEnum name => [("enum", .text name)]
  | unmatchedFieldLine entity line => [("entity", .text entity), ("line", .text line)]
  | repeatedEntity entity => [("entity", .text entity)]
  | invalidFieldSpec statement spec => [("statement", .text statement), ("spec", .text spec)]
  | unterminatedBlock type offset => [("type", .text type), ("offset", .int offset)]
  | unmatchedStatement type statement => [("type", .text type), ("statement", .text statement)]
  | fieldNamedId owner field target =>
    [("entity", Value.ofText? owner), ("field", .text field), ("target", Value.ofText? target)]
  | undeclaredEntity record missing =>
    [("type", .text record.type), ("missing", .list (missing.map .text))]
  | unknownType record => [("from", .text record.source), ("to", .text record.target)]

/-- Nothing that is skipped stops the parser, so all findings are warnings. -/
def diagnostic (f : Finding) : Diagnostic := ⟨.warning, f.code, f.message, f.context⟩

end Finding

/-- What a parse leaves besides its result. Nothing in it is read back by the parser. -/
structure Trace where
  findings : List Finding := []
  log : Log := []
  deriving Repr

namespace Trace

def empty : Trace := {}

instance : Append Trace where
  append a b := ⟨a.findings ++ b.findings, a.log ++ b.log⟩

def find (f : Finding) : Trace := { findings := [f] }

def note (level : LogLevel) (source message : String) : Trace :=
  { log := [⟨level, source, message⟩] }

def diagnostics (t : Trace) : Diagnostics := t.findings.map Finding.diagnostic

end Trace

def extractionSource : String := "jdlschema.extractors"

end EntitySchema.Jdl

import EntitySchema.Jdl.Parse

/-! Parsing with a collector at hand. Every stage is handed the collector that the stage before has
left and adds a finding to it where the finding is made; without a collector, findings are lost. A
field without a name ends a parse. -/
namespace EntitySchema.Jdl

open Text (isWordChar)

/-- Where a parse leaves what it finds: nowhere, or behind diagnostics that are there already. -/
abbrev Collector := Option Diagnostics

/-- A stage of a parse. It reads and changes the collector and may end the parse. -/
abbrev Collecting := OptionT (StateM Collector)

namespace Collect

def warn (f : Finding) : Collecting Unit := modify fun c => c.map (· ++ [f.diagnostic])

def declareEnum (enums : Dict (List String)) (b : EnumBlock) : Collecting (Dict (List String)) := do
  if b.values = [] then
    warn (.emptyEnum b.name)
    return enums
  if enums.contains b.name then warn (.repeatedEnum b.name)
  return enums.insert b.name b.values

def enums (s : List Char) : Collecting (Dict (List String)) :=
  (EnumBlock.all s).foldlM declareEnum .empty

def declareField (entity : String) (fields : List Field) (line : List Char) :
    Collecting (List Field) :=
  match readFieldLine? line with
  | some f => return fields ++ [f]
  | none => do
    warn (.unmatchedFieldLine entity (String.ofList line))
    return fields

def declareEntity (entities : Dict (List Field)) (b : EntityBlock) :
    Collecting (Dict (List Field)) := do
  let declared ← b.lines.foldlM (declareField b.name) []
  let fields := if b.isAudited then addAuditFields declared else declared
  if entities.contains b.name then warn (.repeatedEntity b.name)
  return entities.insert b.name fields

def entities (s : List Char) : Collecting (Dict (List Field)) :=
  (EntityBlock.all s).foldlM declareEntity .empty

def fieldOfSpec? (statement spec : List Char) : Collecting (Option String) := do
  let field := readFieldSpec? spec
  if spec ≠ [] ∧ field.isNone then
    warn (.invalidFieldSpec (String.ofList statement) (String.ofList spec))
  return field

def record? (type : String) (statement : List Char) : Collecting (Option RelationshipRecord) :=
  match readStatement? statement with
  | none => return none
  | some ((source, sourceSpec), (target, targetSpec)) => do
    let sourceField ← fieldOfSpec? statement sourceSpec
    let targetField ← fieldOfSpec? statement targetSpec
    return some { type, source := source.text, target := target.text, sourceField, targetField }

def addRecord (type : String) (records : List RelationshipRecord) (statement : List Char) :
    Collecting (List RelationshipRecord) := do
  match ← record? type statement with
  | some r => return records ++ [r]
  | none =>
    warn (.unmatchedStatement type (String.ofList statement))
    return records

/-- The records of a text that starts at `offset`. A block that is never closed ends the search. -/
def recordsFrom (offset : Nat) (afterWord : Bool) : List Char → Collecting (List RelationshipRecord)
  | [] => return []
  | c :: r =>
    match if afterWord then none else readRelationshipHead? (c :: r) with
    | some (type, inner) =>
      match splitAtClosing? inner with
      | some (body, rest) => do
        let block : RelationshipBlock := ⟨String.ofList type, body⟩
        let records ← block.statements.foldlM (addRecord block.type) []
        if _h : rest.length < (c :: r).length then
          return records ++ (← recordsFrom (offset + ((c :: r).length - rest.length)) false rest)
        else return records
      | none => do
        warn (.unterminatedBlock (String.ofList type) offset)
        return []
    | none => recordsFrom (offset + 1) (isWordChar c) r
termination_by s => s.length
decreasing_by
  · assumption
  · exact Nat.lt_succ_self r.length

def addField (owner : String) (fields : List Field) (field : Field) : Collecting (List Field) := do
  if field.isId then
    warn (.fieldNamedId (some owner) field.name field.target)
    return fields
  if fields.any fun f => f.isRelationship && f.name == field.name then return fields
  return fields ++ [field]

def meet (entities : Dict (List Field)) (d : Demand) : Collecting (Dict (List Field)) := do
  match Field.relationship? d.name d.cardinality d.target with
  | none => failure
  | some field =>
    let fields ← addField d.owner ((entities.get? d.owner).getD []) field
    return entities.modify d.owner fun _ => fields

def apply (entities : Dict (List Field)) (r : RelationshipRecord) :
    Collecting (Dict (List Field)) := do
  let missing := [r.source, r.target].filter fun e => !entities.contains e
  if missing ≠ [] then
    warn (.undeclaredEntity r missing)
    return entities
  match r.cardinality? with
  | none =>
    warn (.unknownType r)
    return entities
  | some c => (r.demands c).foldlM meet entities

def schema (text : List Char) : Collecting Schema := do
  let clean := stripComments text
  let enums ← enums clean
  let declared ← entities clean
  let records ← recordsFrom 0 false clean
  let entities ← records.foldlM apply (ensureIds declared)
  return ⟨entities, enums⟩

end Collect

/-- The schema of a text, if the parse comes to its end, and the collector as the parse leaves it. -/
def parseWith (collector : Collector) (text : List Char) : Option Schema × Collector :=
  (Collect.schema text).run.run collector

end EntitySchema.Jdl

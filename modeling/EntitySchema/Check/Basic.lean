import EntitySchema.Check.Issue
import EntitySchema.Log
import EntitySchema.Relationship.Inverse
import EntitySchema.Settings.Basic
import EntitySchema.Text.Lines

/-! The checks of a finished schema: what renderers rely on, and naming conventions. -/
namespace EntitySchema.Check

def isIdentifier : List Char → Bool
  | c :: r => (c.isAlpha || c == '_') && r.all fun d => d.isAlphanum || d == '_'
  | [] => false

def isCapitalised : List Char → Bool
  | c :: r => c.isUpper && r.all Char.isAlphanum
  | [] => false

/-- The members that equal an earlier one. -/
def repeats (l : List String) : List String := go [] l
where
  go (seen : List String) : List String → List String
    | [] => []
    | a :: r => if seen.contains a then a :: go seen r else go (a :: seen) r

/-- Every entity has exactly one field named `id`, in any letter case. -/
def entityIds (s : Schema) : List Issue :=
  s.entities.entries.flatMap fun (entity, fields) =>
    match fields.filter Field.isId with
    | [] => [.missingId entity]
    | [_] => []
    | ids => [.repeatedId entity (ids.map Field.name)]

/-- Entity names are capitalised. A line feed at the very end of a name is let pass. -/
def entityNames (s : Schema) : List Issue :=
  (s.entities.keys.filter fun e => !isCapitalised (Text.withoutLastFeed e.toList)).map
    .entityNameNotCapitalised

def fieldNamesOf (entity : String) (seen : List String) : List Field → List Issue
  | [] => []
  | f :: r =>
    (if seen.contains f.name then [.repeatedFieldName entity f.name] else []) ++
      (if isIdentifier (Text.withoutLastFeed f.name.toList) then []
        else [.invalidFieldName entity f.name]) ++
      fieldNamesOf entity (f.name :: seen) r

/-- Field names are identifiers, no two alike in an entity. A line feed at the very end of a name is
let pass. -/
def fieldNames (s : Schema) : List Issue :=
  s.entities.entries.flatMap fun (entity, fields) => fieldNamesOf entity [] fields

def isDeclared (s : Schema) : Option String → Bool
  | some target => target != "" && s.entities.contains target
  | none => false

def relationshipTargets (s : Schema) : List Issue :=
  s.entities.entries.flatMap fun (entity, fields) =>
    (fields.filter (·.isRelationship)).flatMap fun f =>
      (if f.cardinality.isNone then [.missingCardinality entity f.name f.target] else []) ++
        if isDeclared s f.target then [] else [.missingTarget entity f.name f.target]

def inverseLinks (s : Schema) : List Issue :=
  s.entities.keys.flatMap fun entity =>
    (s.ends entity).filterMap fun e =>
      match e.field.isRelationship, e.field.target with
      | true, some target =>
        if s.entities.contains target && (e.inverse? s).isNone then
          some (.oneSided entity e.field.name e.field.cardinality target)
        else none
      | _, _ => none

def enums (s : Schema) : List Issue :=
  s.enums.entries.flatMap fun (name, values) =>
    if values = [] then [.emptyEnum name] else (repeats values).map (.repeatedEnumValue name)

def overrides (settings : Settings) : List Issue :=
  (settings.pluralOverrides.entries.filter fun e => Text.trimmed e.2 == "").map fun e =>
    .emptyOverride e.1

def overrideWords (s : Schema) (settings : Settings) : List Issue :=
  let known := s.entities.keys.map Text.lowered
  (settings.pluralOverrides.keys.filter fun word => !known.contains (Text.lowered word)).map
    .unknownOverride

def diagnostics (issues : List Issue) : Diagnostics := issues.map Issue.diagnostic

end EntitySchema.Check

import EntitySchema.Jdl.Parse
import EntitySchema.Proofs.Jdl.Name

/-! Declarations over words that open no block: how each is written, and what it declares. -/
namespace EntitySchema.Jdl

open Text (isBlank isWordChar)

def keywords : List (List Char) := ["enum".toList, "entity".toList, "relationship".toList]

/-- An ASCII identifier that opens no block. -/
structure Word extends Identifier where
  isStart : isIdentifierStart first = true
  isAscii : ∀ c ∈ rest, c.isAlphanum = true ∨ c = '_'
  not_keyword : first :: rest ∉ keywords

/-- The type of a relationship block: letters, at least one. -/
structure TypeName where
  letters : List Char
  ne_nil : letters ≠ []
  isAlpha : ∀ c ∈ letters, c.isAlpha = true

/-- A line `name Type` or `name Type required` of an entity. -/
structure FieldDeclaration where
  name : Word
  type : Word
  required : Bool

/-- A line `Source{field} to Target{field}` of a relationship block; each field may be left out. -/
structure Statement where
  source : Word
  sourceField : Option Word
  target : Word
  targetField : Option Word

inductive Declaration where
  | enum (name : Word) (values : List Word) (ne_nil : values ≠ [])
  | entity (audited : Bool) (name : Word) (fields : List FieldDeclaration)
  | relationship (type : TypeName) (statements : List Statement)

/-- How a document is laid out: the blanks in front of a line inside a block, and the line feeds
behind a block. -/
structure Layout where
  indent : Nat
  gap : Nat

def Word.chars (w : Word) : List Char := w.first :: w.rest

/-- The lines of the values of an enumeration: a comma ends each but the last. -/
def valueLines : List Word → List (List Char)
  | [] => []
  | [v] => [v.chars]
  | v :: r => (v.chars ++ [',']) :: valueLines r

namespace FieldDeclaration

def line (f : FieldDeclaration) : List Char :=
  f.name.chars ++ ' ' :: (f.type.chars ++ if f.required then ' ' :: "required".toList else [])

def field (f : FieldDeclaration) : Field where
  name := f.name.text
  type := f.type.text
  required := f.required
  nullable := !f.required
  name_ne_empty := f.name.text_ne_empty
  type_ne_empty := f.type.text_ne_empty

end FieldDeclaration

namespace Statement

def spec : Option Word → List Char
  | some w => '{' :: (w.chars ++ ['}'])
  | none => []

def line (s : Statement) : List Char :=
  s.source.chars ++ (spec s.sourceField ++ ' ' :: ("to".toList ++ ' ' ::
    (s.target.chars ++ spec s.targetField)))

def record (type : TypeName) (s : Statement) : RelationshipRecord where
  type := String.ofList type.letters
  source := s.source.text
  target := s.target.text
  sourceField := s.sourceField.map (·.text)
  targetField := s.targetField.map (·.text)

end Statement

namespace Layout

def body (l : Layout) (lines : List (List Char)) : List Char :=
  lines.flatMap fun line => List.replicate l.indent ' ' ++ line ++ ['\n']

/-- `keyword name {`, the lines of the body, and the closing brace. -/
def block (l : Layout) (keyword name : List Char) (lines : List (List Char)) : List Char :=
  keyword ++ ' ' :: (name ++ ' ' :: '{' :: '\n' ::
    (l.body lines ++ '}' :: List.replicate l.gap '\n'))

end Layout

def auditMark : List Char := '@' :: ("EnableAudit".toList ++ ['\n'])

namespace Declaration

def keyword : Declaration → List Char
  | enum _ _ _ => "enum".toList
  | entity _ _ _ => "entity".toList
  | relationship _ _ => "relationship".toList

def text (l : Layout) : Declaration → List Char
  | enum name values _ => l.block "enum".toList name.chars (valueLines values)
  | entity audited name fields =>
    (if audited then auditMark else []) ++
      l.block "entity".toList name.chars (fields.map (·.line))
  | relationship type statements =>
    l.block "relationship".toList type.letters (statements.map (·.line))

def enums : Declaration → List (String × List String)
  | enum name values _ => [(name.text, values.map (·.text))]
  | _ => []

/-- The entity that is declared, if one is: its name and its fields without its relationships. These
are the declared fields, then for a marked entity the audit fields whose names none of them has in any
letter case. The identifier stands in front when no declared field is named so. -/
def entities : Declaration → List (String × List Field)
  | entity audited name fields =>
    let declared := fields.map (·.field)
    let audit := if audited then auditFields.filter fun a =>
      declared.all fun f => Text.lowered f.name ≠ Text.lowered a.name else []
    let id := if declared.any fun f => Text.lowered f.name = "id" then [] else [Field.id]
    [(name.text, id ++ declared ++ audit)]
  | _ => []

def records : Declaration → List RelationshipRecord
  | relationship type statements => statements.map (·.record type)
  | _ => []

end Declaration

/-- The declarations of each kind by themselves, first the enumerations, then the entities, then the
relationship blocks. -/
def grouped (declarations : List Declaration) : List Declaration :=
  keywords.flatMap fun keyword => declarations.filter (·.keyword = keyword)

def documentText (l : Layout) (declarations : List Declaration) : List Char :=
  declarations.flatMap (·.text l)

end EntitySchema.Jdl

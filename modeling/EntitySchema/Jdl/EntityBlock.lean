import EntitySchema.Jdl.Finding
import EntitySchema.Jdl.Scan
import EntitySchema.Text.Lines

/-! Entities in source text. -/
namespace EntitySchema.Jdl

open Text (isBlank)

/-- An annotation `@Name` or `@Name(…)` with the blanks behind it: the text after them. -/
def afterAnnotation? : List Char → Option (List Char)
  | '@' :: s => do
    let (_, s) ← Identifier.read? s
    let s := match enclosed? '(' ')' s with
      | some (_, rest) => rest
      | none => s
    return s.dropWhile isBlank
  | _ => none

def afterAnnotations (s : List Char) : List Char :=
  match afterAnnotation? s with
  | some rest => if _h : rest.length < s.length then afterAnnotations rest else s
  | none => s
termination_by s.length

/-- A block `@Annotations entity Name { body }`. -/
structure EntityBlock where
  annotations : List Char
  name : String
  body : List Char
  deriving DecidableEq, Repr

namespace EntityBlock

/-- A block starts at its first annotation, or at the keyword when there is none and no word runs
up to it. -/
def read? (afterWord : Bool) (s : List Char) : Option (EntityBlock × List Char) :=
  let start := afterAnnotations s
  let annotations := s.take (s.length - start.length)
  if afterWord && annotations.isEmpty then none
  else (readBlock? "entity".toList start).map fun (name, body, rest) =>
    (⟨annotations, name.text, body⟩, rest)

def all (s : List Char) : List EntityBlock := findBlocks read? false s

def isAudited (b : EntityBlock) : Bool :=
  hasLetters "@enableaudit".toList false false b.annotations

def lines (b : EntityBlock) : List (List Char) :=
  ((Text.splitAll (· == '\n') b.body).map Text.trim).filter (· ≠ [])

end EntityBlock

def readFlags? : List Char → Option (List Char)
  | [] => some []
  | c :: r =>
    let flags := r.dropWhile isBlank
    if isBlank c && !flags.dropLast.contains '\n' then some flags else none

/-- Reads a line `name Type flags`, with an optional comma after the type. The field is required
when the flags hold the word `required`, in any letter case. -/
def readFieldLine? (line : List Char) : Option Field := do
  let (name, s) ← Identifier.read? line
  let s ← afterBlanks? s
  let (type, s) ← Identifier.read? s
  let s := match s with
    | ',' :: r => r
    | _ => s
  let flags ← readFlags? s
  let required := hasLetters "required".toList true false flags
  return {
    name := name.text
    type := type.text
    required
    nullable := !required
    name_ne_empty := name.text_ne_empty
    type_ne_empty := type.text_ne_empty }

def auditFields : List Field :=
  [{ name := "createdBy", type := "String", isAudit := some true, readOnly := some true,
     name_ne_empty := by decide, type_ne_empty := by decide },
   { name := "createdDate", type := "Instant", isAudit := some true, readOnly := some true,
     name_ne_empty := by decide, type_ne_empty := by decide },
   { name := "lastModifiedBy", type := "String", isAudit := some true, readOnly := some true,
     name_ne_empty := by decide, type_ne_empty := by decide },
   { name := "lastModifiedDate", type := "Instant", isAudit := some true, readOnly := some true,
     name_ne_empty := by decide, type_ne_empty := by decide }]

def hasFieldNamed (fields : List Field) (name : String) : Bool :=
  fields.any fun f => Text.lowered f.name == Text.lowered name

/-- Appends the audit fields whose names are still free, in any letter case. -/
def addAuditFields (fields : List Field) : List Field :=
  auditFields.foldl (fun fs f => if hasFieldNamed fs f.name then fs else fs ++ [f]) fields

namespace EntityBlock

def declaredFields (b : EntityBlock) : List Field := b.lines.filterMap readFieldLine?

def unmatchedLines (b : EntityBlock) : List (List Char) :=
  b.lines.filter fun line => (readFieldLine? line).isNone

def fields (b : EntityBlock) : List Field :=
  if b.isAudited then addAuditFields b.declaredFields else b.declaredFields

def trace (b : EntityBlock) : Trace :=
  let skipped := b.unmatchedLines.foldl (fun t line =>
    let line := String.ofList line
    t ++ .note .debug extractionSource
        ("Entity '" ++ b.name ++ "': unmatched line " ++ Text.quoted line ++ " dropped.") ++
      .find (.unmatchedFieldLine b.name line)) .empty
  let audit := if b.isAudited then
    .note .debug extractionSource ("Entity '" ++ b.name ++ "': " ++
      toString (b.fields.length - b.declaredFields.length) ++ " audit field(s) injected.")
    else .empty
  skipped ++ audit

/-- Declares the entity of a block; a later declaration of a name replaces the earlier one. -/
def declare (entities : Dict (List Field)) (b : EntityBlock) : Dict (List Field) × Trace :=
  (entities.insert b.name b.fields,
    b.trace ++ if entities.contains b.name then .find (.repeatedEntity b.name) else .empty)

end EntityBlock

def extractEntities (s : List Char) : Dict (List Field) × Trace :=
  let (entities, trace) := (EntityBlock.all s).foldl (fun (acc : Dict (List Field) × Trace) b =>
    let (entities, trace) := b.declare acc.1
    (entities, acc.2 ++ trace)) (.empty, .empty)
  (entities, trace ++
    .note .debug extractionSource ("Extracted " ++ toString entities.size ++ " entit(y/ies)."))

/-- Puts `id Long` in front of the fields, unless an id field is among them. -/
def ensureId (fields : List Field) : List Field :=
  if fields.any (·.isId) then fields else Field.id :: fields

def ensureIds (entities : Dict (List Field)) : Dict (List Field) :=
  entities.map fun _ fields => ensureId fields

def entitiesWithoutId (entities : Dict (List Field)) : List String :=
  (entities.entries.filter fun e => !e.2.any (·.isId)).map (·.1)

end EntitySchema.Jdl

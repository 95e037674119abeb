import EntitySchema.Jdl.Brace
import EntitySchema.Jdl.Finding
import EntitySchema.Jdl.Scan
import EntitySchema.Text.Lines

/-! Relationship blocks in source text and the statements in them. -/
namespace EntitySchema.Jdl

open Text (isBlank isWordChar)

/-- The head `relationship Type {` of a block: the type and the text after the brace. -/
def readRelationshipHead? (s : List Char) : Option (List Char × List Char) := do
  let s ← afterLiteral? "relationship".toList s
  let s ← afterBlanks? s
  let (type, s) := s.span Char.isAlpha
  let s ← if type = [] then none else afterLiteral? ['{'] (s.dropWhile isBlank)
  return (type, s)

structure RelationshipBlock where
  type : String
  body : List Char
  deriving DecidableEq, Repr

/-- The closed blocks of a text. One that is never closed ends the search; it is known by its type
and the place of its head. -/
structure RelationshipBlocks where
  closed : List RelationshipBlock
  unterminated : Option (String × Nat)
  deriving DecidableEq, Repr

/-- Finds the blocks of a text that starts at `offset`. Braces may nest inside a body, and no block
starts within another. -/
def RelationshipBlocks.readFrom (offset : Nat) (afterWord : Bool) : List Char → RelationshipBlocks
  | [] => ⟨[], none⟩
  | c :: r =>
    match if afterWord then none else readRelationshipHead? (c :: r) with
    | some (type, inner) =>
      match splitAtClosing? inner with
      | some (body, rest) =>
        let block : RelationshipBlock := ⟨String.ofList type, body⟩
        if _h : rest.length < (c :: r).length then
          let later := readFrom (offset + ((c :: r).length - rest.length)) false rest
          ⟨block :: later.closed, later.unterminated⟩
        else ⟨[block], none⟩
      | none => ⟨[], some (String.ofList type, offset)⟩
    | none => readFrom (offset + 1) (isWordChar c) r
termination_by s => s.length
decreasing_by
  · assumption
  · exact Nat.lt_succ_self r.length

def RelationshipBlocks.read (s : List Char) : RelationshipBlocks := readFrom 0 false s

/-- A field name in braces; a display hint in parentheses may follow it and is dropped. -/
def readFieldSpec? (spec : List Char) : Option String := do
  let (name, s) ← Identifier.read? (Text.trim spec)
  let s := match enclosed? '(' ')' s with
    | some (_, rest) => rest
    | none => s
  if atEnd s then some name.text else none

/-- An entity of a statement, with what stands in braces behind it. -/
def readSide? (s : List Char) : Option (Identifier × List Char × List Char) := do
  let (entity, s) ← Identifier.read? s
  match enclosed? '{' '}' s with
  | some (spec, rest) => return (entity, Text.trim spec, rest)
  | none => return (entity, [], s)

/-- A statement `Source{field} to Target{field};`, braces and semicolon optional: the entities and
their field specs. -/
def readStatement? (s : List Char) :
    Option ((Identifier × List Char) × (Identifier × List Char)) := do
  let (source, sourceSpec, s) ← readSide? s
  let s ← afterBlanks? s
  let s ← afterLiteral? "to".toList s
  let s ← afterBlanks? s
  let (target, targetSpec, s) ← readSide? s
  let s := match s with
    | ';' :: r => r
    | _ => s
  if atEnd s then some ((source, sourceSpec), (target, targetSpec)) else none

/-- Reads a statement of a block. A field spec that is no field name is reported and counts as
none. -/
def readRecord? (type : String) (statement : List Char) : Option RelationshipRecord × Trace :=
  match readStatement? statement with
  | none => (none, .empty)
  | some ((source, sourceSpec), (target, targetSpec)) =>
    let check (spec : List Char) : Trace :=
      if spec ≠ [] ∧ (readFieldSpec? spec).isNone then
        .find (.invalidFieldSpec (String.ofList statement) (String.ofList spec))
      else .empty
    (some {
      type
      source := source.text
      target := target.text
      sourceField := readFieldSpec? sourceSpec
      targetField := readFieldSpec? targetSpec }, check sourceSpec ++ check targetSpec)

namespace RelationshipBlock

/-- The statements of the body: commas and line feeds end one, and what is blank is none. -/
def statements (b : RelationshipBlock) : List (List Char) :=
  ((Text.splitAll (fun c => c == '\n' || c == ',') b.body).map Text.trim).filter (· ≠ [])

def records (b : RelationshipBlock) : List RelationshipRecord :=
  b.statements.filterMap fun s => (readRecord? b.type s).1

def trace (b : RelationshipBlock) : Trace :=
  b.statements.foldl (fun t s =>
    match readRecord? b.type s with
    | (some _, found) => t ++ found
    | (none, found) =>
      let s := String.ofList s
      t ++ found ++ .note .debug extractionSource
          ("Relationship " ++ b.type ++ ": unmatched statement " ++ Text.quoted s ++ " dropped.") ++
        .find (.unmatchedStatement b.type s)) .empty

end RelationshipBlock

def extractRelationships (s : List Char) : List RelationshipRecord × Trace :=
  let blocks := RelationshipBlocks.read s
  let records := blocks.closed.flatMap (·.records)
  let trace := blocks.closed.foldl (fun t b => t ++ b.trace) .empty
  let cut := match blocks.unterminated with
    | some (type, offset) =>
      .note .debug extractionSource ("Unterminated relationship block at offset " ++
        toString offset ++ " — scan stopped.") ++ .find (.unterminatedBlock type offset)
    | none => .empty
  (records, trace ++ cut ++ .note .debug extractionSource
    ("Extracted " ++ toString records.length ++ " relationship record(s)."))

end EntitySchema.Jdl

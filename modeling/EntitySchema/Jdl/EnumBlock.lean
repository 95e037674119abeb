import EntitySchema.Jdl.Finding
import EntitySchema.Jdl.Scan
import EntitySchema.Text.Lines

/-! Enumerations in source text. -/
namespace EntitySchema.Jdl

/-- A block `enum Name { body }`. -/
structure EnumBlock where
  name : String
  body : List Char
  deriving DecidableEq, Repr

namespace EnumBlock

def read? (afterWord : Bool) (s : List Char) : Option (EnumBlock × List Char) :=
  if afterWord then none
  else (readBlock? "enum".toList s).map fun (name, body, rest) => (⟨name.text, body⟩, rest)

def all (s : List Char) : List EnumBlock := findBlocks read? false s

/-- Commas, semicolons and line feeds end a value; what is blank is none. -/
def values (b : EnumBlock) : List String :=
  let pieces := Text.splitAll (fun c => c == ',' || c == ';' || c == '\n') b.body
  ((pieces.map Text.trim).filter (· ≠ [])).map String.ofList

/-- Declares the enumeration of a block. One without values is dropped, and a later declaration of
a name replaces the earlier one. -/
def declare (enums : Dict (List String)) (b : EnumBlock) : Dict (List String) × Trace :=
  if b.values = [] then
    (enums, .note .debug extractionSource ("Enum '" ++ b.name ++ "' has no values — dropped.") ++
      .find (.emptyEnum b.name))
  else
    (enums.insert b.name b.values,
      if enums.contains b.name then .find (.repeatedEnum b.name) else .empty)

end EnumBlock

def extractEnums (s : List Char) : Dict (List String) × Trace :=
  let (enums, trace) := (EnumBlock.all s).foldl (fun (acc : Dict (List String) × Trace) b =>
    let (enums, trace) := b.declare acc.1
    (enums, acc.2 ++ trace)) (.empty, .empty)
  (enums, trace ++
    .note .debug extractionSource ("Extracted " ++ toString enums.size ++ " enum(s)."))

end EntitySchema.Jdl

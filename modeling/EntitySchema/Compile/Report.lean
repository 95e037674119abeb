import EntitySchema.Diagnostic
import EntitySchema.Document
import EntitySchema.Number.Binary64
import EntitySchema.Text.Lines

/-! The report of a run: how far it came, what it found, and what it made. -/
namespace EntitySchema.Compile

/-- A step of a run, with the time that it took in milliseconds; a run that is not clocked leaves
all times at zero. -/
structure StepRecord where
  name : String
  success : Bool
  detail : String
  milliseconds : Nat := 0
  deriving DecidableEq, Repr

structure Report where
  jdlFile : String := ""
  outputFile : String := ""
  format : Format := .json
  success : Bool := false
  /-- Whether the output file was written. -/
  written : Bool := false
  /-- Whether the output file held the document already. -/
  skipped : Bool := false
  steps : List StepRecord := []
  schema : Option Schema := none
  parseDiagnostics : Diagnostics := []
  validation : Option Diagnostics := none
  /-- What kept the run from reading its input or writing its output. -/
  failures : List String := []
  document : Option (List (String × Value)) := none
  rendered : Option String := none
  milliseconds : Nat := 0
  deriving Repr

def secondsText (milliseconds : Nat) : String :=
  toString (milliseconds / 1000) ++ "." ++ zeroPadded 3 (milliseconds % 1000) ++ "s"

def padded (width : Nat) (s : String) : String :=
  s ++ String.ofList (List.replicate (width - s.length) ' ')

namespace StepRecord

def line (r : StepRecord) : String :=
  let line := "  [" ++ (if r.success then "ok  " else "FAIL") ++ "] " ++ padded 16 r.name ++ " " ++
    secondsText r.milliseconds ++ "  " ++ r.detail
  String.ofList (Text.trimEnd line.toList)

end StepRecord

namespace Report

def entityCount (r : Report) : Nat := (r.schema.map fun s => s.entities.size).getD 0

def enumCount (r : Report) : Nat := (r.schema.map fun s => s.enums.size).getD 0

def fieldCount (r : Report) : Nat := (r.schema.map Schema.totalFields).getD 0

def relationshipCount (r : Report) : Nat := (r.schema.map Schema.totalRelationships).getD 0

def lineCount (r : Report) : Nat := (r.rendered.map Text.countLines).getD 0

def parseWarnings (r : Report) : List String := r.parseDiagnostics.map Diagnostic.text

def validationErrors (r : Report) : List String :=
  ((r.validation.map Diagnostics.errors).getD []).map Diagnostic.text

def validationWarnings (r : Report) : List String :=
  ((r.validation.map Diagnostics.warnings).getD []).map Diagnostic.text

/-- A heading with the number of items, then the items; nothing without items. -/
def titled (title : String) (items : List String) : List String :=
  if items = [] then []
  else ("  " ++ title ++ " (" ++ toString items.length ++ "):") :: items.map ("    " ++ ·)

def orElse (s alternative : String) : String := if s = "" then alternative else s

def summary (r : Report) : String :=
  let fileState := if r.written then "written" else if r.skipped then "unchanged" else "-"
  let head := [
    "jdlschema Compilation Report: " ++ (if r.success then "SUCCESS" else "FAILED"),
    "  input   " ++ orElse r.jdlFile "<text>",
    "  output  " ++ orElse r.outputFile "<stdout>" ++ " (" ++ r.format.name ++ ", " ++ fileState ++
      ")",
    "  schema  " ++ toString r.entityCount ++ " entities, " ++ toString r.enumCount ++
      " enums, " ++ toString r.fieldCount ++ " fields (" ++ toString r.relationshipCount ++
      " relationship), " ++ toString r.lineCount ++ " document lines",
    "  time    " ++ secondsText r.milliseconds]
  "\n".intercalate (head ++ r.steps.map StepRecord.line ++
    titled "Parse Warnings" r.parseWarnings ++
    titled "Validation Errors" r.validationErrors ++
    titled "Validation Warnings" r.validationWarnings ++
    titled "Compilation Errors" r.failures)

end Report

end EntitySchema.Compile

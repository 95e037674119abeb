import EntitySchema.Value

/-! Diagnostics: what the parser skipped and what the checks found, in the order of discovery. -/
namespace EntitySchema

inductive Severity where
  | error
  | warning
  | info
  deriving DecidableEq, Repr

namespace Severity

def all : List Severity := [.error, .warning, .info]

def name : Severity → String
  | .error => "error"
  | .warning => "warning"
  | .info => "info"

def label : Severity → String
  | .error => "ERROR"
  | .warning => "WARNING"
  | .info => "INFO"

def ofName? (name : String) : Option Severity := all.find? (·.name == name)

def unknownMessage (v : Value) : String := "Unknown diagnostic level: " ++ v.literal

end Severity

structure Diagnostic where
  severity : Severity
  code : String
  message : String
  context : List (String × Value) := []
  deriving Repr

namespace Diagnostic

def text (d : Diagnostic) : String := "[" ++ d.severity.label ++ "] " ++ d.code ++ ": " ++ d.message

def line (d : Diagnostic) : String :=
  let column := d.severity.name ++ String.ofList (List.replicate (7 - d.severity.name.length) ' ')
  let pairs := d.context.map fun e => e.1 ++ "=" ++ e.2.display
  "  " ++ column ++ " " ++ d.code ++ ": " ++ d.message ++
    if pairs.isEmpty then "" else " (" ++ ", ".intercalate pairs ++ ")"

end Diagnostic

abbrev Diagnostics := List Diagnostic

namespace Diagnostics

def atSeverity (ds : Diagnostics) (s : Severity) : Diagnostics :=
  ds.filter fun d => d.severity = s

def errors (ds : Diagnostics) : Diagnostics := ds.atSeverity .error

def warnings (ds : Diagnostics) : Diagnostics := ds.atSeverity .warning

def codes (ds : Diagnostics) : List String := ds.map Diagnostic.code

def hasErrors (ds : Diagnostics) : Bool := !ds.errors.isEmpty

def hasWarnings (ds : Diagnostics) : Bool := !ds.warnings.isEmpty

def isValid (ds : Diagnostics) : Bool := !ds.hasErrors

def summary (ds : Diagnostics) : String :=
  "Validation: " ++ toString ds.errors.length ++ " error(s), " ++ toString ds.warnings.length ++
    " warning(s), " ++ toString ds.length ++ " total item(s)."

def report (ds : Diagnostics) (withInfo : Bool) : String :=
  let shown := if withInfo then Severity.all else [.error, .warning]
  "\n".intercalate (ds.summary :: shown.flatMap fun s => (ds.atSeverity s).map Diagnostic.line)

def text (ds : Diagnostics) : String := "<ValidationResult " ++ ds.summary ++ ">"

end Diagnostics

end EntitySchema

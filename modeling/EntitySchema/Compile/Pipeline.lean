import EntitySchema.Check.Full
import EntitySchema.Compile.Report
import EntitySchema.Files.Store
import EntitySchema.Jdl.Parse

/-! Compilation: text is parsed and checked, and the document of the schema is rendered. With the
gate closed, errors of the checks stop the run before the document is made. -/
namespace EntitySchema.Compile

open Files (Path Refusal Store)

def compileSource : String := "jdlschema.compiler"

def filesSource : String := "jdlschema.utils"

def note (level : LogLevel) (message : String) : LogEntry := ⟨level, compileSource, message⟩

def clockEntry (label : String) : LogEntry := ⟨.debug, filesSource, label ++ " took 0.0000s"⟩

def Report.start (c : Configuration) : Report where
  format := c.format
  outputFile := c.shown.outputFile.getD ""

def Report.addStep (r : Report) (name : String) (success : Bool) (detail : String) : Report :=
  { r with steps := r.steps ++ [⟨name, success, detail, 0⟩] }

/-- Parses the text. What the parser skipped is only warned of. -/
def parseStep (r : Report) (text : List Char) : Schema × Report × Log :=
  let parsed := Jdl.parse text
  let found := parsed.trace.diagnostics
  let skipped := if found = [] then "" else
    ", " ++ toString found.length ++ " skipped construct(s)"
  let r := { r with schema := some parsed.schema, parseDiagnostics := found }
  let detail := toString r.entityCount ++ " entities, " ++ toString r.enumCount ++ " enums" ++
    skipped
  (parsed.schema, r.addStep "Parse JDL" true detail,
    parsed.trace.log ++ clockEntry "parse" :: found.map fun d => note .warning d.text)

def checkStep (r : Report) (s : Schema) (settings : Settings) : Report × Log :=
  let found := Check.diagnostics (Check.full s settings)
  let detail :=
    if found.hasErrors then toString found.errors.length ++ " error(s)"
    else if found.hasWarnings then toString found.warnings.length ++ " warning(s)"
    else "all checks passed"
  let shown := if found.hasErrors then found.errors.map fun d => note .error d.text
    else found.warnings.map fun d => note .warning d.text
  ({ r with validation := some found }.addStep "Validate Schema" found.isValid detail,
    Check.fullLog s settings ++ clockEntry "validation" :: shown)

def renderStep (r : Report) (s : Schema) (c : Configuration) : Report × Log :=
  let document := c.document s
  let entries := document.map fun e => (Value.text e.1, e.2)
  let rendered := c.format.render c.indent.val entries
  let r := { r with document := some document, rendered := some rendered }
  let detail := r.format.name ++ ", " ++ Number.grouped r.lineCount ++ " lines"
  (r.addStep "Render Document" true detail, [clockEntry "render"])

/-- Sets the outcome: there is a document, nothing failed, and errors of the checks only where the
gate is open. -/
def finish (r : Report) (gated : Bool) : Report × Log :=
  let failed := r.failures ≠ [] ∨ (r.validationErrors ≠ [] ∧ gated)
  let r := { r with success := decide (¬failed) && r.rendered.isSome }
  (r, [if r.success then
      note .info ("Compilation succeeded: " ++ toString r.entityCount ++ " entities, " ++
        toString r.enumCount ++ " enums in " ++ secondsText r.milliseconds ++ ".")
    else note .error ("Compilation failed in " ++ secondsText r.milliseconds ++ ".")])

/-- Runs all steps on a text. `gated` tells whether errors of the checks stop the run. -/
def run (r : Report) (text : List Char) (c : Configuration) (gated : Bool) : Report × Log :=
  let (schema, r, parseLog) := parseStep r text
  let (r, checkLog) := checkStep r schema c.shown
  let (r, renderLog) := if gated && r.validationErrors ≠ [] then (r, [])
    else renderStep r schema c
  let (r, finishLog) := finish r gated
  (r, parseLog ++ checkLog ++ renderLog ++ finishLog)

def compileText (text : List Char) (c : Configuration) (gated : Bool) : Report × Log :=
  run (.start c) text c gated

/-- The text of an input file, or the failure of a run that cannot read it. -/
def loadText (store : Store) (path : Path) : Except Refusal (Except String (List Char)) := do
  if ← store.isFile path then
    return (store.readText path).mapError fun e => "Cannot read " ++ path.text ++ ": " ++ e.message
  else return .error ("JDL file not found: " ++ path.text)

/-- Compiles a file. One that cannot be read is a failure of the run, unless even its path is
refused. -/
def compileFile (store : Store) (path : Path) (c : Configuration) (gated : Bool) :
    Except Refusal (Report × Log) := do
  let r := { Report.start c with jdlFile := path.text }
  match ← loadText store path with
  | .error failure =>
    let r := { r with failures := [failure] }.addStep "Load JDL File" false failure
    let (r, finishLog) := finish r gated
    return (r, clockEntry "load_jdl" :: note .error failure :: finishLog)
  | .ok text =>
    let detail := toString (Text.countLines (String.ofList text)) ++ " lines from " ++ path.name
    let (r, log) := run (r.addStep "Load JDL File" true detail) text c gated
    return (r, clockEntry "load_jdl" :: log)

def readyEntry (gated : Bool) : LogEntry :=
  note .debug ("SchemaCompiler initialised: fail_on_errors=" ++ (if gated then "True" else "False") ++
    ".")

end EntitySchema.Compile

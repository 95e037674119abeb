import EntitySchema.Compile.Pipeline

/-! The output file: it is written unless it holds the document already. -/
namespace EntitySchema.Compile

open Files (Path Refusal Store)
open Text (Loose)

/-- What a write came to: whether the file was written, or why it could not be. -/
structure WriteOutcome where
  store : Store
  log : Log
  result : Except Store.Fault Bool
  deriving Repr

def writeLogged (store : Store) (path : Path) (content : List Char) (atomic : Bool) :
    Store.Written Nat × Log :=
  let w := store.writeText path content atomic
  (w, match w.result with
    | .ok size => [⟨.debug, filesSource,
        "Wrote " ++ toString size ++ " bytes to " ++ path.text⟩]
    | .error _ => [])

/-- What the file at `path` holds, for comparison with a new content; nothing when a rewrite is
forced or no file is there. -/
def heldText (store : Store) (path : Path) (force : Bool) :
    Except Store.Fault (Option (List Char)) := do
  if force then return none
  else if ← (store.isFile path).mapError .refused then return some (← store.readText path)
  else return none

/-- Writes a text, unless the file holds the same one and no rewrite is forced. -/
def writeIfChanged (store : Store) (path : Path) (content : List Char) (force : Bool) :
    WriteOutcome :=
  let info (message : String) : LogEntry := ⟨.info, filesSource, message⟩
  match heldText store path force with
  | .error f => ⟨store, [], .error f⟩
  | .ok held =>
    if held = some content then
      ⟨store, [info ("Unchanged, skipped: " ++ path.text)], .ok false⟩
    else
      let (w, log) := writeLogged store path content true
      match w.result with
      | .ok _ => ⟨w.store, log ++ [info ("Wrote " ++ path.text)], .ok true⟩
      | .error e => ⟨w.store, log, .error (.refused e)⟩

/-- Fails to write a text that has no encoding. This shows when it is compared with what the file
holds, or when the directories on the way are made. -/
def failToEncode (store : Store) (path : Path) (force : Bool) : WriteOutcome :=
  match heldText store path force with
  | .error f => ⟨store, [], .error f⟩
  | .ok (some _) => ⟨store, [], .error .unencodable⟩
  | .ok none =>
    let made := store.makeDirectories path.parent
    match made.result with
    | .ok _ => ⟨made.store, [], .error .unencodable⟩
    | .error e => ⟨made.store, [], .error (.refused e)⟩

def writeDocument (store : Store) (c : Configuration) (output : Loose) (rendered : String) :
    WriteOutcome :=
  let path := Path.ofText output.fileName
  if c.isEncodable then writeIfChanged store path rendered.toList c.force
  else failToEncode store path c.force

/-- A report after its document was to be written, and whether it was. A failure that no report
can record is an error. -/
structure Emission where
  report : Report
  store : Store
  log : Log := []
  result : Except Store.Fault Bool := .ok false
  deriving Repr

/-- The refusal that a report records, if a failure is one. -/
def recorded? : Store.Fault → Option Refusal
  | .refused .unusable | .undecodable _ | .unencodable => none
  | .refused e => some e

def Report.recordWrite (r : Report) (output : String) (result : Except Refusal Bool) : Report :=
  let r := match result with
    | .ok written => { r with written, skipped := !written && r.success }
    | .error e => { r with
        written := false
        skipped := false
        success := false
        failures := r.failures ++ ["Cannot write " ++ output ++ ": " ++ e.message] }
  r.addStep "Write Output" r.success
    (if r.written then "written" else if r.skipped then "unchanged" else "failed")

def emit (store : Store) (r : Report) (c : Configuration) : Emission :=
  match r.rendered, c.output? with
  | some rendered, some output =>
    let name := (Path.ofText output.shown).text
    let r := { r with outputFile := name }
    let w := writeDocument store c output rendered
    let log := w.log ++ [clockEntry "emit"]
    let done (result : Except Refusal Bool) : Emission :=
      ⟨r.recordWrite name result, w.store, log, .ok (result.toOption.getD false)⟩
    match w.result with
    | .ok written => done (.ok written)
    | .error f => match recorded? f with
      | some e => done (.error e)
      | none => ⟨r, w.store, log, .error f⟩
  | _, _ => { report := r, store }

end EntitySchema.Compile

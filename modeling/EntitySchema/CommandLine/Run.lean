import EntitySchema.CommandLine.Arguments
import EntitySchema.Compile.Emit
import EntitySchema.Settings.Load

/-! A run of the command line on a store of files: what it writes to its outputs, what becomes of the
files, and how it ends. -/
namespace EntitySchema.CommandLine

open Compile (Report)
open Files (Path Store)
open Text (Loose)

def runSource : String := "jdlschema"

/-- A standard output, by the halves of surrogate pairs that its error handler lets through. -/
structure Console where
  admits : Fin 2048 → Bool

namespace Console

def strict : Console := ⟨fun _ => false⟩

def takes (console : Console) (t : Loose) : Bool :=
  t.all fun
    | .char _ => true
    | .half n => console.admits n

/-- Whether all words of the overrides can be printed. A report on the checks has those with halves,
as words that name no entity. -/
def takesWords (console : Console) (c : Configuration) : Bool := c.words.all console.takes

def takesDocument (console : Console) (c : Configuration) : Bool :=
  c.isEncodable || c.overrides.all fun o => console.takes o.1 && console.takes o.2

end Console

inductive Exit where
  | success
  | checkError
  | misuse
  | noDocument
  | writeError
  | inputError
  deriving DecidableEq, Repr

def Exit.code : Exit → Nat
  | .success => 0
  | .checkError => 1
  | .misuse | .noDocument => 2
  | .writeError => 3
  | .inputError => 4

/-- An item `WORD=PLURAL`, the word not blank. -/
def pluralOverride? (item : String) : Option (String × String) :=
  match splitValue item.toList with
  | (word, some plural) =>
    if Text.trim word = [] then none
    else some (String.ofList (Text.trim word), String.ofList (Text.trim plural))
  | (_, none) => none

/-- Why items are no overrides: the first that is none, or that is no text. -/
inductive OverrideFault where
  | invalid (item : String)
  | noText (kind : String)
  deriving DecidableEq, Repr

def OverrideFault.message : OverrideFault → String
  | .invalid item => "Invalid plural override '" ++ item ++ "'. Expected WORD=PLURAL."
  | .noText kind => "'" ++ kind ++ "' object has no attribute 'partition'"

def pluralOverrides (items : List Value) : Except OverrideFault (Dict String) :=
  items.foldlM (fun d item => match item with
    | .text s => match pluralOverride? s with
      | some (word, plural) => .ok (d.insert word plural)
      | none => .error (.invalid s)
    | v => .error (.noText v.kind)) .empty

/-- What ends a run without an exit code. -/
inductive Crash where
  | settings (f : Settings.LoadFault)
  | store (f : Store.Fault)
  | overrides (f : OverrideFault)
  /-- The standard output does not take what is printed. -/
  | unprintable
  deriving Repr

def Crash.message : Crash → String
  | .settings f => f.message
  | .store f => f.message
  | .overrides f => f.message
  | .unprintable => Store.Fault.unencodable.message

inductive Message where
  | log (e : LogEntry)
  | text (s : String)
  deriving Repr

structure Outcome where
  store : Store
  exit : Except Crash Exit
  output : String := ""
  messages : List Message := []
  /-- The least weight of log entries that are shown. -/
  threshold : Nat := 0
  deriving Repr

/-- The error output: log entries of sufficient weight, stamped with the time of day, and texts. -/
def Outcome.errorText (time : String) (o : Outcome) : String :=
  String.join <| o.messages.map fun m => match m with
    | .log e => if o.threshold ≤ e.level.weight then e.line time ++ "\n" else ""
    | .text s => s

namespace Arguments

/-- Least weight of the log entries that are shown: errors when quiet, warnings, information with
one request for more, and all with two. -/
def threshold (a : Arguments) : Nat :=
  if a.quiet then LogLevel.error.weight
  else match a.verbose with
    | 0 => LogLevel.warning.weight
    | 1 => LogLevel.info.weight
    | _ => LogLevel.debug.weight

def showsInfo (a : Arguments) : Bool := !a.quiet && a.verbose != 0

def overrides (a : Arguments) (plurals : Dict String) : Value :=
  let given (s : Setting) (v : Option Value) : List (Value × Value) :=
    (v.map fun v => (Value.text s.name, v)).toList
  .mapping <| given .jdlFile (a.jdlFile.map .text) ++ given .outputFile a.output ++
    given .outputFormat a.format ++ given .payloadMode a.payloadMode ++
    given .force (if a.force then some (.bool true) else none) ++
    given .pluralOverrides (if plurals.isEmpty then none
      else some (.ofDictEntries (plurals.entries.map fun e => (e.1, .text e.2))))

def configFile? (a : Arguments) : Option Path :=
  match a.config with
  | some (.text s) => if s = "" then none else some (Path.ofText s)
  | _ => none

end Arguments

/-- How a run ends whose settings cannot be had: it reports an error and exits, or crashes. -/
inductive SettingsFault where
  | reported (message : String)
  | crash (c : Crash)
  deriving Repr

/-- Whether a run reports that its settings do not load: files that are not there and unusable values
are reported, and a value of the wrong kind ends the run. -/
def isReported : Settings.LoadFault → Bool
  | .unusable (.invalid _) | .unusable (.noEntries (.wrongLength _ _)) => true
  | .unusable _ => false
  | .noValue f => f.isOfValue
  | .notRead (.tooDeep _) => false
  | .unreadable (.refused (.notFound _)) => true
  | .unreadable (.refused _) => false
  | _ => true

def loadSettings (store : Store) (working : Path) (a : Arguments) :
    Except SettingsFault Settings × Log :=
  match pluralOverrides a.pluralOverrides with
  | .error (.invalid item) => (.error (.reported (OverrideFault.invalid item).message), [])
  | .error f => (.error (.crash (.overrides f)), [])
  | .ok plurals =>
    let (settings, log) := Settings.load store a.configFile? working (a.overrides plurals)
    (settings.mapError fun f =>
      if isReported f then .reported f.message else .crash (.settings f), log)

def logAll (log : Log) : List Message := log.map .log

def errorLine (message : String) : Message := .log ⟨.error, runSource, message⟩

def infoLine (message : String) : Message := .log ⟨.info, runSource, message⟩

/-- Parses and checks the input and reports on it; nothing is written to files. -/
def runCheck (store : Store) (report : Report) (c : Configuration) (showInfo : Bool)
    (console : Console) : Outcome :=
  if report.failures ≠ [] then
    { store, exit := .ok .inputError, messages := report.failures.map errorLine }
  else if !console.takesWords c then { store, exit := .error .unprintable }
  else
    let checks := (report.validation.map fun d => [d.report showInfo]).getD []
    { store
      exit := .ok (if report.validationErrors = [] then .success else .checkError)
      output := lines (checks ++ report.parseWarnings.map ("  " ++ ·)) }

def exitOf (report : Report) : Exit :=
  if report.success then .success
  else if report.validationErrors ≠ [] then .checkError
  else if report.failures ≠ [] then if report.rendered.isSome then .writeError else .inputError
  else .noDocument

def runCompile (store : Store) (report : Report) (c : Configuration) (showReport : Bool)
    (console : Console) : Outcome :=
  let emission : Compile.Emission :=
    if report.success && c.output?.isSome then Compile.emit store report c
    else { report, store }
  let isPrinted := report.success && c.output?.isNone
  let messages := logAll emission.log
  if isPrinted && !console.takesDocument c then { store, exit := .error .unprintable, messages }
  else
    let output := if isPrinted then report.rendered.getD "" else ""
    match emission.result with
    | .error f => { store := emission.store, exit := .error (.store f), output, messages }
    | .ok _ =>
      let summary := if showReport then [.text (emission.report.summary ++ "\n")] else []
      let exit := exitOf emission.report
      let verdict := if exit = .success then infoLine "Compilation completed successfully."
        else errorLine ("Compilation failed with exit code " ++ toString exit.code ++ ".")
      { store := emission.store, exit := .ok exit, output
        messages := messages ++ summary ++ [verdict] }

def Outcome.after (o : Outcome) (messages : List Message) : Outcome :=
  { o with messages := messages ++ o.messages }

/-- A run on an input file that is there. -/
def runOn (store : Store) (a : Arguments) (c : Configuration) (input : Path)
    (console : Console) : Outcome :=
  match Compile.compileFile store input c true with
  | .error r => { store, exit := .error (.store (.refused r)) }
  | .ok (report, log) =>
    let o := if a.check then runCheck store report c a.showsInfo console
      else runCompile store report c a.report console
    o.after (.log (Compile.readyEntry true) :: logAll log)

def runWith (store : Store) (a : Arguments) (settings : Settings) : Outcome :=
  match settings.jdlFile.filter (· != "") with
  | none =>
    { store
      exit := .ok .inputError
      messages := [errorLine "No JDL file given. Pass JDL_FILE or set 'jdlFile' in the config.",
        .text usage] }
  | some file =>
    let input := Path.ofText file
    match store.isFile input with
    | .error r => { store, exit := .error (.store (.refused r)) }
    | .ok false =>
      { store
        exit := .ok .inputError
        messages := [errorLine ("JDL file not found: " ++ input.text)] }
    | .ok true =>
      let output := (settings.output?).getD "<stdout>"
      (runOn store a settings input .strict).after [infoLine ("JDL:     " ++ input.text),
        infoLine ("Output:  " ++ output), infoLine ("Format:  " ++ settings.shownFormat)]

def run (store : Store) (working : Path) (words : List String) : Outcome :=
  match Arguments.read words with
  | .error .help => { store, exit := .ok .success, output := help }
  | .error .version => { store, exit := .ok .success, output := versionText }
  | .error (.misuse m) =>
    { store
      exit := .ok .misuse
      messages := [.text (usage ++ programName ++ ": error: " ++ m.message ++ "\n")] }
  | .ok a =>
    let (settings, log) := loadSettings store working a
    let o := match settings with
      | .ok settings => runWith store a settings
      | .error (.reported message) =>
        { store, exit := .ok .inputError, messages := [errorLine message] }
      | .error (.crash c) => { store, exit := .error c }
    { o.after (logAll log) with threshold := a.threshold }

end EntitySchema.CommandLine

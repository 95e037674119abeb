import EntitySchema.Files.Store
import EntitySchema.Json.Read
import EntitySchema.Settings.Merge
import EntitySchema.Yaml.Read

/-! Settings from files. Without a file of their own, runs look for one of two default names. -/
namespace EntitySchema.Settings

open Files (Path Refusal Store)

/-- The names of configuration files that are looked for, the first before the second. -/
def defaultNames : List String := ["jdlschema.config.yaml", "jdlschema.config.yml"]

def find? (store : Store) (directory : Path) : Except Refusal (Option Path) :=
  (defaultNames.map directory.child).findM? store.isFile

inductive LoadFault where
  | notFound (path : Path)
  | notFile (path : Path)
  | unreadable (f : Store.Fault)
  | invalidYaml (path : Path)
  | invalidJson (path : Path)
  /-- The text is YAML, but some part of it has no value. -/
  | noValue (f : Yaml.Fault)
  /-- The text may be JSON, but is not read. -/
  | notRead (f : Json.Fault)
  | noYamlMapping (kind : String)
  | noJsonMapping (kind : String)
  | unusable (f : Fault)
  deriving DecidableEq, Repr

namespace LoadFault

def message : LoadFault → String
  | notFound p => "Config file not found: " ++ p.text
  | notFile p => "Config path is not a file: " ++ p.text
  | unreadable f => f.message
  | invalidYaml p => "Invalid YAML in " ++ p.text
  | invalidJson p => "Invalid JSON in " ++ p.text
  | noValue f => f.message
  | notRead f => f.message
  | noYamlMapping kind => "Expected a YAML mapping at top level, got " ++ kind ++ "."
  | noJsonMapping kind => "Expected a JSON object at top level, got " ++ kind ++ "."
  | unusable f => f.message

end LoadFault

/-- The entries of a YAML file; an empty one has none. -/
def readYaml (path : Path) (text : List Char) : Except LoadFault (List (Value × Value)) :=
  match Yaml.read text with
  | .ok .null => .ok []
  | .ok v => match v.untied with
    | .mapping m => .ok m
    | v => .error (.noYamlMapping v.kind)
  | .error (.offence _) => .error (.invalidYaml path)
  | .error f => .error (.noValue f)

def readJson (path : Path) (text : List Char) : Except LoadFault (List (Value × Value)) :=
  match Json.read text with
  | .ok (.mapping m) => .ok m
  | .ok v => .error (.noJsonMapping v.kind)
  | .error .offence => .error (.invalidJson path)
  | .error f => .error (.notRead f)

/-- The entries of a configuration file, which is YAML unless its name ends in `.json`. -/
def readFile (store : Store) (path : Path) : Except LoadFault (List (Value × Value)) := do
  let refused {α : Type} (a : Except Refusal α) : Except LoadFault α :=
    a.mapError fun r => .unreadable (.refused r)
  if !(← refused (store.exists path)) then throw (.notFound path)
  if !(← refused (store.isFile path)) then throw (.notFile path)
  let text ← (store.readText path).mapError .unreadable
  if Text.lowered path.suffix == ".json" then readJson path text else readYaml path text

def loadFile (store : Store) (path : Path) : Except LoadFault (List (Value × Value)) × Log :=
  match readFile store path with
  | .ok raw => (.ok (flatten raw), [⟨.info, configSource, "Using config: " ++ path.text⟩])
  | .error f => (.error f, [])

/-- The entries of the given file, or of the default file of a directory if it has one. -/
def loadAny (store : Store) (file : Option Path) (directory : Path) :
    Except LoadFault (List (Value × Value)) × Log :=
  match file.elim (find? store directory) (.ok ∘ some) with
  | .error r => (.error (.unreadable (.refused r)), [])
  | .ok (some path) => loadFile store path
  | .ok none => (.ok [], [⟨.debug, configSource, "No config file found — using defaults."⟩])

def load (store : Store) (file : Option Path) (directory : Path) (overrides : Value) :
    Except LoadFault Settings × Log :=
  match loadAny store file directory with
  | (.error f, log) => (.error f, log)
  | (.ok raw, log) =>
    let (settings, more) := build (.mapping raw) overrides
    (settings.mapError .unusable, log ++ more)

end EntitySchema.Settings

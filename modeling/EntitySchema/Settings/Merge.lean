import EntitySchema.Log
import EntitySchema.Settings.Decode
import EntitySchema.Value.Entries

/-! Settings from a configuration file and from the command line, the latter winning. Keys may sit
at the top level or in a section `project`; top-level keys win. -/
namespace EntitySchema.Settings

open Decode (Problem)

def configSource : String := "jdlschema.config"

/-- The entries with those of the section `project` beneath them. -/
def flatten (raw : List (Value × Value)) : List (Value × Value) :=
  let nested := match (Value.find? (.text "project") raw).map Value.untied with
    | some (.mapping m) => m
    | _ => []
  let isSection (k : Value) := match k with
    | .text s => s == "project"
    | _ => false
  (raw.filter fun e => !isSection e.1).foldl (fun m e => Value.put e.1 e.2 m) nested

/-- The values by setting; of two spellings of one setting the later counts. Other keys are dropped
and noted. -/
def normalize (raw : List (Value × Value)) : Dict Value × Log :=
  raw.foldl (fun (acc : Dict Value × Log) e =>
    let spelling := e.1.display
    match Setting.ofSpelling? spelling with
    | some setting => (acc.1.insert setting.name e.2, acc.2)
    | none => (acc.1, acc.2 ++
      [⟨.debug, configSource, "Ignoring unknown config key '" ++ spelling ++ "'."⟩])) (.empty, [])

inductive Fault where
  | invalid (problems : List Problem)
  /-- A mapping is asked for its entries, or for one of them, and there is none. -/
  | noMapping (kind member : String)
  | noEntries (f : Value.EntriesFault)
  deriving DecidableEq, Repr

def Fault.message : Fault → String
  | .invalid _ => "Config validation failed"
  | .noMapping kind member => "'" ++ kind ++ "' object has no attribute '" ++ member ++ "'"
  | .noEntries f => f.message

def mapping (member : String) (v : Value) : Except Fault (List (Value × Value)) :=
  match v.untied with
  | .mapping m => .ok m
  | v => .error (.noMapping v.qualifiedKind member)

def mappingIfAny (v : Value) : Except Fault (List (Value × Value)) :=
  if v.truthy then mapping "items" v else .ok []

/-- Merges the plural overrides of both sides; the others win word by word. -/
def mergePlurals (data : Dict Value) (extra : Value) : Except Fault (Dict Value) := do
  let raw := (data.get? Setting.pluralOverrides.name).getD .null
  let base ← if raw.truthy then (Value.entries? raw).mapError .noEntries else .ok []
  let merged ← (Value.addEntries base extra).mapError .noEntries
  return data.insert Setting.pluralOverrides.name (.mapping merged)

/-- The settings from two sides, of which the second wins. -/
def merge (data extra : Dict Value) : Except Fault Settings := do
  let isPlurals (e : String × Value) : Bool := e.1 == Setting.pluralOverrides.name
  let others := (extra.entries.filter (!isPlurals ·)).foldl (fun d e => d.insert e.1 e.2) data
  let merged ← match extra.get? Setting.pluralOverrides.name with
    | some v => if v.truthy then mergePlurals others v else .ok others
    | none => .ok others
  (ofEntries (merged.entries.map fun e => (.text e.1, e.2))).mapError .invalid

/-- The settings from two mappings, of which the second wins; null in it counts as absent. -/
def build (raw overrides : Value) : Except Fault Settings × Log :=
  match mappingIfAny raw with
  | .error f => (.error f, [])
  | .ok raw =>
    let (data, log) := normalize raw
    match mappingIfAny overrides with
    | .error f => (.error f, log)
    | .ok overrides =>
      let (extra, more) := normalize <| overrides.filter fun e => match e.2 with
        | .null => false
        | _ => true
      (merge data extra, log ++ more)

end EntitySchema.Settings

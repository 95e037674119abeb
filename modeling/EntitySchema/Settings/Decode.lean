import EntitySchema.Decode.Record
import EntitySchema.Decode.Scalar
import EntitySchema.Settings.Basic

/-! Settings as plain data. Every setting has a default, so decoding is a run of assignments. -/
namespace EntitySchema

open Decode (Checked Key Problem)

inductive Setting where
  | jdlFile
  | outputFile
  | outputFormat
  | pluralOverrides
  | payloadMode
  | force
  | indent
  deriving DecidableEq, Repr

namespace Setting

/-- All settings, in the order in which problems with them are reported. -/
def all : List Setting :=
  [.jdlFile, .outputFile, .outputFormat, .pluralOverrides, .payloadMode, .force, .indent]

def key : Setting → Key
  | .jdlFile => ⟨"jdl_file", "jdlFile"⟩
  | .outputFile => ⟨"output_file", "outputFile"⟩
  | .outputFormat => ⟨"output_format", "outputFormat"⟩
  | .pluralOverrides => ⟨"plural_overrides", "pluralOverrides"⟩
  | .payloadMode => ⟨"relationship_payload_mode", "relationshipPayloadMode"⟩
  | .force => ⟨"force", "force"⟩
  | .indent => ⟨"indent", "indent"⟩

def name (s : Setting) : String := s.key.name

def ofName? (name : String) : Option Setting := all.find? (·.name == name)

def ofSpelling? (spelling : String) : Option Setting :=
  all.find? fun s => s.key.spellings.contains spelling

/-- The text that a word or plural is given as, which may be no text that can be written. -/
def overrideText : Value → Value
  | .broken codes => .broken codes
  | v => .text v.display

def readOverride (e : Value × Value) : Checked (String × String) :=
  let word : Checked String := Checked.below (.key "[key]") (.ofComplaint (Decode.text e.1))
  Checked.below (Decode.stepTo e.1) <|
    Checked.ap (word.map Prod.mk) (.ofComplaint (Decode.text e.2))

/-- Words and their plurals, which may be any values: their texts count. Null stands for none. -/
def readOverrides (v : Value) : Checked (Dict String) :=
  match v.untied with
  | .null => .ok .empty
  | .mapping m =>
    let plural (v : Value) : Value := match v with
      | .null => .text ""
      | v => overrideText v
    let texts := Value.ofEntries (m.map fun e => (overrideText e.1, plural e.2))
    (Checked.mapAll readOverride texts).map Dict.ofList
  | _ => .error [⟨[], .mappingExpected⟩]

def assign (setting : Setting) (v : Value) (s : Settings) : Checked Settings :=
  let decoded {α : Type} (decode : Decode.Scalar α) (set : α → Settings) : Checked Settings :=
    .ofComplaint ((decode v).map set)
  match setting with
  | .jdlFile => decoded (Decode.optional Decode.text) fun x => { s with jdlFile := x }
  | .outputFile => decoded (Decode.optional Decode.text) fun x => { s with outputFile := x }
  | .outputFormat =>
    decoded (Decode.choice Format.name Format.all) fun x => { s with askedFormat := some x }
  | .pluralOverrides => (readOverrides v).map fun x => { s with pluralOverrides := x }
  | .payloadMode =>
    decoded (Decode.choice PayloadMode.name PayloadMode.all) fun x => { s with payloadMode := x }
  | .force => decoded Decode.flag fun x => { s with force := x }
  | .indent => decoded (Decode.bounded 8) fun x => { s with indent := x }

end Setting

namespace Settings

/-- Assigns a value to a setting that is known by name. Names with an underscore in front are free
for notes, which no one reads. -/
def assign (s : Settings) (name : String) (v : Value) : Checked Settings :=
  Checked.below (.key name) <|
    match Setting.ofName? name with
    | some setting => setting.assign v s
    | none =>
      if name.toList.head? = some '_' then .ok s
      else .ofComplaint (.error (.unknownAttribute name))

/-- Assigns the values that a mapping has for the given settings, and collects all problems. -/
def assignAll (m : List (Value × Value)) : List Setting → Settings → Settings × List Problem
  | [], s => (s, [])
  | setting :: r, s =>
    match setting.key.find? m with
    | none => assignAll m r s
    | some (spelling, v) =>
      match Checked.below (.key spelling) (setting.assign v s) with
      | .ok s => assignAll m r s
      | .error found =>
        let (s, ps) := assignAll m r s
        (s, found ++ ps)

def ofEntries (m : List (Value × Value)) : Checked Settings :=
  let (s, problems) := assignAll m Setting.all {}
  match problems ++ Decode.extras (Setting.all.map Setting.key) m with
  | [] => .ok s
  | ps => .error ps

def ofValue (v : Value) : Checked Settings :=
  match v.untied with
  | .mapping m => ofEntries m
  | _ => .error [⟨[], .modelExpected "GeneratorConfig"⟩]

end Settings

end EntitySchema

import EntitySchema.Json.Write
import EntitySchema.Noun
import EntitySchema.Relationship.Inverse
import EntitySchema.Schema.Decode
import EntitySchema.Settings.Configuration
import EntitySchema.Value.Entries
import EntitySchema.Yaml.Write

/-! Output documents: a schema with its relationship fields annotated, a resource path for each
entity, and the options that are passed on to renderers. -/
namespace EntitySchema

/-- The entry of a field: the field itself, then what is known of it as the end of a
relationship. -/
def RelationshipEnd.entry (s : Schema) (e : RelationshipEnd) : Value :=
  .ofDictEntries (e.field.entries ++ e.metadata s)

namespace Schema

def resourcePath (overrides : Dict String) (entity : String) : String :=
  "/" ++ String.ofList (Noun.resource (Noun.Override.ofDict overrides) entity.toList)

def resources (s : Schema) (overrides : Dict String) : List (String × String) :=
  s.entities.keys.map fun entity => (entity, resourcePath overrides entity)

def documentWith (s : Schema) (resources overrides : Value) (payloadMode : PayloadMode) :
    List (String × Value) :=
  [("entities", .ofDictEntries (s.entities.keys.map fun entity =>
      (entity, .list ((s.ends entity).map fun e => e.entry s)))),
    ("enums", .ofDictEntries (s.enums.entries.map fun e => (e.1, .list (e.2.map .text)))),
    ("resources", resources),
    ("options", .ofDictEntries [("pluralOverrides", overrides),
      ("relationshipPayloadMode", .text payloadMode.name)])]

def document (s : Schema) (settings : Settings) : List (String × Value) :=
  let texts (d : List (String × String)) : Value :=
    .ofDictEntries (d.map fun e => (e.1, .text e.2))
  s.documentWith (texts (s.resources settings.pluralOverrides))
    (texts settings.pluralOverrides.entries) settings.payloadMode

end Schema

namespace Configuration

open Text (Loose)

def resourcePath (c : Configuration) (entity : String) : Loose :=
  .ofString "/" ++ match c.override? entity with
    | some plural => plural.lower
    | none => .ofChars (Noun.resource [] entity.toList)

def document (c : Configuration) (s : Schema) : List (String × Value) :=
  s.documentWith
    (.ofDictEntries (s.entities.keys.map fun entity => (entity, .ofLoose (c.resourcePath entity))))
    (.mapping (c.overrides.map fun o => (.ofLoose o.1, .ofLoose o.2))) c.payloadMode

end Configuration

namespace Format

def ofValue? (v : Value) : Option Format := ofName? (Text.lowered v.display)

def unknownMessage (v : Value) : String := "Unknown output format: " ++ v.literal

/-- A mapping as a text in the given format, with a line feed at its end. JSON without an indent
stands on one line. -/
def render (f : Format) (indent : Int) (document : List (Value × Value)) : String :=
  match f with
  | .json => Json.text indent.toNat (.mapping document) ++ "\n"
  | .yaml => Yaml.documentText indent document

/-- Any value as a text in the given format. In YAML it must be made of entries. -/
def renderValue (f : Format) (indent : Int) (v : Value) : Except Value.EntriesFault String :=
  match f with
  | .json => .ok (Json.text indent.toNat v ++ "\n")
  | .yaml => v.entries?.map (Yaml.documentText indent)

end Format

end EntitySchema

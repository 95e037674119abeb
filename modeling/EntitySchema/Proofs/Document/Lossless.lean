import EntitySchema.Proofs.Schema.RoundTrip

/-! A document keeps all of its schema. Without what is added to relationship fields its first two
keys are the schema's own mapping (`schemaPart_document`), from which the schema is decoded
(`document_lossless`). -/
namespace EntitySchema

def Value.without (keys : List String) : Value → Value
  | .mapping entries => .mapping (entries.filter fun e => !keys.any fun k => e.1.sameKey (.text k))
  | v => v

theorem Value.without_ofDictEntries (keys : List String) (l : List (String × Value)) :
    (Value.ofDictEntries l).without keys = .ofDictEntries (l.filter fun e => !keys.contains e.1) := by
  have hkey : (fun e : String × Value => !keys.any fun k => (Value.text e.1).sameKey (.text k)) =
      fun e => !keys.contains e.1 := by
    funext e
    simp only [Value.sameKey_text, List.contains_eq_any_beq]
  rw [ofDictEntries, without, List.filter_map, Function.comp_def, hkey]
  rfl

namespace Document

def annotationKeys : List String := ["relKind", "isCollection", "cardinality", "inverse"]

def bareFields : Value → Value
  | .list items => .list (items.map (Value.without annotationKeys))
  | v => v

def bareEntities : Value → Value
  | .mapping entities => .mapping (entities.map fun e => (e.1, bareFields e.2))
  | v => v

/-- The entities and enumerations of a document, without what was added to the fields. -/
def schemaPart (document : List (String × Value)) : Value :=
  .ofDictEntries <| document.filterMap fun e =>
    if e.1 = "entities" then some (e.1, bareEntities e.2)
    else if e.1 = "enums" then some e else none

end Document

namespace RelationshipEnd

/-- What is added to a field is all under keys of its own, and is gone without these. -/
theorem entry_without_annotations (s : Schema) (e : RelationshipEnd) :
    (e.entry s).without Document.annotationKeys = e.field.toValue := by
  have hkept : e.field.entries.filter (fun p => !Document.annotationKeys.contains p.1) =
      e.field.entries := by
    refine List.filter_eq_self.mpr fun p hp => ?_
    have hown := e.field.keys_entries_sublist.subset (List.mem_map_of_mem hp)
    exact (by decide : ∀ k ∈ Field.keys.map Decode.Key.camel,
      (!Document.annotationKeys.contains k) = true) p.1 hown
  have hadded : (e.metadata s).filter (fun p => !Document.annotationKeys.contains p.1) = [] := by
    refine List.filter_eq_nil_iff.mpr fun p hp => ?_
    have hkey : Document.annotationKeys.contains p.1 = true :=
      List.contains_iff_mem.mpr (key_of_mem_metadata hp)
    rw [hkey]
    decide
  rw [entry, Value.without_ofDictEntries, List.filter_append, hkept, hadded, List.append_nil]
  rfl

end RelationshipEnd

namespace Schema

variable (s : Schema)

/-- The ends of an entity are its fields, in order. -/
theorem map_field_ends (entity : String) :
    (s.ends entity).map RelationshipEnd.field = s.fields entity := by
  rw [ends, List.map_map]
  exact List.zipIdx_map_fst 0 _

theorem ends_without_annotations (entity : String) :
    (s.ends entity).map (fun e => (e.entry s).without Document.annotationKeys) =
      (s.fields entity).map Field.toValue := by
  rw [← s.map_field_ends, List.map_map]
  exact List.map_congr_left fun e _ => e.entry_without_annotations s

/-- The entities of a document, without what was added, are those of the schema's mapping. -/
theorem bareEntities_document :
    Document.bareEntities (.ofDictEntries (s.entities.keys.map fun entity =>
      (entity, .list ((s.ends entity).map fun e => e.entry s)))) =
      .ofDictEntries (s.entities.entries.map fun e => (e.1, .list (e.2.map Field.toValue))) := by
  have hfields (e : String × List Field) (he : e ∈ s.entities.entries) : s.fields e.1 = e.2 := by
    rw [fields, (s.entities.mem_entries_iff e.1 e.2).mp he, Option.getD_some]
  simp only [Value.ofDictEntries, Document.bareEntities, Document.bareFields, Dict.keys,
    List.map_map, Function.comp_def]
  congr 1
  refine List.map_congr_left fun e he => ?_
  rw [s.ends_without_annotations, hfields e he]

/-- The part of a document that stands for the schema is the schema's mapping. -/
theorem schemaPart_document (settings : Settings) :
    Document.schemaPart (s.document settings) = s.toValue := by
  have hpart : Document.schemaPart (s.document settings) = .ofDictEntries
      [("entities", Document.bareEntities (.ofDictEntries (s.entities.keys.map fun entity =>
          (entity, .list ((s.ends entity).map fun e => e.entry s))))),
        ("enums", .ofDictEntries (s.enums.entries.map fun e => (e.1, .list (e.2.map .text))))] := rfl
  rw [hpart, s.bareEntities_document]
  rfl

/-- A document has four keys in a fixed order. Without what was added to its fields, its entities are
those of the schema's mapping; each field is decoded from its entry, and the schema from the whole,
with everything in its order. -/
theorem document_lossless (settings : Settings) :
    (s.document settings).map Prod.fst = ["entities", "enums", "resources", "options"] ∧
      ((s.document settings).lookup "entities").map Document.bareEntities =
        s.toValue.at? "entities" ∧
      (∀ entity, ((Document.fields (s.document settings) entity).map fun v =>
        Field.ofValue (v.without Document.annotationKeys)) = (s.fields entity).map .ok) ∧
      ofValue (Document.schemaPart (s.document settings)) = .ok s := by
  refine ⟨rfl, ?_, fun entity => ?_, ?_⟩
  · rw [toValue, Value.at?_ofDictEntries, ← s.bareEntities_document]
    rfl
  · have hdecoded : (s.ends entity).map (fun e =>
        Field.ofValue ((e.entry s).without Document.annotationKeys)) =
        ((s.ends entity).map fun e =>
          (e.entry s).without Document.annotationKeys).map Field.ofValue := by
      rw [List.map_map, Function.comp_def]
    rw [Document.fields_document, List.map_map, Function.comp_def, hdecoded,
      s.ends_without_annotations, List.map_map]
    exact List.map_congr_left fun f _ => f.ofValue_toValue
  · rw [schemaPart_document, ofValue_toValue]

end Schema

end EntitySchema

import EntitySchema.Document
import EntitySchema.Proofs.Relationship.Inverse
import EntitySchema.Proofs.Value.Entries

/-! What a document says. Looking a place of the schema up in the document gives the entry of the
field there (`entryAt?_document`), and the entry gives back what the schema has. -/
namespace EntitySchema

theorem Cardinality.name_injective : Function.Injective name := by
  intro c c' h
  cases c <;> cases c' <;> first | rfl | simp [name] at h

def Value.at? (key : String) : Value → Option Value
  | .mapping entries => Value.find? (.text key) entries
  | _ => none

theorem Value.at?_ofDictEntries (key : String) (l : List (String × Value)) :
    (Value.ofDictEntries l).at? key = l.lookup key :=
  Value.find?_text key l

theorem lookup_toList_map {α : Type} (o : Option α) (key k : String) (value : α → Value) :
    (o.map fun x => (key, value x)).toList.lookup k = if k = key then o.map value else none := by
  cases o <;> simp [lookup_cons_if]

namespace Document

def fields (document : List (String × Value)) (entity : String) : List Value :=
  match (document.lookup "entities").bind (Value.at? entity) with
  | some (.list items) => items
  | _ => []

def entryAt? (document : List (String × Value)) (p : Place) : Option Value :=
  (fields document p.entity)[p.index]?

theorem fields_document (s : Schema) (settings : Settings) (entity : String) :
    fields (s.document settings) entity = (s.ends entity).map (·.entry s) := by
  have hentities : ((s.document settings).lookup "entities").bind (Value.at? entity) =
      (s.entities.keys.map fun k => (k, Value.list ((s.ends k).map (·.entry s)))).lookup entity :=
    Value.at?_ofDictEntries entity _
  rw [fields, hentities, lookup_map (fun k => k) fun k => Value.list ((s.ends k).map (·.entry s))]
  cases hfind : s.entities.keys.find? (· == entity) with
  | some k =>
    have hk : k = entity := by simpa using List.find?_some hfind
    rw [Option.map_some, hk]
  | none =>
    have h : entity ∉ s.entities.keys := fun hk => by simpa using List.find?_eq_none.mp hfind entity hk
    rw [Option.map_none, Schema.ends, Schema.fields_of_not_mem h]
    rfl

theorem entryAt?_document (s : Schema) (settings : Settings) (p : Place) :
    entryAt? (s.document settings) p = (s.end? p).map (·.entry s) := by
  rw [entryAt?, fields_document, List.getElem?_map, Schema.getElem?_ends]

end Document

namespace RelationshipEnd

theorem key_of_mem_metadata {s : Schema} {e : RelationshipEnd} {p : String × Value}
    (h : p ∈ e.metadata s) : p.1 ∈ ["relKind", "isCollection", "cardinality", "inverse"] := by
  unfold RelationshipEnd.metadata at h
  split at h
  · simp only [List.mem_append, List.mem_cons, List.not_mem_nil, or_false, Option.mem_toList,
      Option.map_eq_some_iff] at h
    rcases h with (rfl | rfl | rfl) | ⟨g, -, rfl⟩ <;> simp
  · simp at h

variable (s : Schema) (e : RelationshipEnd)

theorem at?_entry (key : String) :
    (e.entry s).at? key = (e.field.entries.lookup key).or ((e.metadata s).lookup key) := by
  rw [entry, Value.at?_ofDictEntries, List.lookup_append]

/-- The keys of the field itself are not among those added to it. -/
theorem at?_entry_of_not_mem {key : String}
    (h : key ∉ ["relKind", "isCollection", "cardinality", "inverse"]) :
    (e.entry s).at? key = e.field.entries.lookup key := by
  have hnone : (e.metadata s).lookup key = none := by
    rw [← Option.not_isSome_iff_eq_none, lookup_isSome_iff, List.mem_map]
    rintro ⟨p, hp, rfl⟩
    exact h (key_of_mem_metadata hp)
  rw [at?_entry, hnone, Option.or_none]

theorem at?_name : (e.entry s).at? "name" = some (.text e.field.name) := by
  simp [at?_entry_of_not_mem, Field.entries]

theorem at?_isRelationship_iff (b : Bool) :
    (e.entry s).at? "isRelationship" = some (.bool b) ↔ e.field.isRelationship = b := by
  simp [at?_entry_of_not_mem, Field.entries, lookup_cons_if]

theorem at?_relationshipType_iff (c : Cardinality) :
    (e.entry s).at? "relationshipType" = some (.text c.name) ↔ e.field.cardinality = some c := by
  have hentry : (e.entry s).at? "relationshipType" =
      e.field.cardinality.map fun c => .text c.name := by
    simp [at?_entry_of_not_mem, Field.entries, lookup_cons_if, List.lookup_append,
      lookup_toList_map]
  rw [hentry]
  constructor
  · intro h
    obtain ⟨c', hc', hn⟩ := Option.map_eq_some_iff.mp h
    rw [hc', Cardinality.name_injective (Value.text.inj hn)]
  · intro h
    rw [h, Option.map_some]

theorem at?_targetEntity_iff (target : String) :
    (e.entry s).at? "targetEntity" = some (.text target) ↔ e.field.target = some target := by
  simp [at?_entry_of_not_mem, Field.entries, lookup_cons_if, List.lookup_append, lookup_toList_map]

variable {s e} {c : Cardinality}

/-- The keys that are added to a relationship field are none of its own. -/
theorem at?_entry_of_mem {key : String}
    (h : key ∈ ["relKind", "isCollection", "cardinality", "inverse"]) :
    (e.entry s).at? key = (e.metadata s).lookup key := by
  have hnone : e.field.entries.lookup key = none := by
    simp only [List.mem_cons, List.not_mem_nil, or_false] at h
    rcases h with rfl | rfl | rfl | rfl <;>
      simp [Field.entries, lookup_cons_if, List.lookup_append, lookup_toList_map]
  rw [at?_entry, hnone, Option.none_or]

theorem metadata_eq (hr : e.field.isRelationship = true) (hc : e.field.cardinality = some c) :
    e.metadata s = [("relKind", .text c.code), ("isCollection", .bool c.isCollection),
      ("cardinality", .ofDictEntries [("self", .text c.selfSide), ("target", .text c.targetSide)])] ++
      ((e.inverse? s).map fun g => ("inverse", Value.ofDictEntries
        [("entity", .ofText? e.field.target), ("fieldName", .text g.name)])).toList := by
  rw [metadata, hr, hc]

theorem at?_relKind (hr : e.field.isRelationship = true) (hc : e.field.cardinality = some c) :
    (e.entry s).at? "relKind" = some (.text c.code) := by
  simp [at?_entry_of_mem, metadata_eq hr hc]

theorem at?_cardinality (hr : e.field.isRelationship = true) (hc : e.field.cardinality = some c) :
    (e.entry s).at? "cardinality" = some
      (.ofDictEntries [("self", .text c.selfSide), ("target", .text c.targetSide)]) := by
  simp [at?_entry_of_mem, metadata_eq hr hc, lookup_cons_if]

theorem at?_inverse (hr : e.field.isRelationship = true) (hc : e.field.cardinality = some c) :
    (e.entry s).at? "inverse" = (e.inverse? s).map fun g =>
      .ofDictEntries [("entity", .ofText? e.field.target), ("fieldName", .text g.name)] := by
  simp [at?_entry_of_mem, metadata_eq hr hc, lookup_cons_if, lookup_toList_map]

end RelationshipEnd

end EntitySchema

import EntitySchema.Proofs.Document.Lossless
import EntitySchema.Proofs.Json.RoundTrip

/-! Documents as JSON. A document is made of texts and truth values five levels deep, with distinct
keys (`nested_document`), so that its text at any indent is read back as the document itself
(`read_render_document`). -/
namespace EntitySchema

open Json (Nested)

namespace Field

theorem nested_entries (f : Field) (levels : Nat) : ∀ e ∈ f.entries, Nested levels e.2 := by
  intro e he
  simp only [entries, List.mem_append, List.mem_cons, List.not_mem_nil, or_false, Option.mem_toList,
    Option.map_eq_some_iff] at he
  rcases he with ((((rfl | rfl | rfl | rfl | rfl) | ⟨_, -, rfl⟩) | ⟨_, -, rfl⟩) | ⟨_, -, rfl⟩) |
    ⟨_, -, rfl⟩
  all_goals first | exact .text _ | exact .bool _

end Field

namespace RelationshipEnd

variable (s : Schema) (e : RelationshipEnd)

/-- What is added to a field has its keys in a fixed order. -/
theorem keys_metadata_sublist :
    ((e.metadata s).map Prod.fst).Sublist Document.annotationKeys := by
  unfold metadata
  split
  · cases e.inverse? s
    · exact List.sublist_append_left ["relKind", "isCollection", "cardinality"] ["inverse"]
    · exact List.Sublist.refl Document.annotationKeys
  · exact List.nil_sublist _

theorem keys_entry_nodup : ((e.field.entries ++ e.metadata s).map Prod.fst).Nodup := by
  have hkeys : (Field.keys.map Decode.Key.camel ++ Document.annotationKeys).Nodup := by decide
  rw [List.map_append]
  exact (e.field.keys_entries_sublist.append (e.keys_metadata_sublist s)).nodup hkeys

theorem nested_metadata (levels : Nat) : ∀ p ∈ e.metadata s, Nested (levels + 1) p.2 := by
  intro p hp
  have htarget : Nested levels (.ofText? e.field.target) := by
    cases e.field.target
    · exact .null
    · exact .text _
  unfold metadata at hp
  split at hp
  · simp only [List.mem_append, List.mem_cons, List.not_mem_nil, or_false, Option.mem_toList,
      Option.map_eq_some_iff] at hp
    rcases hp with (rfl | rfl | rfl) | ⟨g, -, rfl⟩
    · exact .text _
    · exact .bool _
    · exact .mapping (by simp) (by simp [Nested.text])
    · exact .mapping (by simp) (by simp [Nested.text, htarget])
  · simp at hp

theorem nested_entry (levels : Nat) : Nested (levels + 2) (e.entry s) :=
  .mapping (e.keys_entry_nodup s) (List.forall_mem_append.mpr
    ⟨e.field.nested_entries (levels + 1), e.nested_metadata s levels⟩)

end RelationshipEnd

namespace Json

theorem Nested.texts {l : List (String × String)} (h : (l.map Prod.fst).Nodup) (levels : Nat) :
    Nested (levels + 1) (.ofDictEntries (l.map fun e => (e.1, .text e.2))) := by
  have hkeys : (l.map fun e => (e.1, Value.text e.2)).map Prod.fst = l.map Prod.fst := by
    rw [List.map_map]
    rfl
  refine .mapping (by rwa [hkeys]) fun e he => ?_
  obtain ⟨e, -, rfl⟩ := List.mem_map.mp he
  exact .text _

end Json

namespace Schema

variable (s : Schema) (settings : Settings)

/-- The values in a document are five levels deep at most. -/
theorem nested_document : Nested 5 (.ofDictEntries (s.document settings)) := by
  have hnodup : s.entities.keys.Nodup := s.entities.nodup
  have hentities : Nested 4 (.ofDictEntries (s.entities.keys.map fun entity =>
      (entity, .list ((s.ends entity).map fun e => e.entry s)))) := by
    refine .mapping (by simpa [Function.comp_def] using hnodup) fun e he => ?_
    obtain ⟨entity, -, rfl⟩ := List.mem_map.mp he
    refine .list fun v hv => ?_
    obtain ⟨e, -, rfl⟩ := List.mem_map.mp hv
    exact e.nested_entry s 0
  have henums : Nested 4 (.ofDictEntries
      (s.enums.entries.map fun e => (e.1, .list (e.2.map .text)))) := by
    refine .mapping (by simpa [Function.comp_def] using s.enums.nodup) fun e he => ?_
    obtain ⟨e, -, rfl⟩ := List.mem_map.mp he
    refine .list fun v hv => ?_
    obtain ⟨value, -, rfl⟩ := List.mem_map.mp hv
    exact .text value
  have hresources : ((s.resources settings.pluralOverrides).map Prod.fst).Nodup := by
    simpa [resources, Function.comp_def] using hnodup
  have hoptions : Nested 4 (.ofDictEntries [("pluralOverrides", .ofDictEntries
      (settings.pluralOverrides.entries.map fun e => (e.1, .text e.2))),
      ("relationshipPayloadMode", .text settings.payloadMode.name)]) :=
    .mapping (by simp) (by simp [Nested.text, Nested.texts settings.pluralOverrides.nodup])
  refine .mapping (by simp [document, documentWith]) fun e he => ?_
  simp only [document, documentWith, List.mem_cons, List.not_mem_nil, or_false] at he
  rcases he with rfl | rfl | rfl | rfl
  · exact hentities
  · exact henums
  · exact .texts hresources 3
  · exact hoptions

/-- A document at any indent is read back from its text, with its members in their order; so the
texts at any two indents denote the same. Such a text ends in a line feed, has no carriage return,
and without an indent no other line feed. -/
theorem read_render_document (indent : Int) :
    let rendered (indent : Int) : List Char := (Format.json.render indent
      ((s.document settings).map fun e => (.text e.1, e.2))).toList
    Json.read (rendered indent) = .ok (.ofDictEntries (s.document settings)) ∧
      (∀ other, Json.read (rendered other) = Json.read (rendered indent)) ∧
      ∃ body, rendered indent = body ++ ['\n'] ∧ '\r' ∉ rendered indent ∧
        (indent = 0 → '\n' ∉ body) := by
  intro rendered
  have hnested := s.nested_document settings
  have hrendered (indent : Int) : rendered indent =
      Json.write indent.toNat 0 (.ofDictEntries (s.document settings)) ++ ['\n'] := by
    simp [rendered, Format.render, Json.text, Value.ofDictEntries]
  have hread (indent : Int) :
      Json.read (rendered indent) = .ok (.ofDictEntries (s.document settings)) := by
    rw [hrendered]
    exact hnested.read_write (by decide) (by simp [Json.isSpace])
  have hlaid : Json.LaidOut indent.toNat
      (Json.write indent.toNat 0 (.ofDictEntries (s.document settings))) := hnested.laidOut_write
  refine ⟨hread indent, fun other => by rw [hread, hread], _, hrendered indent, ?_, ?_⟩
  · rw [hrendered, List.mem_append, not_or]
    refine ⟨fun hr => ?_, by decide⟩
    simpa using hlaid '\r' hr
  · rintro rfl hn
    simpa using hlaid '\n' hn

end Schema

end EntitySchema

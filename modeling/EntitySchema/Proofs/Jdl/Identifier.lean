import EntitySchema.Proofs.Jdl.Invariants

/-! The identifiers of a parsed entity. They are what the lines of its last block declare under that
name, or the one that is put in front when there is none (`idFields_parse`); neither annotations nor
relationships add to them. More than one is left for the checks to report. -/
namespace EntitySchema

namespace Check

/-- An entity with several identifiers is reported with their names. -/
theorem repeatedId_mem_entityIds {s : Schema} {entity : String} {fields : List Field}
    (he : (entity, fields) ∈ s.entities.entries) :
    .repeatedId entity ((fields.filter Field.isId).map Field.name) ∈ entityIds s ↔
      2 ≤ (fields.filter Field.isId).length := by
  constructor
  · intro h
    obtain ⟨⟨entity', fields'⟩, he', hi⟩ := List.mem_flatMap.mp h
    rcases hids : fields'.filter Field.isId with _ | ⟨f, _ | ⟨g, r⟩⟩
    · simp [hids] at hi
    · simp [hids] at hi
    · simp only [hids, List.mem_singleton, Issue.repeatedId.injEq] at hi
      rw [← List.length_map Field.name, hi.2]
      simp
  · intro h
    refine List.mem_flatMap.mpr ⟨(entity, fields), he, ?_⟩
    rcases hids : fields.filter Field.isId with _ | ⟨f, _ | ⟨g, r⟩⟩
    · simp [hids] at h
    · simp [hids] at h
    · simp [hids]

end Check

namespace Jdl

def EntityBlock.declaredIds (b : EntityBlock) : List Field :=
  b.declaredFields.filter (Text.lowered ·.name = "id")

/-- The audit fields of a block are no identifiers. -/
theorem EntityBlock.filter_isId_fields (b : EntityBlock) :
    b.fields.filter Field.isId = b.declaredIds := by
  have hdeclared : b.declaredFields.filter Field.isId = b.declaredIds := rfl
  have haudit : (auditFields.filter fun a => !hasFieldNamed b.declaredFields a.name).filter
      Field.isId = [] := by
    rw [List.filter_eq_nil_iff]
    intro a ha
    simp [isId_auditFields a (List.mem_of_mem_filter ha)]
  unfold fields
  split
  · rw [addAuditFields_eq, List.filter_append, haudit, List.append_nil, hdeclared]
  · exact hdeclared

theorem EntityBlock.length_declaredIds (b : EntityBlock) : b.declaredIds.length = b.idLines := by
  rw [← b.filter_isId_fields, ← List.countP_eq_length_filter, b.countP_isId_fields]

theorem filter_isId_ensureId (fields : List Field) :
    (ensureId fields).filter Field.isId =
      if fields.filter Field.isId = [] then [Field.id] else fields.filter Field.isId := by
  have hid : Field.id.isId = true := by decide
  unfold ensureId
  by_cases h : fields.any Field.isId = true
  · have hne : fields.filter Field.isId ≠ [] := by
      obtain ⟨f, hf, hi⟩ := List.any_eq_true.mp h
      exact List.ne_nil_of_mem (List.mem_filter.mpr ⟨hf, hi⟩)
    rw [if_pos h, if_neg hne]
  · have hnil : fields.filter Field.isId = [] := by
      rw [List.filter_eq_nil_iff]
      exact fun f hf hi => h (List.any_eq_true.mpr ⟨f, hf, hi⟩)
    rw [if_neg h, List.filter_cons_of_pos hid, hnil, if_pos rfl]

/-- The fields that relationships add are no identifiers. -/
theorem filter_isId_kept (text : List Char) (entity : String) (fields : List Field) :
    ((Demand.kept fields (Demand.on entity (demandsOf text))).filterMap
      Demand.field?).filter Field.isId = [] := by
  rw [List.filter_eq_nil_iff]
  intro f hf
  obtain ⟨d, hd, hm, hb⟩ := mem_filterMap_field? hf
  simpa [Field.isId] using (isRelationship_of_isMetBy hd hm hb).name

/-- The identifiers that a block leads to: those it declares, or else the injected one. -/
def EntityBlock.ids (b : EntityBlock) : List Field :=
  if b.declaredIds = [] then [Field.id] else b.declaredIds

theorem EntityBlock.length_ids (b : EntityBlock) : b.ids.length = max 1 b.idLines := by
  rw [← b.length_declaredIds, ids]
  split
  · rename_i h
    rw [h]
    rfl
  · rename_i h
    have hpos := List.length_pos_iff.mpr h
    omega

theorem filter_isId_parse {text : List Char} {e : String × List Field}
    (he : e ∈ (parseSchema text).entities.entries) :
    ∃ b, EntityBlock.last? (EntityBlock.all (stripComments text)) e.1 = some b ∧
      e.2.filter Field.isId = b.ids := by
  obtain ⟨b, hb, hfields⟩ := get?_parse ((Dict.mem_entries_iff _ _ _).mp he)
  refine ⟨b, hb, ?_⟩
  rw [hfields, List.filter_append, filter_isId_kept, List.append_nil, filter_isId_ensureId,
    b.filter_isId_fields, EntityBlock.ids]

/-- The identifiers of an entity are those that the lines of its last block declare, or the injected
one. There is just one as long as no two of those lines declare one; else the checks report all. -/
theorem idFields_parse (text : List Char) (e : String × List Field)
    (he : e ∈ (parseSchema text).entities.entries) :
    let ids := e.2.filter (Text.lowered ·.name = "id")
    ∃ b, EntityBlock.last? (EntityBlock.all (stripComments text)) e.1 = some b ∧
      ids = (if b.declaredIds = [] then [Field.id] else b.declaredIds) ∧
      ((∃ f, ids = [f]) ↔ b.idLines ≤ 1) ∧
      ((¬∃ f, ids = [f]) ↔
        .repeatedId e.1 (ids.map Field.name) ∈ Check.entityIds (parseSchema text)) := by
  intro ids
  obtain ⟨b, hb, hids⟩ := filter_isId_parse he
  have hids : ids = b.ids := hids
  have hone : (∃ f, ids = [f]) ↔ b.idLines ≤ 1 := by
    rw [← List.length_eq_one_iff, hids, b.length_ids]
    omega
  have hreported : .repeatedId e.1 (ids.map Field.name) ∈ Check.entityIds (parseSchema text) ↔
      2 ≤ ids.length := Check.repeatedId_mem_entityIds he
  refine ⟨b, hb, hids, hone, ?_⟩
  rw [hone, hreported, hids, b.length_ids]
  omega

def redeclared : List Char :=
  ("entity A \x7b\n  id Long\n  ID Long\n\x7d\n" ++
    "@EnableAudit\nentity A \x7b\n  Id String\n\x7d\nentity B {}\n" ++
    "relationship OneToOne { A{ID} to B{id} }\n").toList

theorem idFields_parse_redeclared :
    ∃ e ∈ (parseSchema redeclared).entities.entries,
      e.1 = "A" ∧ ∃ f, e.2.filter (Text.lowered ·.name = "id") = [f] := by
  have hmem : ∃ e ∈ (parseSchema redeclared).entities.entries, e.1 = "A" ∧
      (EntityBlock.last? (EntityBlock.all (stripComments redeclared)) e.1).map
        EntityBlock.idLines = some 1 := by decide +kernel
  obtain ⟨e, he, hname, hlines⟩ := hmem
  obtain ⟨b, hb, -, hone, -⟩ := idFields_parse redeclared e he
  rw [hb, Option.map_some, Option.some.injEq] at hlines
  exact ⟨e, he, hname, hone.mpr hlines.le⟩

def twice : List Char := "entity A \x7b\n  id Long\n  ID String\n\x7d\n".toList

theorem idFields_twice :
    ∃ e ∈ (parseSchema twice).entities.entries,
      ¬∃ f, e.2.filter (Text.lowered ·.name = "id") = [f] := by
  have hlength : ∃ e ∈ (parseSchema twice).entities.entries,
      (e.2.filter (Text.lowered ·.name = "id")).length = 2 := by decide +kernel
  obtain ⟨e, he, hlength⟩ := hlength
  refine ⟨e, he, ?_⟩
  rintro ⟨f, hf⟩
  rw [hf] at hlength
  simp at hlength

end Jdl

end EntitySchema

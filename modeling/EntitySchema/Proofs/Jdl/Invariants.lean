import EntitySchema.Jdl.Parse
import EntitySchema.Proofs.Check.Verdict
import EntitySchema.Proofs.Jdl.Extraction
import EntitySchema.Proofs.Relationship.ClosedForm

/-! What holds of the schema of every text. The invariant is carried from the entity blocks over the
injection of identifiers to the run over the relationship records (`parse_invariant`). -/
namespace EntitySchema.Jdl

open Text (isBlank)

def EntityBlock.last? (blocks : List EntityBlock) (entity : String) : Option EntityBlock :=
  blocks.reverse.find? (·.name == entity)

/-- What holds of a relationship field of a parsed schema. -/
structure IsRelationship (entities : List String) (f : Field) : Prop where
  type : f.type = "relationship"
  required : f.required = false
  nullable : f.nullable = true
  cardinality : ∃ c ∈ Cardinality.all, f.cardinality = some c
  target : ∃ entity ∈ entities, f.target = some entity
  name : Text.lowered f.name ≠ "id"

/-- What holds of a parsed schema, given the entity blocks of its text. -/
structure Invariant (blocks : List EntityBlock) (s : Schema) : Prop where
  relationships : ∀ e ∈ s.entities.entries, ∀ f ∈ e.2, f.isRelationship = true →
    IsRelationship s.entities.keys f
  distinct : ∀ e ∈ s.entities.entries, ((e.2.filter (·.isRelationship)).map Field.name).Nodup
  ids : ∀ e ∈ s.entities.entries, ∃ b, EntityBlock.last? blocks e.1 = some b ∧
    e.2.countP Field.isId = max 1 b.idLines ∧ (b.idLines = 0 → e.2.head? = some Field.id)
  values : ∀ e ∈ s.enums.entries, e.2 ≠ [] ∧ ∀ v ∈ e.2, v ≠ "" ∧
    (∀ c ∈ v.toList.head?, isBlank c = false) ∧ ∀ c ∈ v.toList.getLast?, isBlank c = false

theorem get?_extractEntities (s : List Char) (entity : String) :
    (extractEntities s).1.get? entity =
      (EntityBlock.last? (EntityBlock.all s) entity).map EntityBlock.fields := by
  rw [extractEntities_fst, Dict.get?_ofList, ← List.map_reverse, lookup_map, EntityBlock.last?]

theorem isName_of_mem_keys {s : List Char} {entity : String}
    (h : entity ∈ (extractEntities s).1.keys) : isName entity.toList = true := by
  rw [← Dict.get?_isSome_iff, get?_extractEntities, Option.isSome_map,
    Option.isSome_iff_exists] at h
  obtain ⟨b, hb⟩ := h
  have hname := List.find?_some hb
  have hmem := List.mem_reverse.mp (List.mem_of_find?_eq_some hb)
  rw [beq_iff_eq] at hname
  exact hname ▸ EntityBlock.isName_name hmem

def demandsOf (text : List Char) : List Demand :=
  RelationshipRecord.allDemands (extractEntities (stripComments text)).1.keys
    (extractRelationships (stripComments text)).1

/-- Parsing is materialization on the entities with their identifiers. -/
theorem met_parse (text : List Char) :
    Met (ensureIds (extractEntities (stripComments text)).1) (demandsOf text)
      (materialize (ensureIds (extractEntities (stripComments text)).1)
        (extractRelationships (stripComments text)).1) := by
  have hk : (ensureIds (extractEntities (stripComments text)).1).keys =
      (extractEntities (stripComments text)).1.keys := Dict.keys_map _ _
  rw [demandsOf, ← hk]
  apply Met.materialize
  intro entity he hempty
  rw [hk] at he
  subst hempty
  exact absurd (isName_of_mem_keys he) (by decide)

theorem nameless_parse (text : List Char) : (parse text).nameless = false :=
  (met_parse text).nameless

theorem keys_parse (text : List Char) :
    (parse text).schema.entities.keys = (extractEntities (stripComments text)).1.keys :=
  (met_parse text).keys_eq.trans (Dict.keys_map _ _)

/-- The fields of an entity of a parsed schema, by the last block of its name. -/
theorem get?_parse {text : List Char} {entity : String} {fields : List Field}
    (h : (parse text).schema.entities.get? entity = some fields) :
    ∃ b, EntityBlock.last? (EntityBlock.all (stripComments text)) entity = some b ∧
      fields = ensureId b.fields ++
        (Demand.kept (ensureId b.fields) (Demand.on entity (demandsOf text))).filterMap
          Demand.field? := by
  have hget : (parse text).schema.entities.get? entity = _ := (met_parse text).get?_eq entity
  rw [hget, ensureIds, Dict.get?_map, get?_extractEntities, Option.map_map, Option.map_map,
    Option.map_eq_some_iff] at h
  obtain ⟨b, hb, rfl⟩ := h
  exact ⟨b, hb, rfl⟩

theorem isPlain_ensureId (b : EntityBlock) : ∀ f ∈ ensureId b.fields, IsPlain f := by
  intro f hf
  unfold ensureId at hf
  split at hf
  · exact b.isPlain_fields f hf
  · rcases List.mem_cons.mp hf with rfl | hf
    · exact ⟨by decide, rfl⟩
    · exact b.isPlain_fields f hf

theorem countP_isId_ensureId (b : EntityBlock) :
    (ensureId b.fields).countP Field.isId = max 1 b.idLines ∧
      (b.idLines = 0 → (ensureId b.fields).head? = some Field.id) := by
  have hany : b.fields.any Field.isId = true ↔ 0 < b.idLines := by
    rw [← b.countP_isId_fields, List.countP_pos_iff, List.any_eq_true]
  unfold ensureId
  by_cases h : b.fields.any Field.isId = true
  · have hpos := hany.mp h
    rw [if_pos h, b.countP_isId_fields]
    omega
  · have hzero : b.idLines = 0 := by
      have := mt hany.mpr h
      omega
    have hid : Field.id.isId = true := by decide
    rw [if_neg h, List.countP_cons_of_pos hid, b.countP_isId_fields, hzero]
    exact ⟨rfl, fun _ => rfl⟩

/-- The fields that relationships add to an entity, each by a demand that is kept. -/
theorem mem_filterMap_field? {text : List Char} {entity : String} {fields : List Field} {f : Field}
    (h : f ∈ (Demand.kept fields (Demand.on entity (demandsOf text))).filterMap Demand.field?) :
    ∃ d ∈ demandsOf text, d.IsMetBy f ∧ d.isBlocked fields = false := by
  obtain ⟨d, hd, hf⟩ := List.mem_filterMap.mp h
  have hmem := List.mem_of_mem_filter ((Demand.kept_sublist _ _).subset hd)
  obtain ⟨g, hg, hm⟩ := Demand.field?_isSome ((met_parse text).named d hmem)
  have : g = f := Option.some.inj (hg.symm.trans hf)
  exact ⟨d, hmem, this ▸ hm, Demand.not_isBlocked_of_mem_kept hd⟩

theorem isRelationship_of_isMetBy {text : List Char} {fields : List Field} {d : Demand} {f : Field}
    (hd : d ∈ demandsOf text) (hm : d.IsMetBy f) (hb : d.isBlocked fields = false) :
    IsRelationship (parse text).schema.entities.keys f where
  type := hm.type
  required := hm.required
  nullable := hm.nullable
  cardinality := ⟨d.cardinality, by cases d.cardinality <;> decide, hm.cardinality⟩
  target := ⟨d.target, by
    rw [keys_parse]
    exact (RelationshipRecord.declared_of_mem_allDemands hd).2, hm.target⟩
  name := by
    simp only [Demand.isBlocked, Bool.or_eq_false_iff, beq_eq_false_iff_ne] at hb
    rw [hm.name]
    exact hb.1

theorem invariant_parse (text : List Char) :
    Invariant (EntityBlock.all (stripComments text)) (parse text).schema where
  relationships := by
    rintro ⟨entity, fields⟩ he f hf hrel
    obtain ⟨b, -, rfl⟩ := get?_parse ((Dict.mem_entries_iff _ _ _).mp he)
    rcases List.mem_append.mp hf with hf | hf
    · simp [(isPlain_ensureId b f hf).isRelationship] at hrel
    · obtain ⟨d, hd, hm, hb⟩ := mem_filterMap_field? hf
      exact isRelationship_of_isMetBy hd hm hb
  distinct := by
    rintro ⟨entity, fields⟩ he
    obtain ⟨b, -, rfl⟩ := get?_parse ((Dict.mem_entries_iff _ _ _).mp he)
    have hplain : (ensureId b.fields).filter (·.isRelationship) = [] := by
      rw [List.filter_eq_nil_iff]
      intro f hf
      simp [(isPlain_ensureId b f hf).isRelationship]
    rw [List.filter_append, hplain, List.nil_append,
      Demand.map_name_of_forall₂ ((met_parse text).forall₂_kept entity (ensureId b.fields))]
    exact Demand.nodup_map_name_kept _ _
  ids := by
    rintro ⟨entity, fields⟩ he
    obtain ⟨b, hb, rfl⟩ := get?_parse ((Dict.mem_entries_iff _ _ _).mp he)
    have hzero : ((Demand.kept (ensureId b.fields) (Demand.on entity (demandsOf text))).filterMap
        Demand.field?).countP Field.isId = 0 := by
      rw [List.countP_eq_zero]
      intro f hf
      obtain ⟨d, hd, hm, hb⟩ := mem_filterMap_field? hf
      simpa [Field.isId] using (isRelationship_of_isMetBy hd hm hb).name
    obtain ⟨hcount, hhead⟩ := countP_isId_ensureId b
    refine ⟨b, hb, ?_, ?_⟩
    · rw [List.countP_append, hzero, hcount, Nat.add_zero]
    · intro h
      rw [List.head?_append, hhead h, Option.some_or]
  values := by
    rintro ⟨name, values⟩ he
    have he : (name, values) ∈ (extractEnums (stripComments text)).1.entries := he
    rw [extractEnums_fst] at he
    obtain ⟨b, hb, h⟩ := List.mem_map.mp (Dict.mem_of_mem_ofList he)
    obtain ⟨rfl, rfl⟩ := Prod.mk.inj h
    exact ⟨by simpa using (List.mem_filter.mp hb).2, fun v hv => EnumBlock.mem_values hv⟩

theorem ne_empty_of_mem_keys_parse {text : List Char} {entity : String}
    (h : entity ∈ (parse text).schema.entities.keys) : entity ≠ "" := by
  rw [keys_parse] at h
  rintro rfl
  exact absurd (isName_of_mem_keys h) (by decide)

/-- Every relationship field of a parsed schema has a cardinality and a declared target. -/
theorem isDeclared_parse (text : List Char) :
    ∀ e ∈ (parse text).schema.entities.entries, ∀ f ∈ e.2, f.isRelationship = true →
      f.cardinality.isSome = true ∧ Check.isDeclared (parse text).schema f.target = true := by
  intro e he f hf hrel
  have h := (invariant_parse text).relationships e he f hf hrel
  obtain ⟨c, -, hc⟩ := h.cardinality
  obtain ⟨target, hk, ht⟩ := h.target
  simp [Check.isDeclared, hc, ht, hk, ne_empty_of_mem_keys_parse hk]

theorem isName_of_sideName {given : Option String} {target name : String}
    (hg : ∀ n, given = some n → isName n.toList = true) (ht : isName target.toList = true)
    (h : RelationshipRecord.SideName given target name) : isName name.toList = true := by
  have hor {default : String} (hd : isName default.toList = true ∨ nameOr given default ≠ default) :
      isName (nameOr given default).toList = true := by
    cases given with
    | none => simpa [nameOr] using hd
    | some n =>
      by_cases hn : n = ""
      · simpa [nameOr, hn] using hd
      · simpa [nameOr, hn] using hg n rfl
  have hsingle := isName_lowerFirst ht
  rcases h with rfl | rfl | ⟨rfl, hne⟩
  · exact hor (.inl (by simpa [singleName] using hsingle))
  · exact hor (.inl (by simpa [collectionName] using isName_plural hsingle))
  · exact hor (.inr hne)

/-- Every field of a parsed schema has a name as source text has them. -/
theorem isName_parse (text : List Char) :
    ∀ e ∈ (parse text).schema.entities.entries, ∀ f ∈ e.2, isName f.name.toList = true := by
  rintro ⟨entity, fields⟩ he f hf
  obtain ⟨b, -, rfl⟩ := get?_parse ((Dict.mem_entries_iff _ _ _).mp he)
  rcases List.mem_append.mp hf with hf | hf
  · exact (isPlain_ensureId b f hf).isName
  · obtain ⟨d, hd, hm, -⟩ := mem_filterMap_field? hf
    obtain ⟨r, hr, -, hrow⟩ := RelationshipRecord.mem_allDemands.mp hd
    have hnamed := isNamed_extractRelationships hr
    rw [hm.name]
    rcases RelationshipRecord.mem_demandTable hrow with ⟨-, -, hside⟩ | ⟨-, -, hside⟩
    · exact isName_of_sideName hnamed.sourceField hnamed.target hside
    · exact isName_of_sideName hnamed.targetField hnamed.source hside

/-- The codes of the errors that a parsed schema can have. -/
theorem code_of_mem_errors {text : List Char} {settings : Settings} {d : Diagnostic}
    (h : d ∈ (Check.diagnostics (Check.full (parse text).schema settings)).errors) :
    d.code ∈ ["DUPLICATE_ID_FIELD", "DUPLICATE_FIELD_NAME", "INVALID_FIELD_NAME"] := by
  have inv := invariant_parse text
  obtain ⟨i, hi, he, rfl⟩ := Check.mem_errors_iff.mp h
  change i.code ∈ _
  rcases Check.mem_full_error_iff.mp ⟨hi, he⟩ with h | h | h | ⟨e, he, hv, -⟩
  · rcases (Check.severity_of_mem_entityIds h).2 with ⟨-, e, he, hzero⟩ | hcode
    · obtain ⟨b, -, hcount, -⟩ := inv.ids e he
      omega
    · simp [hcode]
  · exact List.mem_cons_of_mem _ (Check.severity_of_mem_fieldNames h).2
  · rw [(Check.relationshipTargets_eq_nil_iff _).mpr (isDeclared_parse text)] at h
    simp at h
  · exact absurd hv (inv.values e he).1

/-- The parser accepts every text, the schema has the invariant, and the checks of it with any
settings can only find identifiers and names that are repeated, and names that are not ASCII. -/
theorem parse_invariant (text : List Char) :
    (parse text).nameless = false ∧
      Invariant (EntityBlock.all (stripComments text)) (parseSchema text) ∧
      ∀ settings, ∀ d ∈ (Check.diagnostics (Check.full (parseSchema text) settings)).errors,
        d.code ∈ ["DUPLICATE_ID_FIELD", "DUPLICATE_FIELD_NAME", "INVALID_FIELD_NAME"] :=
  ⟨nameless_parse text, invariant_parse text, fun _ _ hd => code_of_mem_errors hd⟩

end EntitySchema.Jdl

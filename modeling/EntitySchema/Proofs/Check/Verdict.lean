import EntitySchema.Check.Full
import Mathlib.Data.List.Basic

/-! When the checks of a schema pass. Each check that can report an error is silent exactly when its
condition holds of every entity; settings never make a schema fail (`passes_iff`). -/
namespace EntitySchema.Check

/-- The condition of the schema checks, one clause for each that can report an error. -/
structure Passing (s : Schema) : Prop where
  ids : ∀ e ∈ s.entities.entries, e.2.countP Field.isId = 1
  distinct : ∀ e ∈ s.entities.entries, (e.2.map Field.name).Nodup
  identifiers : ∀ e ∈ s.entities.entries, ∀ f ∈ e.2,
    isIdentifier (Text.withoutLastFeed f.name.toList) = true
  targets : ∀ e ∈ s.entities.entries, ∀ f ∈ e.2, f.isRelationship = true →
    f.cardinality.isSome = true ∧ isDeclared s f.target = true
  enums : ∀ e ∈ s.enums.entries, e.2 ≠ []

theorem entityIds_eq_nil_iff (s : Schema) :
    entityIds s = [] ↔ ∀ e ∈ s.entities.entries, e.2.countP Field.isId = 1 := by
  rw [entityIds, List.flatMap_eq_nil_iff]
  refine forall₂_congr fun ⟨entity, fields⟩ _ => ?_
  simp only [List.countP_eq_length_filter]
  rcases fields.filter Field.isId with _ | ⟨f, _ | ⟨g, r⟩⟩ <;> simp

theorem fieldNamesOf_eq_nil_iff (entity : String) (seen : List String) (fields : List Field) :
    fieldNamesOf entity seen fields = [] ↔
      (fields.map Field.name).Nodup ∧ (∀ f ∈ fields, f.name ∉ seen) ∧
        ∀ f ∈ fields, isIdentifier (Text.withoutLastFeed f.name.toList) = true := by
  induction fields generalizing seen with
  | nil => simp [fieldNamesOf]
  | cons f r ih =>
    have hif (p : Prop) [Decidable p] (i : Issue) : (if p then [i] else []) = [] ↔ ¬p := by
      split <;> simp_all
    have hif' (p : Prop) [Decidable p] (i : Issue) : (if p then [] else [i]) = [] ↔ p := by
      split <;> simp_all
    simp only [fieldNamesOf, List.append_eq_nil_iff, ih, hif, hif', List.map_cons,
      List.nodup_cons, List.mem_map, List.mem_cons, List.contains_iff_mem, forall_eq_or_imp,
      not_or, not_exists, not_and]
    constructor
    · rintro ⟨⟨hseen, hid⟩, hnodup, hnew, hids⟩
      exact ⟨⟨fun g hg => (hnew g hg).1, hnodup⟩, ⟨hseen, fun g hg => (hnew g hg).2⟩, hid, hids⟩
    · rintro ⟨⟨hf, hnodup⟩, ⟨hseen, hnew⟩, hid, hids⟩
      exact ⟨⟨hseen, hid⟩, hnodup, fun g hg => ⟨hf g hg, hnew g hg⟩, hids⟩

theorem fieldNames_eq_nil_iff (s : Schema) :
    fieldNames s = [] ↔ ∀ e ∈ s.entities.entries, (e.2.map Field.name).Nodup ∧
      ∀ f ∈ e.2, isIdentifier (Text.withoutLastFeed f.name.toList) = true := by
  rw [fieldNames, List.flatMap_eq_nil_iff]
  refine forall₂_congr fun e _ => ?_
  simp [fieldNamesOf_eq_nil_iff]

theorem relationshipTargets_eq_nil_iff (s : Schema) :
    relationshipTargets s = [] ↔ ∀ e ∈ s.entities.entries, ∀ f ∈ e.2, f.isRelationship = true →
      f.cardinality.isSome = true ∧ isDeclared s f.target = true := by
  rw [relationshipTargets, List.flatMap_eq_nil_iff]
  refine forall₂_congr fun e _ => ?_
  simp only [List.flatMap_eq_nil_iff, List.mem_filter, List.append_eq_nil_iff, and_imp]
  refine forall₃_congr fun f _ _ => ?_
  cases f.cardinality <;> cases isDeclared s f.target <;> simp

theorem severity_of_mem_entityIds {s : Schema} {i : Issue} (h : i ∈ entityIds s) :
    i.severity = .error ∧ (i.code = "MISSING_ID_FIELD" ∧ (∃ e ∈ s.entities.entries,
      e.2.countP Field.isId = 0) ∨ i.code = "DUPLICATE_ID_FIELD") := by
  obtain ⟨⟨entity, fields⟩, he, hi⟩ := List.mem_flatMap.mp h
  have hcount := List.countP_eq_length_filter (p := Field.isId) (l := fields)
  rcases hf : fields.filter Field.isId with _ | ⟨f, _ | ⟨g, r⟩⟩
  · simp only [hf, List.mem_singleton] at hi
    rw [hf] at hcount
    exact hi ▸ ⟨rfl, .inl ⟨rfl, _, he, hcount⟩⟩
  · simp [hf] at hi
  · simp only [hf, List.mem_singleton] at hi
    exact hi ▸ ⟨rfl, .inr rfl⟩

theorem severity_of_mem_fieldNamesOf {entity : String} {seen : List String} {fields : List Field}
    {i : Issue} (h : i ∈ fieldNamesOf entity seen fields) :
    i.severity = .error ∧ i.code ∈ ["DUPLICATE_FIELD_NAME", "INVALID_FIELD_NAME"] := by
  induction fields generalizing seen with
  | nil => simp [fieldNamesOf] at h
  | cons f r ih =>
    simp only [fieldNamesOf, List.mem_append] at h
    rcases h with (h | h) | h
    · split at h
      · rw [List.mem_singleton.mp h]
        exact ⟨rfl, by simp [Issue.code]⟩
      · simp at h
    · split at h
      · simp at h
      · rw [List.mem_singleton.mp h]
        exact ⟨rfl, by simp [Issue.code]⟩
    · exact ih h

theorem severity_of_mem_fieldNames {s : Schema} {i : Issue} (h : i ∈ fieldNames s) :
    i.severity = .error ∧ i.code ∈ ["DUPLICATE_FIELD_NAME", "INVALID_FIELD_NAME"] := by
  obtain ⟨e, -, hi⟩ := List.mem_flatMap.mp h
  exact severity_of_mem_fieldNamesOf hi

theorem severity_of_mem_relationshipTargets {s : Schema} {i : Issue}
    (h : i ∈ relationshipTargets s) : i.severity = .error := by
  simp only [relationshipTargets, List.mem_flatMap, List.mem_append] at h
  obtain ⟨⟨entity, fields⟩, -, f, -, hi | hi⟩ := h <;> split at hi <;> simp_all [Issue.severity]

/-- What the remaining checks report is no error, empty enumerations aside. -/
theorem severity_of_mem_enums {s : Schema} {i : Issue} (h : i ∈ enums s) :
    (∃ e ∈ s.enums.entries, e.2 = [] ∧ i = .emptyEnum e.1) ∨ i.severity = .warning := by
  obtain ⟨⟨name, values⟩, he, hi⟩ := List.mem_flatMap.mp h
  dsimp only at hi
  split at hi
  · rename_i hv
    exact .inl ⟨_, he, hv, List.mem_singleton.mp hi⟩
  · obtain ⟨value, -, rfl⟩ := List.mem_map.mp hi
    exact .inr rfl

theorem severity_of_mem_inverseLinks {s : Schema} {i : Issue} (h : i ∈ inverseLinks s) :
    i.severity = .info := by
  simp only [inverseLinks, List.mem_flatMap, List.mem_filterMap] at h
  obtain ⟨entity, -, e, -, hi⟩ := h
  split at hi
  · rw [Option.ite_none_right_eq_some, Option.some.injEq] at hi
    exact hi.2 ▸ rfl
  · simp at hi

theorem mem_full_error_iff {s : Schema} {settings : Settings} {i : Issue} :
    i ∈ full s settings ∧ i.severity = .error ↔
      i ∈ entityIds s ∨ i ∈ fieldNames s ∨ i ∈ relationshipTargets s ∨
        ∃ e ∈ s.enums.entries, e.2 = [] ∧ i = .emptyEnum e.1 := by
  have hmem : i ∈ full s settings ↔
      (i ∈ entityIds s ∨ i ∈ entityNames s ∨ i ∈ fieldNames s ∨ i ∈ relationshipTargets s ∨
        i ∈ inverseLinks s ∨ i ∈ enums s) ∨ i ∈ overrides settings ∨
          i ∈ overrideWords s settings := by
    simp [full, schema, schemaChecks, or_assoc]
  rw [hmem]
  constructor
  · rintro ⟨(h | h | h | h | h | h) | h | h, he⟩
    · exact .inl h
    · obtain ⟨e, -, rfl⟩ := List.mem_map.mp h
      simp [Issue.severity] at he
    · exact .inr (.inl h)
    · exact .inr (.inr (.inl h))
    · simp [severity_of_mem_inverseLinks h] at he
    · refine .inr (.inr (.inr ((severity_of_mem_enums h).resolve_right ?_)))
      simp [he]
    · obtain ⟨e, -, rfl⟩ := List.mem_map.mp h
      simp [Issue.severity] at he
    · obtain ⟨e, -, rfl⟩ := List.mem_map.mp h
      simp [Issue.severity] at he
  · rintro (h | h | h | ⟨e, he, hv, rfl⟩)
    · exact ⟨.inl (.inl h), (severity_of_mem_entityIds h).1⟩
    · exact ⟨.inl (.inr (.inr (.inl h))), (severity_of_mem_fieldNames h).1⟩
    · exact ⟨.inl (.inr (.inr (.inr (.inl h)))), severity_of_mem_relationshipTargets h⟩
    · refine ⟨.inl (.inr (.inr (.inr (.inr (.inr ?_))))), rfl⟩
      exact List.mem_flatMap.mpr ⟨e, he, by simp [hv]⟩

theorem mem_errors_iff {issues : List Issue} {d : Diagnostic} :
    d ∈ (diagnostics issues).errors ↔ ∃ i ∈ issues, i.severity = .error ∧ i.diagnostic = d := by
  simp only [diagnostics, Diagnostics.errors, Diagnostics.atSeverity, List.mem_filter,
    List.mem_map, decide_eq_true_eq]
  constructor
  · rintro ⟨⟨i, hi, rfl⟩, he⟩
    exact ⟨i, hi, he, rfl⟩
  · rintro ⟨i, hi, he, rfl⟩
    exact ⟨⟨i, hi, rfl⟩, he⟩

theorem hasErrors_full (s : Schema) (settings : Settings) :
    (diagnostics (full s settings)).hasErrors = !passes s settings := by
  simp [passes, Diagnostics.isValid]

theorem passes_iff (s : Schema) (settings : Settings) : passes s settings = true ↔ Passing s := by
  have hpass : passes s settings = true ↔ ∀ i, ¬(i ∈ full s settings ∧ i.severity = .error) := by
    simp only [passes, Diagnostics.isValid, Diagnostics.hasErrors, Bool.not_not,
      List.isEmpty_iff, List.eq_nil_iff_forall_not_mem, mem_errors_iff]
    constructor
    · exact fun h i hi => h i.diagnostic ⟨i, hi.1, hi.2, rfl⟩
    · rintro h d ⟨i, hi, he, -⟩
      exact h i ⟨hi, he⟩
  simp only [hpass, mem_full_error_iff, not_or, forall_and, ← List.eq_nil_iff_forall_not_mem]
  rw [entityIds_eq_nil_iff, fieldNames_eq_nil_iff, relationshipTargets_eq_nil_iff]
  constructor
  · rintro ⟨hids, hnames, htargets, henums⟩
    exact ⟨hids, fun e he => (hnames e he).1, fun e he => (hnames e he).2, htargets,
      fun e he hv => henums _ ⟨e, he, hv, rfl⟩⟩
  · rintro ⟨hids, hdistinct, hidentifiers, htargets, henums⟩
    refine ⟨hids, fun e he => ⟨hdistinct e he, hidentifiers e he⟩, htargets, ?_⟩
    rintro i ⟨e, he, hv, -⟩
    exact henums e he hv

end EntitySchema.Check

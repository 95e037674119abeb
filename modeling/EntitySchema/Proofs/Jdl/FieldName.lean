import EntitySchema.Proofs.Compile.Gate

/-! Names of fields in parsed schemas. The parser takes word characters of any script behind the
first character of a name, the checks those of ASCII only; for nothing else do the checks refuse a
name that the parser gives (`invalidFieldName_parse`). -/
namespace EntitySchema

namespace Check

/-- The fields whose names are reported as no identifiers, with one report for each. -/
theorem filter_invalid_fieldNamesOf (entity : String) (seen : List String) (fields : List Field) :
    (fieldNamesOf entity seen fields).filter (·.code = "INVALID_FIELD_NAME") =
      (fields.filter fun f => !isIdentifier (Text.withoutLastFeed f.name.toList)).map
        (.invalidFieldName entity ·.name) := by
  induction fields generalizing seen with
  | nil => rfl
  | cons f r ih =>
    have hrepeated : (if seen.contains f.name then [Issue.repeatedFieldName entity f.name]
        else []).filter (·.code = "INVALID_FIELD_NAME") = [] := by
      split <;> simp [Issue.code]
    rw [fieldNamesOf, List.filter_append, List.filter_append, hrepeated, List.nil_append, ih]
    cases h : isIdentifier (Text.withoutLastFeed f.name.toList) <;> simp [h, Issue.code]

theorem filter_invalid_fieldNames (s : Schema) :
    (fieldNames s).filter (·.code = "INVALID_FIELD_NAME") =
      s.entities.entries.flatMap fun e =>
        (e.2.filter fun f => !isIdentifier (Text.withoutLastFeed f.name.toList)).map
          (.invalidFieldName e.1 ·.name) := by
  simp only [fieldNames, List.filter_flatMap, filter_invalid_fieldNamesOf]

theorem invalidFieldName_mem_iff {s : Schema} {entity name : String} :
    .invalidFieldName entity name ∈ fieldNames s ↔
      isIdentifier (Text.withoutLastFeed name.toList) = false ∧
        ∃ e ∈ s.entities.entries, e.1 = entity ∧ ∃ f ∈ e.2, f.name = name := by
  have hcode : .invalidFieldName entity name ∈ fieldNames s ↔ .invalidFieldName entity name ∈
      (fieldNames s).filter (·.code = "INVALID_FIELD_NAME") := by
    simp [Issue.code]
  simp only [hcode, filter_invalid_fieldNames, List.mem_flatMap, List.mem_map, List.mem_filter,
    Issue.invalidFieldName.injEq, Bool.not_eq_true']
  constructor
  · rintro ⟨e, he, f, ⟨hf, hid⟩, hentity, rfl⟩
    exact ⟨hid, e, he, hentity, f, hf, rfl⟩
  · rintro ⟨hid, e, he, hentity, f, hf, rfl⟩
    exact ⟨e, he, f, ⟨hf, hid⟩, hentity, rfl⟩

end Check

namespace Noun

open Text (IsAscii)

theorem isAscii_lowerFirst {word : List Char} (h : IsAscii word) : IsAscii (lowerFirst word) := by
  cases word with
  | nil => exact h
  | cons c r =>
    obtain ⟨hc, hr⟩ := List.forall_mem_cons.mp h
    rw [lowerFirst, Text.lowerChar, if_pos hc, List.singleton_append]
    exact List.forall_mem_cons.mpr
      ⟨Text.forall_ascii (P := fun c => c.toLower.toNat < 128) (by decide) hc, hr⟩

/-- The suffixes and the irregular forms are of ASCII, so a plural is when its word is. -/
theorem isAscii_plural {word : List Char} (h : IsAscii word) : IsAscii (plural [] word) := by
  have hsuffixes : ∀ s ∈ pluralSuffixes, IsAscii s := by decide
  have hforms : ∀ s ∈ irregularForms, IsAscii s := by decide
  rcases plural_shape word with hw | ⟨n, suffix, hs, hw⟩ | hw
  · rwa [hw]
  · rw [hw, Text.isAscii_append]
    exact ⟨Text.isAscii_take h n, hsuffixes suffix hs⟩
  · exact hforms _ hw

end Noun

namespace Jdl

def hasForeign (s : String) : Bool := s.toList.any (128 ≤ ·.toNat)

theorem hasForeign_eq_false_iff (s : String) :
    hasForeign s = false ↔ Text.IsAscii s.toList := by
  simp [hasForeign, Text.IsAscii]

theorem isWordChar_iff_of_ascii {c : Char} (h : c.toNat < 128) :
    Text.isWordChar c = (c.isAlphanum || c == '_') := by
  rw [Text.isWordChar, if_pos h]

/-- A name is an identifier just when it is of ASCII. -/
theorem isIdentifier_eq_of_isName {s : String} (h : isName s.toList = true) :
    Check.isIdentifier s.toList = !hasForeign s := by
  rw [Bool.eq_iff_iff, Bool.not_eq_true', hasForeign_eq_false_iff]
  cases hs : s.toList with
  | nil => simp [hs, isName] at h
  | cons c r =>
    rw [hs, isName, Bool.and_eq_true, List.all_eq_true] at h
    have hc : c.toNat < 128 := ascii_of_isIdentifierStart h.1
    have hstart : (c.isAlpha || c == '_') = true := h.1
    simp only [Check.isIdentifier, Text.IsAscii, hstart, Bool.true_and, List.all_eq_true,
      List.mem_cons, forall_eq_or_imp, hc, true_and]
    constructor
    · exact fun hr d hd => Text.ascii_of_isAlphanum_or (hr d hd)
    · exact fun hr d hd => isWordChar_iff_of_ascii (hr d hd) ▸ h.2 d hd

theorem isName_defaultName {entity : String} (h : isName entity.toList = true) (c : Cardinality) :
    isName (RelationshipRecord.defaultName c entity).toList = true := by
  have hsingle := isName_lowerFirst h
  rw [RelationshipRecord.defaultName, String.toList_ofList]
  split
  · exact isName_plural hsingle
  · exact hsingle

theorem hasForeign_defaultName {entity : String} (h : hasForeign entity = false) (c : Cardinality) :
    hasForeign (RelationshipRecord.defaultName c entity) = false := by
  rw [hasForeign_eq_false_iff] at h ⊢
  have hsingle := Noun.isAscii_lowerFirst h
  rw [RelationshipRecord.defaultName, String.toList_ofList]
  split
  · exact Noun.isAscii_plural hsingle
  · exact hsingle

/-- Of the fields of a parsed schema, the check of names refuses just those whose name is not of
ASCII, with one report for each. The name that is made from an entity of ASCII, for a side without
one, is an identifier and never refused. -/
theorem invalidFieldName_parse (text : List Char) :
    let s := parseSchema text
    (∀ e ∈ s.entities.entries, ∀ f ∈ e.2,
      .invalidFieldName e.1 f.name ∈ Check.fieldNames s ↔ hasForeign f.name = true) ∧
      (Check.fieldNames s).filter (·.code = "INVALID_FIELD_NAME") =
        (s.entities.entries.flatMap fun e =>
          (e.2.filter fun f => hasForeign f.name).map (.invalidFieldName e.1 ·.name)) ∧
      ∀ entity ∈ s.entities.keys, hasForeign entity = false → ∀ c,
        let name := RelationshipRecord.defaultName c entity
        Compile.IsAsciiIdentifier name ∧
          ∀ owner, .invalidFieldName owner name ∉ Check.fieldNames s := by
  intro s
  have hverdict {name : String} (h : isName name.toList = true) :
      Check.isIdentifier (Text.withoutLastFeed name.toList) = !hasForeign name := by
    rw [Compile.withoutLastFeed_of_isName h, isIdentifier_eq_of_isName h]
  have hname : ∀ e ∈ s.entities.entries, ∀ f ∈ e.2, isName f.name.toList = true := isName_parse text
  refine ⟨?_, ?_, ?_⟩
  · intro e he f hf
    rw [Check.invalidFieldName_mem_iff, hverdict (hname e he f hf), Bool.not_eq_false']
    exact and_iff_left ⟨e, he, rfl, f, hf, rfl⟩
  · rw [Check.filter_invalid_fieldNames]
    refine List.flatMap_congr fun e he => congrArg _ (List.filter_congr fun f hf => ?_)
    rw [hverdict (hname e he f hf), Bool.not_not]
  · intro entity hentity hascii c name
    have hkey : entity ∈ (extractEntities (stripComments text)).1.keys := keys_parse text ▸ hentity
    have hdefault : isName name.toList = true := isName_defaultName (isName_of_mem_keys hkey) c
    have hown : hasForeign name = false := hasForeign_defaultName hascii c
    constructor
    · rw [← Compile.isIdentifier_iff, isIdentifier_eq_of_isName hdefault, hown, Bool.not_false]
    · intro owner hreported
      have hrefused := (Check.invalidFieldName_mem_iff.mp hreported).1
      rw [hverdict hdefault, hown] at hrefused
      cases hrefused

end Jdl

end EntitySchema

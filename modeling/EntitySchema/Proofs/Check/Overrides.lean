import EntitySchema.Proofs.Check.Verdict
import EntitySchema.Proofs.Noun.Override

/-! Overrides that the checks report as empty. They report every override whose plural is blank
(`reportedEmpty_eq`), while a name takes a blank plural for one, unless it has no characters at all.
Without the reported overrides the resources stay as they are exactly when none of these decided
(`resources_withoutReported_iff`). -/
namespace EntitySchema

def Dict.without {α : Type} (d : Dict α) (keys : List String) : Dict α where
  entries := d.entries.filter fun e => !keys.contains e.1
  nodup := d.nodup.sublist (List.filter_sublist.map Prod.fst)

namespace Check

def reportedWords (code : String) (ds : Diagnostics) : List String :=
  ds.filterMap fun d =>
    if d.code = code then
      match d.context.lookup "word" with
      | some (.text word) => some word
      | _ => none
    else none

/-- The words whose overrides a full run of the checks reports as empty. -/
def reportedEmpty (s : Schema) (settings : Settings) : List String :=
  reportedWords "EMPTY_PLURAL_OVERRIDE" (diagnostics (full s settings))

def Issue.word? : Issue → Option String
  | .emptyOverride word | .unknownOverride word => some word
  | _ => none

theorem Issue.word?_eq (i : Issue) :
    i.word? = match i.diagnostic.context.lookup "word" with
      | some (.text word) => some word
      | _ => none := by
  cases i <;> simp [word?, diagnostic, context, lookup_cons_if]

/-- The checks of a schema report no overrides. -/
theorem word?_of_mem_schema {s : Schema} {i : Issue} (h : i ∈ schema s) : i.word? = none := by
  have herror : i.severity ≠ .warning → i.word? = none := by
    cases i <;> simp [Issue.severity, Issue.word?]
  have hmem : i ∈ entityIds s ∨ i ∈ entityNames s ∨ i ∈ fieldNames s ∨ i ∈ relationshipTargets s ∨
      i ∈ inverseLinks s ∨ i ∈ enums s := by
    simpa [schema, schemaChecks] using h
  rcases hmem with h | h | h | h | h | h
  · exact herror (by simp [(severity_of_mem_entityIds h).1])
  · obtain ⟨e, -, rfl⟩ := List.mem_map.mp h
    rfl
  · exact herror (by simp [(severity_of_mem_fieldNames h).1])
  · exact herror (by simp [severity_of_mem_relationshipTargets h])
  · exact herror (by simp [severity_of_mem_inverseLinks h])
  · obtain ⟨⟨name, values⟩, -, hi⟩ := List.mem_flatMap.mp h
    dsimp only at hi
    split at hi
    · rw [List.mem_singleton.mp hi]
      rfl
    · obtain ⟨value, -, rfl⟩ := List.mem_map.mp hi
      rfl

def wordsUnder (code : String) (issues : List Issue) : List String :=
  issues.filterMap fun i => if i.code = code then i.word? else none

theorem reportedWords_diagnostics (code : String) (issues : List Issue) :
    reportedWords code (diagnostics issues) = wordsUnder code issues := by
  rw [reportedWords, diagnostics, List.filterMap_map]
  refine List.filterMap_congr fun i _ => ?_
  rw [i.word?_eq]
  rfl

/-- Of all checks, only those of overrides report words. -/
theorem wordsUnder_full (code : String) (s : Schema) (settings : Settings) :
    wordsUnder code (full s settings) =
      wordsUnder code (overrides settings) ++ wordsUnder code (overrideWords s settings) := by
  have hschema : wordsUnder code (schema s) = [] :=
    List.filterMap_eq_nil_iff.mpr fun i hi => by rw [word?_of_mem_schema hi, ite_self]
  simp only [full, wordsUnder, List.filterMap_append] at hschema ⊢
  rw [hschema, List.nil_append]

theorem wordsUnder_map {code : String} (issue : String → Issue)
    (hword : ∀ word, (issue word).word? = some word) (hcode : ∀ word, (issue word).code = code)
    (words : List String) : wordsUnder code (words.map issue) = words := by
  simp [wordsUnder, List.filterMap_map, hword, hcode]

theorem wordsUnder_map_other {code : String} {issue : String → Issue}
    (hcode : ∀ word, (issue word).code ≠ code) (words : List String) :
    wordsUnder code (words.map issue) = [] := by
  simp [wordsUnder, List.filterMap_map, hcode]

def blankWords (settings : Settings) : List String :=
  (settings.pluralOverrides.entries.filter fun e => Text.trimmed e.2 == "").map Prod.fst

theorem overrides_eq (settings : Settings) :
    overrides settings = (blankWords settings).map .emptyOverride := by
  rw [blankWords, List.map_map]
  rfl

/-- The words reported are those whose plural is blank, in their order. -/
theorem reportedEmpty_eq (s : Schema) (settings : Settings) :
    reportedEmpty s settings = blankWords settings := by
  rw [reportedEmpty, reportedWords_diagnostics, wordsUnder_full, overrides_eq,
    wordsUnder_map .emptyOverride (fun _ => rfl) fun _ => rfl, overrideWords,
    wordsUnder_map_other (by simp [Issue.code]), List.append_nil]

variable (s : Schema) (settings : Settings)

def withoutReported : Settings :=
  { settings with
    pluralOverrides := settings.pluralOverrides.without (reportedEmpty s settings) }

theorem entries_withoutReported :
    (withoutReported s settings).pluralOverrides.entries =
      settings.pluralOverrides.entries.filter fun e => Text.trimmed e.2 != "" := by
  refine List.filter_congr fun e he => ?_
  have hreported : e.1 ∈ reportedEmpty s settings ↔ Text.trimmed e.2 = "" := by
    simp only [reportedEmpty_eq, blankWords, List.mem_map, List.mem_filter, beq_iff_eq]
    constructor
    · rintro ⟨d, ⟨hd, hblank⟩, hkey⟩
      have hvalue := (settings.pluralOverrides.mem_entries_iff d.1 d.2).mp hd
      rw [hkey, (settings.pluralOverrides.mem_entries_iff e.1 e.2).mp he,
        Option.some.injEq] at hvalue
      rwa [hvalue]
    · exact fun hblank => ⟨e, ⟨he, hblank⟩, rfl⟩
  rw [Bool.eq_iff_iff, Bool.not_eq_true', ← Bool.not_eq_true, List.contains_iff_mem, hreported,
    bne_iff_ne]

theorem trimmed_eq_empty_iff (t : String) :
    Text.trimmed t = "" ↔ t.toList.all Text.isBlank = true := by
  rw [← Text.trim_eq_nil_iff, Text.trimmed, ← String.toList_inj, String.toList_ofList]
  rfl

/-- A search passes over a filter that keeps what it finds. -/
theorem find?_filter_of_find? {α : Type} {p q : α → Bool} {l : List α}
    (h : ∀ a, l.find? p = some a → q a = true) : (l.filter q).find? p = l.find? p := by
  induction l with
  | nil => rfl
  | cons a r ih =>
    cases ha : p a with
    | true =>
      have hq : q a = true := h a (by rw [List.find?_cons, ha])
      rw [List.filter_cons_of_pos hq, List.find?_cons, List.find?_cons, ha]
    | false =>
      have hr : (r.filter q).find? p = r.find? p :=
        ih fun b hb => h b (by rw [List.find?_cons, ha, hb])
      by_cases hq : q a = true
      · rw [List.filter_cons_of_pos hq, List.find?_cons, List.find?_cons, ha, hr]
      · rw [List.filter_cons_of_neg hq, List.find?_cons, ha, hr]

variable {s settings}

/-- Where the override that decides is not blank, it decides without those reported. -/
theorem deciding?_withoutReported {entity : String}
    (h : ∀ e, Noun.deciding? settings.pluralOverrides entity = some e → Text.trimmed e.2 ≠ "") :
    Noun.deciding? (withoutReported s settings).pluralOverrides entity =
      Noun.deciding? settings.pluralOverrides entity := by
  have hkept : ∀ e, Noun.deciding? settings.pluralOverrides entity = some e →
      (Text.trimmed e.2 != "") = true := fun e he => bne_iff_ne.mpr (h e he)
  simp only [Noun.deciding?, entries_withoutReported] at hkept ⊢
  cases hexact : settings.pluralOverrides.entries.find? (Noun.isExact entity) with
  | some e =>
    rw [hexact, Option.some_or] at hkept
    rw [find?_filter_of_find? fun a ha => hkept a (hexact ▸ ha), hexact]
    rfl
  | none =>
    rw [hexact, Option.none_or] at hkept
    -- What finds nothing among all overrides finds nothing among fewer.
    rw [find?_filter_of_find? fun a ha => by simp [hexact] at ha, hexact, Option.none_or,
      find?_filter_of_find? hkept]
    rfl

/-- No resource is blank without the overrides reported, unless it is empty. -/
theorem resource_withoutReported (entity : String) :
    let resource := Noun.resource
      (Noun.Override.ofDict (withoutReported s settings).pluralOverrides) entity.toList
    resource = [] ∨ resource.all Text.isBlank = false := by
  intro resource
  have hresource : resource = _ := Noun.resource_eq _ entity
  cases hdeciding : Noun.deciding? (withoutReported s settings).pluralOverrides entity with
  | some e =>
    have hmem := (Noun.mem_of_deciding hdeciding).1
    rw [entries_withoutReported, List.mem_filter, bne_iff_ne, ne_eq, trimmed_eq_empty_iff,
      Bool.not_eq_true] at hmem
    rw [hdeciding] at hresource
    exact .inr (by rw [hresource, Text.all_isBlank_lower, hmem.2])
  | none =>
    rw [hdeciding] at hresource
    by_cases hentity : Text.lower entity.toList = []
    · exact .inl (by rw [hresource, hentity]; rfl)
    · exact .inr (by rw [hresource, Noun.plural_not_blank hentity])

/-- The path of an entity stays as it is without the overrides reported exactly when none of these
decided on it. -/
theorem resourcePath_withoutReported_iff (entity : String) :
    Schema.resourcePath (withoutReported s settings).pluralOverrides entity =
        Schema.resourcePath settings.pluralOverrides entity ↔
      ∀ e, Noun.deciding? settings.pluralOverrides entity = some e → Text.trimmed e.2 ≠ "" := by
  constructor
  · intro hpath e he hblank
    have hblank : (Text.lower e.2.toList).all Text.isBlank = true := by
      rwa [Text.all_isBlank_lower, ← trimmed_eq_empty_iff]
    have hnonempty : Text.lower e.2.toList ≠ [] := by
      rw [ne_eq, Text.lower_eq_nil_iff]
      simpa using (Noun.isAny_iff.mp (Noun.mem_of_deciding he).2).1
    have hsame := String.append_right_inj .. |>.mp hpath
    rw [String.ofList_inj, Noun.resource_eq settings.pluralOverrides, he] at hsame
    rcases @resource_withoutReported s settings entity with h | h
    · exact hnonempty (hsame.symm.trans h)
    · rw [hsame, hblank] at h
      exact absurd h (by decide)
  · intro h
    rw [Noun.resourcePath_eq, Noun.resourcePath_eq, deciding?_withoutReported h]

variable (s settings)

/-- Without the overrides reported as empty, the resources of a document stay as they are exactly
when the plural of no override that decides on an entity is blank: one that is blank but has
characters is reported and yet counts. -/
theorem resources_withoutReported_iff :
    (s.document (withoutReported s settings)).lookup "resources" =
        (s.document settings).lookup "resources" ↔
      ∀ entity ∈ s.entities.keys, ∀ e,
        Noun.deciding? settings.pluralOverrides entity = some e → Text.trimmed e.2 ≠ "" := by
  simp only [Schema.lookup_resources_document, Option.some.injEq, Value.ofDictEntries,
    Value.mapping.injEq, List.map_map, List.map_inj_left, Function.comp_apply, Prod.mk.injEq,
    Value.text.injEq, true_and, resourcePath_withoutReported_iff]

/-- An override by a space is reported and yet names the resource. -/
theorem resources_withoutReported_blank :
    let s : Schema := ⟨.ofList [("Person", [Field.id])], .empty⟩
    let settings : Settings := { pluralOverrides := .ofList [("Person", " ")] }
    reportedEmpty s settings = ["Person"] ∧
      (s.document settings).lookup "resources" =
        some (.ofDictEntries [("Person", .text "/ ")]) ∧
      (s.document (withoutReported s settings)).lookup "resources" =
        some (.ofDictEntries [("Person", .text "/people")]) := by
  intro s settings
  have hbefore : s.resources settings.pluralOverrides = [("Person", "/ ")] := by decide +kernel
  have hafter : s.resources (withoutReported s settings).pluralOverrides =
      [("Person", "/people")] := by decide +kernel
  refine ⟨by decide +kernel, ?_, ?_⟩
  · simp [Schema.document, Schema.documentWith, lookup_cons_if, hbefore]
  · simp [Schema.document, Schema.documentWith, lookup_cons_if, hafter]

end Check

end EntitySchema
